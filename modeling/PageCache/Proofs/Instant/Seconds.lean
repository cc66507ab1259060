import PageCache.Instant.Basic
import PageCache.Proofs.Binary64.Whole

/-! Instants in whole seconds. The quotient of the microseconds is rounded to a double before it is
cut off towards zero: far from 1970 a fraction can be rounded up to the next second, and before 1970
it is cut off upwards. -/

namespace PageCache

namespace Instant

open Binary64

/-- Whether the second that holds a fraction is the one that is told. -/
def KeepsSecond (second : Int) (fraction : Nat) : Prop :=
  fraction = 0 ∨ (second < 0 ↔ RoundsUp (second * 1000000 + fraction).natAbs 1000000)

instance (second : Int) (fraction : Nat) : Decidable (KeepsSecond second fraction) :=
  inferInstanceAs (Decidable (_ ∨ _))

variable (t : Instant)

lemma micros_eq : t.second * 1000000 + t.fraction = t.micros := by
  simp only [second, fraction]
  omega

lemma natAbs_div_lt : t.micros.natAbs / 1000000 < 2 ^ 52 := by
  have hfirst := t.first_le
  have hlast := t.le_last
  unfold firstMicros at hfirst
  unfold lastMicros at hlast
  omega

lemma quotient?_micros :
    quotient? t.micros 1000000 = some (.finite (decide (t.micros < 0))
      ⟨_, roundRank_lt_topRank (by decide) t.natAbs_div_lt⟩) := by
  have hsign : (decide (t.micros < 0) != decide ((1000000 : Int) < 0)) = decide (t.micros < 0) :=
    Bool.bne_false _
  rw [quotient?, hsign, ofRatio, ofUnits_of_lt]
  rfl

lemma epochSeconds_eq_whole {whole : Nat}
    (h : (t.micros.natAbs / 1000000 + if RoundsUp t.micros.natAbs 1000000 then 1 else 0) = whole) :
    t.epochSeconds = if t.micros < 0 then -(whole : Int) else whole := by
  rw [epochSeconds, quotient?_micros, Option.map_some, Option.getD_some, truncated,
    units_quotient (by decide) t.natAbs_div_lt, h]
  simp only [decide_eq_true_eq]

lemma not_roundsUp_of_fraction (h : t.fraction = 0) : ¬RoundsUp t.micros.natAbs 1000000 := by
  apply not_roundsUp_of_mod_eq_zero (by decide) t.natAbs_div_lt
  unfold fraction at h
  omega

lemma keepsSecond_iff :
    KeepsSecond t.second t.fraction ↔
      t.fraction = 0 ∨ (t.micros < 0 ↔ RoundsUp t.micros.natAbs 1000000) := by
  have hneg : t.second < 0 ↔ t.micros < 0 := by
    unfold second
    omega
  rw [KeepsSecond, micros_eq, hneg]

theorem epochSeconds_eq :
    t.epochSeconds = t.second + if KeepsSecond t.second t.fraction then 0 else 1 := by
  have hsecond : t.second = t.micros / 1000000 := rfl
  have hfraction : (t.fraction : Int) = t.micros % 1000000 := by
    unfold fraction
    omega
  by_cases hup : RoundsUp t.micros.natAbs 1000000
  · have hsome : t.fraction ≠ 0 := fun hzero => t.not_roundsUp_of_fraction hzero hup
    have hkeep : KeepsSecond t.second t.fraction ↔ t.micros < 0 := by
      simp [keepsSecond_iff, hup, hsome]
    rw [t.epochSeconds_eq_whole (by rw [if_pos hup]), if_congr hkeep rfl rfl]
    split <;> omega
  · have hkeep : KeepsSecond t.second t.fraction ↔ t.fraction = 0 ∨ 0 ≤ t.micros := by
      simp [keepsSecond_iff, hup]
    rw [t.epochSeconds_eq_whole (by rw [if_neg hup]), if_congr hkeep rfl rfl]
    split <;> split <;> omega

/-- The seconds that are told of a time: zero if it was never taken, else those of the second it
falls into, or of the next one. -/
def told : Option Instant → Int
  | none => 0
  | some t =>
    let second := t.micros / 1000000
    second + if KeepsSecond second (t.micros % 1000000).toNat then 0 else 1

lemma told_eq (t : Option Instant) : told t = t.elim 0 epochSeconds := by
  cases t with
  | none => rfl
  | some t => rw [told, Option.elim_some, epochSeconds_eq, second, fraction]

lemma keepsSecond_iff_of_near (hlow : -2 ^ 34 ≤ t.second) (hhigh : t.second < 2 ^ 34) :
    KeepsSecond t.second t.fraction ↔ t.fraction = 0 ∨ 0 ≤ t.second := by
  have hmicros := t.micros_eq
  have hlt := t.fraction_lt
  by_cases hzero : t.fraction = 0
  · exact iff_of_true (.inl hzero) (.inl hzero)
  have hfew : t.micros.natAbs / 1000000 < 2 ^ 34 := by omega
  have hnot : ¬RoundsUp t.micros.natAbs 1000000 :=
    not_roundsUp_of_lt (by decide) (by decide) hfew (by decide)
  rw [keepsSecond_iff, iff_false_right hnot]
  omega

-- Neither bound can be moved.
example : ¬KeepsSecond 17179869184 999999 ∧ KeepsSecond (-17179869185) 1 := by decide

end Instant

end PageCache
