import Mathlib.Algebra.Order.Field.Basic
import Mathlib.Algebra.Order.Field.Rat
import Mathlib.Order.Monotone.Basic
import Mathlib.Tactic.Linarith
import Mathlib.Tactic.Ring
import PageCache.Binary64.Rounding

/-! Rounding to the nearest double. Whether a quotient rounds to at most some magnitude is decided at
the midpoint behind that magnitude; that rounding is monotone, exact on doubles and to a nearest
double is read off there. -/

namespace PageCache.Binary64

lemma one_eq : one = 2 ^ unitExponent := Nat.one_shiftLeft _

lemma one_eq_mul {n k : Nat} (h : unitExponent = n + k) : one = 2 ^ n * 2 ^ k := by
  rw [one_eq, h, Nat.pow_add]

lemma one_pos : 0 < one := one_eq ▸ Nat.two_pow_pos unitExponent

lemma exists_significand (rank : Nat) :
    ∃ step m, rank = step * 2 ^ 52 + m ∧ m < 2 ^ 53 ∧ (step = 0 ∨ 2 ^ 52 ≤ m) :=
  ⟨rank / 2 ^ 52 - 1, rank - (rank / 2 ^ 52 - 1) * 2 ^ 52, by omega, by omega, by omega⟩

lemma units_significand {step m : Nat} (hm : m ≤ 2 ^ 53) (h : step = 0 ∨ 2 ^ 52 ≤ m) :
    units (step * 2 ^ 52 + m) = m * 2 ^ step := by
  simp only [units, Nat.shiftRight_eq_div_pow, Nat.shiftLeft_eq, Nat.one_mul]
  by_cases hlow : m < 2 ^ 52
  · obtain rfl : step = 0 := by omega
    rw [if_pos (by omega), Nat.pow_zero, Nat.zero_mul, Nat.zero_add, Nat.mul_one]
  rw [if_neg (by omega)]
  by_cases htop : m = 2 ^ 53
  · have hstep : (step * 2 ^ 52 + m) / 2 ^ 52 - 1 = step + 1 := by omega
    have hrest : (step * 2 ^ 52 + m) % 2 ^ 52 = 0 := by omega
    rw [hstep, hrest, htop, Nat.pow_succ]
    omega
  · have hstep : (step * 2 ^ 52 + m) / 2 ^ 52 - 1 = step := by omega
    have hrest : 2 ^ 52 + (step * 2 ^ 52 + m) % 2 ^ 52 = m := by omega
    rw [hstep, hrest]

lemma units_lt_succ (rank : Nat) : units rank < units (rank + 1) := by
  obtain ⟨step, m, rfl, hm, h⟩ := exists_significand rank
  rw [Nat.add_assoc, units_significand (by omega) h, units_significand (by omega) (by omega)]
  exact Nat.mul_lt_mul_of_pos_right (Nat.lt_succ_self m) (Nat.two_pow_pos step)

lemma units_strictMono : StrictMono units := strictMono_nat_of_lt_succ units_lt_succ

lemma units_zero : units 0 = 0 := rfl

lemma units_pos {rank : Nat} (h : rank ≠ 0) : 0 < units rank :=
  units_strictMono (Nat.pos_of_ne_zero h)

lemma roundDiv_le_iff {num den n : Nat} (hden : 0 < den) :
    roundDiv num den ≤ n ↔
      2 * num ≤ (2 * n + 1) * den ∧ (2 * num = (2 * n + 1) * den → n % 2 = 0) := by
  have hdiv := Nat.div_add_mod num den
  have hmod := Nat.mod_lt num hden
  have hodd : (2 * n + 1) * den = 2 * (den * n) + den := by ring
  rw [hodd, roundDiv]
  generalize num / den = q at *
  generalize num % den = r at *
  obtain hlt | rfl | hgt := Nat.lt_trichotomy q n
  · have hstep : den * q + den ≤ den * n := Nat.mul_le_mul_left den hlt
    split <;> omega
  · split <;> omega
  · have hstep : den * n + den ≤ den * q := Nat.mul_le_mul_left den hgt
    split <;> omega

lemma roundRank_zero (den : Nat) : roundRank 0 den = 0 := by
  have hround : ∀ d, roundDiv 0 d = 0 := by
    intro d
    rw [roundDiv, Nat.zero_mod, Nat.zero_div, if_pos]
    omega
  rw [roundRank, hround, Nat.zero_div]
  rfl

lemma div_pow_lt {n step : Nat} (h : Nat.log2 n ≤ step + 52) : n / 2 ^ step < 2 ^ 53 := by
  rw [Nat.div_lt_iff_lt_mul (by positivity), ← Nat.pow_add]
  have hn : n < 2 ^ (Nat.log2 n + 1) := Nat.lt_log2_self
  exact Nat.lt_of_lt_of_le hn (Nat.pow_le_pow_right (by decide) (by omega))

lemma le_div_pow {n step : Nat} (hn : n ≠ 0) (h : step + 52 ≤ Nat.log2 n) :
    2 ^ 52 ≤ n / 2 ^ step := by
  rw [Nat.le_div_iff_mul_le (by positivity), ← Nat.pow_add]
  exact (Nat.pow_le_pow_right (by decide) (by omega)).trans (Nat.log2_self_le hn)

/-- At the step that a quotient is rounded at, its whole part has no more than 53 bits, and no fewer
unless the step is the first. -/
lemma quotient_bounds (num den : Nat) :
    let step := Nat.log2 (num / den) - 52
    num / (den * 2 ^ step) < 2 ^ 53 ∧ (step = 0 ∨ 2 ^ 52 ≤ num / (den * 2 ^ step)) := by
  intro step
  rw [← Nat.div_div_eq_div_mul]
  refine ⟨div_pow_lt (by omega), Nat.eq_zero_or_pos step |>.imp_right fun hstep => ?_⟩
  refine le_div_pow ?_ (by omega)
  intro hzero
  simp [step, hzero] at hstep

/-- The midpoint between two magnitudes decides, and belongs to the even one. -/
theorem roundRank_le_iff {num den rank : Nat} (hden : 0 < den) :
    roundRank num den ≤ rank ↔
      2 * num ≤ (units rank + units (rank + 1)) * den ∧
        (2 * num = (units rank + units (rank + 1)) * den → rank % 2 = 0) := by
  obtain ⟨hfew, hmany⟩ := quotient_bounds num den
  simp only [roundRank, Nat.shiftLeft_eq]
  generalize Nat.log2 (num / den) - 52 = step at *
  have hpow : 0 < 2 ^ step := Nat.two_pow_pos step
  have hround := roundDiv_bounds num (den * 2 ^ step)
  have hsucc := units_lt_succ rank
  by_cases hbelow : step ≠ 0 ∧ rank < step * 2 ^ 52 + 2 ^ 52
  · -- The quotient is in a later step than `rank`.
    have hfirst : units (step * 2 ^ 52 + 2 ^ 52) = 2 ^ 52 * 2 ^ step :=
      units_significand (by decide) (.inr (Nat.le_refl _))
    have hle : units (rank + 1) ≤ 2 ^ 52 * 2 ^ step := hfirst ▸ units_strictMono.monotone hbelow.2
    have hnum : 2 ^ 52 * (den * 2 ^ step) ≤ num :=
      (Nat.le_div_iff_mul_le (by positivity)).1 (by omega)
    have hlt : (units rank + units (rank + 1)) * den < 2 * num := by
      calc (units rank + units (rank + 1)) * den
          < (2 * (2 ^ 52 * 2 ^ step)) * den := Nat.mul_lt_mul_of_pos_right (by omega) hden
        _ = 2 * (2 ^ 52 * (den * 2 ^ step)) := by ring
        _ ≤ 2 * num := by omega
    omega
  by_cases habove : step * 2 ^ 52 + 2 ^ 53 ≤ rank
  · -- The quotient is in an earlier step than `rank`.
    have hnext : units (step * 2 ^ 52 + 2 ^ 53) = 2 ^ 53 * 2 ^ step :=
      units_significand (Nat.le_refl _) (.inr (by decide))
    have hle : 2 ^ 53 * 2 ^ step ≤ units rank := hnext ▸ units_strictMono.monotone habove
    have hnum : num < 2 ^ 53 * (den * 2 ^ step) := (Nat.div_lt_iff_lt_mul (by positivity)).1 hfew
    have hlt : 2 * num < (units rank + units (rank + 1)) * den := by
      calc 2 * num < 2 * (2 ^ 53 * (den * 2 ^ step)) := by omega
        _ = (2 * (2 ^ 53 * 2 ^ step)) * den := by ring
        _ ≤ (units rank + units (rank + 1)) * den := Nat.mul_le_mul_right den (by omega)
    omega
  obtain ⟨m, rfl⟩ : ∃ m, rank = step * 2 ^ 52 + m := ⟨rank - step * 2 ^ 52, by omega⟩
  have hmid : (units (step * 2 ^ 52 + m) + units (step * 2 ^ 52 + m + 1)) * den =
      (2 * m + 1) * (den * 2 ^ step) := by
    rw [Nat.add_assoc, units_significand (by omega) (by omega),
      units_significand (by omega) (by omega)]
    ring
  rw [Nat.add_le_add_iff_left, hmid, roundDiv_le_iff (by positivity)]
  have hparity : (step * 2 ^ 52 + m) % 2 = m % 2 := by omega
  rw [hparity]

section

variable {num den num' den' rank : Nat}

lemma roundRank_mono (hden : 0 < den) (hden' : 0 < den') (h : num * den' ≤ num' * den) :
    roundRank num den ≤ roundRank num' den' := by
  obtain ⟨hle, htie⟩ := (roundRank_le_iff hden').1 (Nat.le_refl (roundRank num' den'))
  rw [roundRank_le_iff hden]
  generalize units (roundRank num' den') + units (roundRank num' den' + 1) = mid at *
  have hscaled : 2 * num * den' ≤ mid * den * den' := by
    calc 2 * num * den' ≤ 2 * num' * den := by rw [Nat.mul_assoc, Nat.mul_assoc]; omega
      _ ≤ mid * den' * den := Nat.mul_le_mul_right den hle
      _ = mid * den * den' := Nat.mul_right_comm ..
  refine ⟨Nat.le_of_mul_le_mul_right hscaled hden', fun heq => htie ?_⟩
  refine Nat.le_antisymm hle (Nat.le_of_mul_le_mul_right (c := den) ?_ hden)
  calc mid * den' * den = 2 * num * den' := by rw [heq, Nat.mul_right_comm]
    _ ≤ 2 * num' * den := by rw [Nat.mul_assoc, Nat.mul_assoc]; omega

lemma lt_roundRank_of_lt (hden : 0 < den) (h : (units rank + units (rank + 1)) * den < 2 * num) :
    rank < roundRank num den := by
  rw [← Nat.not_le, roundRank_le_iff hden]
  omega

lemma roundRank_units (hden : 0 < den) (rank : Nat) : roundRank (units rank * den) den = rank := by
  have hsucc := Nat.mul_lt_mul_of_pos_right (units_lt_succ rank) hden
  apply Nat.le_antisymm
  · rw [roundRank_le_iff hden, Nat.add_mul]
    omega
  · cases rank with
    | zero => exact Nat.zero_le _
    | succ k =>
      have hlt := Nat.mul_lt_mul_of_pos_right (units_lt_succ k) hden
      apply lt_roundRank_of_lt hden
      rw [Nat.add_mul]
      omega

lemma le_roundRank_of_le (hden : 0 < den) (h : units rank * den ≤ num) :
    rank ≤ roundRank num den := by
  calc rank = roundRank (units rank * den) den := (roundRank_units hden rank).symm
    _ ≤ roundRank num den := roundRank_mono hden hden (Nat.mul_le_mul_right den h)

lemma roundRank_le_of_le (hden : 0 < den) (h : num ≤ units rank * den) :
    roundRank num den ≤ rank := by
  calc roundRank num den ≤ roundRank (units rank * den) den :=
        roundRank_mono hden hden (Nat.mul_le_mul_right den h)
    _ = rank := roundRank_units hden rank

lemma roundRank_le_midpoint (hden : 0 < den) (h : roundRank num den < rank) :
    2 * num ≤ (units (roundRank num den) + units rank) * den ∧
      (2 * num = (units (roundRank num den) + units rank) * den → roundRank num den % 2 = 0) := by
  obtain ⟨hle, htie⟩ := (roundRank_le_iff hden).1 (Nat.le_refl (roundRank num den))
  have hunits : units (roundRank num den + 1) ≤ units rank := units_strictMono.monotone h
  have hmid := Nat.mul_le_mul_right den (Nat.add_le_add_left hunits (units (roundRank num den)))
  exact ⟨hle.trans hmid, fun heq => htie (by omega)⟩

lemma midpoint_le_roundRank (hden : 0 < den) (h : rank < roundRank num den) :
    (units rank + units (roundRank num den)) * den ≤ 2 * num ∧
      ((units rank + units (roundRank num den)) * den = 2 * num → roundRank num den % 2 = 0) := by
  obtain ⟨k, hk⟩ : ∃ k, roundRank num den = k + 1 := ⟨roundRank num den - 1, by omega⟩
  have hnot : ¬roundRank num den ≤ k := by omega
  rw [roundRank_le_iff hden] at hnot
  have hunits : units rank ≤ units k := units_strictMono.monotone (by omega)
  have hmid := Nat.mul_le_mul_right den (Nat.add_le_add_right hunits (units (k + 1)))
  rw [hk]
  omega

end

/-- The number that a finite double stands for. -/
def value? : Binary64 → Option ℚ
  | .finite negative rank => some (signedUnits negative rank / one)
  | _ => none

/-- A finite double with no other one nearer to a number, and even where another one is as near. -/
def Nearest (x : Binary64) (q : ℚ) : Prop :=
  ∃ negative rank v, x = .finite negative rank ∧ x.value? = some v ∧
    ∀ y w, value? y = some w → |v - q| < |w - q| ∨ |v - q| = |w - q| ∧ (w = v ∨ rank.val % 2 = 0)

lemma nearer_of_midpoint {u w q : ℚ} (h : u < w ∧ 2 * q ≤ u + w ∨ w < u ∧ u + w ≤ 2 * q) :
    |u - q| < |w - q| ∨ |u - q| = |w - q| ∧ 2 * q = u + w := by
  obtain ⟨huw, hmid⟩ | ⟨hwu, hmid⟩ := h
  · rw [abs_of_pos (by linarith : 0 < w - q)]
    obtain hlt | heq := hmid.lt_or_eq
    · exact .inl (abs_lt.2 ⟨by linarith, by linarith⟩)
    · exact .inr ⟨by rw [abs_of_neg (by linarith)]; linarith, heq⟩
  · rw [abs_of_neg (by linarith : w - q < 0)]
    obtain hlt | heq := hmid.lt_or_eq
    · exact .inl (abs_lt.2 ⟨by linarith, by linarith⟩)
    · exact .inr ⟨by rw [abs_of_pos (by linarith)]; linarith, heq.symm⟩

variable {num den : Nat}

lemma units_nearest (num : Nat) (hden : 0 < den) (k : Nat) :
    |(units (roundRank num den) : ℚ) - num / den| < |(units k : ℚ) - num / den| ∨
      |(units (roundRank num den) : ℚ) - num / den| = |(units k : ℚ) - num / den| ∧
        (k = roundRank num den ∨ roundRank num den % 2 = 0) := by
  have hpos : (0 : ℚ) < den := Nat.cast_pos.2 hden
  obtain hlt | rfl | hgt := Nat.lt_trichotomy (roundRank num den) k
  · obtain ⟨hle, htie⟩ := roundRank_le_midpoint hden hlt
    have hmid : 2 * (num / den : ℚ) ≤ units (roundRank num den) + units k := by
      rw [← mul_div_assoc, div_le_iff₀ hpos]
      exact_mod_cast hle
    refine (nearer_of_midpoint (.inl ⟨Nat.cast_lt.2 (units_strictMono hlt), hmid⟩)).imp_right
      fun ⟨habs, heq⟩ => ⟨habs, .inr (htie ?_)⟩
    rw [← mul_div_assoc, div_eq_iff hpos.ne'] at heq
    exact_mod_cast heq
  · exact .inr ⟨rfl, .inl rfl⟩
  · obtain ⟨hle, htie⟩ := midpoint_le_roundRank hden hgt
    rw [Nat.add_comm] at hle htie
    have hmid : units (roundRank num den) + units k ≤ 2 * (num / den : ℚ) := by
      rw [← mul_div_assoc, le_div_iff₀ hpos]
      exact_mod_cast hle
    refine (nearer_of_midpoint (.inr ⟨Nat.cast_lt.2 (units_strictMono hgt), hmid⟩)).imp_right
      fun ⟨habs, heq⟩ => ⟨habs, .inr (htie ?_)⟩
    rw [← mul_div_assoc, div_eq_iff hpos.ne'] at heq
    exact_mod_cast heq.symm

lemma value?_positive (rank : Fin topRank) :
    value? (.finite false rank) = some ((units rank : ℚ) / one) := rfl

lemma ofUnits_of_lt (negative : Bool) (h : roundRank num den < topRank) :
    ofUnits negative num den = .finite negative ⟨roundRank num den, h⟩ := dif_pos h

lemma value_le_iff {a b : Nat} : (units a : ℚ) / one ≤ units b / one ↔ a ≤ b := by
  have hone : (0 : ℚ) < one := Nat.cast_pos.2 one_pos
  rw [div_le_div_iff_of_pos_right hone, Nat.cast_le, units_strictMono.le_iff_le]

lemma value_inj {a b : Nat} : (units a : ℚ) / one = units b / one ↔ a = b := by
  rw [le_antisymm_iff, value_le_iff, value_le_iff, Nat.le_antisymm_iff]

theorem nearest_ofUnits (hden : 0 < den) (h : roundRank num den < topRank) :
    (ofUnits false num den).Nearest (num / den / one) := by
  have hone : (0 : ℚ) < one := Nat.cast_pos.2 one_pos
  have hscale : ∀ x : ℚ, |x / one - num / den / one| = |x - num / den| / one := fun x => by
    rw [← sub_div, abs_div, abs_of_pos hone]
  have hq : (0 : ℚ) ≤ num / den := div_nonneg num.cast_nonneg den.cast_nonneg
  rw [ofUnits_of_lt false h]
  refine ⟨false, ⟨_, h⟩, _, rfl, value?_positive _, ?_⟩
  intro y w hy
  cases y with
  | finite negative k =>
    obtain rfl := Option.some.inj hy
    simp only [signedUnits]
    rw [hscale, hscale, div_lt_div_iff_of_pos_right hone,
      div_left_inj' hone.ne']
    cases negative with
    | false =>
      simp only [Bool.false_eq_true, if_false, Int.cast_natCast]
      refine (units_nearest num hden k).imp_right fun ⟨habs, hk⟩ => ⟨habs, hk.imp_left fun hk => ?_⟩
      rw [hk]
    | true =>
      simp only [if_true, Int.cast_neg, Int.cast_natCast]
      have hzero := units_nearest num hden 0
      rw [units_zero, Nat.cast_zero, zero_sub, abs_neg, abs_of_nonneg hq] at hzero
      have hk : |(-(units k : ℚ)) - num / den| = units k + num / den := by
        rw [abs_of_nonpos (by have : (0 : ℚ) ≤ units k := Nat.cast_nonneg _; linarith)]
        ring
      rw [hk]
      have hpos : (0 : ℚ) ≤ units k := Nat.cast_nonneg _
      obtain hlt | ⟨heq, heven⟩ := hzero
      · exact .inl (by linarith)
      · have heven : roundRank num den % 2 = 0 := by omega
        obtain hunits | hunits := hpos.lt_or_eq
        · exact .inl (by linarith)
        · exact .inr ⟨by linarith, .inr heven⟩
  | nan => cases hy
  | infinite negative => cases hy

end PageCache.Binary64
