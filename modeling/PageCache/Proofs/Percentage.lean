import PageCache.Proofs.Binary64.Rounding
import PageCache.Record

/-! The cached share of all pages in percent. Two roundings follow each other, the first on a
quotient that is at most one and the second on one hundred times its result; as both are monotone
and exact on one and one hundred, the share is never out of range, and it is full or nothing only of
all pages or of none, as long as all pages can be told apart by doubles. -/

namespace PageCache

namespace Binary64

lemma units_one : units (1022 * 2 ^ 52 + 2 ^ 52) = one := by
  rw [units_significand (by decide) (.inr (Nat.le_refl _)),
    one_eq_mul (n := 52) (k := 1022) rfl]

/-- Around one hundred the doubles are `2 ^ hundredStep` units apart. -/
def hundredStep : Nat := 1028

def hundredRank : Nat := hundredStep * 2 ^ 52 + 100 * 2 ^ 46

lemma one_eq_hundredStep : one = 2 ^ 46 * 2 ^ hundredStep :=
  one_eq_mul (n := 46) (k := hundredStep) (by decide)

lemma units_hundred : units hundredRank = 100 * one := by
  have hunits : units hundredRank = 100 * 2 ^ 46 * 2 ^ hundredStep :=
    units_significand (by decide) (.inr (by decide))
  rw [hunits, one_eq_hundredStep, Nat.mul_assoc]

lemma hundredRank_lt_topRank : hundredRank < topRank := by decide

lemma ofInt_hundred : ofInt 100 = .finite false ⟨hundredRank, hundredRank_lt_topRank⟩ := by
  have hrank : roundRank (100 * one) 1 = hundredRank := by
    rw [← units_hundred, ← Nat.mul_one (units hundredRank), roundRank_units Nat.one_pos]
  change ofUnits false (100 * one) 1 = _
  rw [ofUnits_of_lt false (hrank ▸ hundredRank_lt_topRank)]
  simp only [hrank]

/-- The rank of a share of all pages, as a rounded quotient. -/
def shareRank (cached pages : Nat) : Nat := roundRank (cached * one) pages

def percentRank (cached pages : Nat) : Nat :=
  roundRank (units (shareRank cached pages) * (100 * one)) one

section

variable {cached more pages : Nat}

lemma shareRank_full (hpages : 0 < pages) : shareRank pages pages = 1022 * 2 ^ 52 + 2 ^ 52 := by
  rw [shareRank, Nat.mul_comm, ← units_one, roundRank_units hpages]

lemma shareRank_mono (hpages : 0 < pages) (h : cached ≤ more) :
    shareRank cached pages ≤ shareRank more pages :=
  roundRank_mono hpages hpages (Nat.mul_le_mul_right pages (Nat.mul_le_mul_right one h))

lemma percentRank_mono (hpages : 0 < pages) (h : cached ≤ more) :
    percentRank cached pages ≤ percentRank more pages := by
  have hshare := units_strictMono.monotone (shareRank_mono hpages h)
  exact roundRank_mono one_pos one_pos
    (Nat.mul_le_mul_right one (Nat.mul_le_mul_right (100 * one) hshare))

lemma percentRank_full (hpages : 0 < pages) : percentRank pages pages = hundredRank := by
  rw [percentRank, shareRank_full hpages, units_one, Nat.mul_comm, ← units_hundred,
    roundRank_units one_pos]

lemma shareRank_zero (pages : Nat) : shareRank 0 pages = 0 := by
  rw [shareRank, Nat.zero_mul, roundRank_zero]

lemma percentRank_zero (pages : Nat) : percentRank 0 pages = 0 := by
  rw [percentRank, shareRank_zero, units_zero, Nat.zero_mul, roundRank_zero]

lemma shareRank_lt_topRank (h : cached ≤ pages) : shareRank cached pages < topRank := by
  obtain rfl | hpages := Nat.eq_zero_or_pos pages
  · rw [Nat.le_zero.1 h, shareRank_zero]
    decide
  · exact Nat.lt_of_le_of_lt (shareRank_mono hpages h) (shareRank_full hpages ▸ by decide)

lemma percentRank_le (h : cached ≤ pages) : percentRank cached pages ≤ hundredRank := by
  obtain rfl | hpages := Nat.eq_zero_or_pos pages
  · rw [Nat.le_zero.1 h, percentRank_zero]
    exact Nat.zero_le _
  · exact percentRank_full hpages ▸ percentRank_mono hpages h

lemma percentRank_lt_topRank (h : cached ≤ pages) : percentRank cached pages < topRank :=
  Nat.lt_of_le_of_lt (percentRank_le h) hundredRank_lt_topRank

/-- One page short of all, a share is no more than the greatest double below one. -/
lemma units_shareRank_le (hpages : pages < 2 ^ 53) (h : cached < pages) :
    units (shareRank cached pages) * 2 ^ 53 ≤ (2 ^ 53 - 1) * one := by
  have hunits : units (1021 * 2 ^ 52 + (2 ^ 53 - 1)) = (2 ^ 53 - 1) * 2 ^ 1021 :=
    units_significand (by decide) (.inr (by decide))
  have hone : one = 2 ^ 53 * 2 ^ 1021 := one_eq_mul rfl
  have hrank : shareRank cached pages ≤ 1021 * 2 ^ 52 + (2 ^ 53 - 1) := by
    rw [← roundRank_units Nat.one_pos (1021 * 2 ^ 52 + (2 ^ 53 - 1)), hunits]
    apply roundRank_mono (by omega) Nat.one_pos
    have hcounts : cached * 2 ^ 53 ≤ (2 ^ 53 - 1) * pages := by omega
    calc cached * one * 1 = cached * 2 ^ 53 * 2 ^ 1021 := by rw [Nat.mul_one, hone, Nat.mul_assoc]
      _ ≤ (2 ^ 53 - 1) * pages * 2 ^ 1021 := Nat.mul_le_mul_right _ hcounts
      _ = (2 ^ 53 - 1) * 2 ^ 1021 * 1 * pages := by rw [Nat.mul_one, Nat.mul_right_comm]
  calc units (shareRank cached pages) * 2 ^ 53
      ≤ (2 ^ 53 - 1) * 2 ^ 1021 * 2 ^ 53 :=
        Nat.mul_le_mul_right _ (hunits ▸ units_strictMono.monotone hrank)
    _ = (2 ^ 53 - 1) * one := by rw [Nat.mul_assoc, Nat.mul_comm (2 ^ 1021), hone]

/-- Rounded, one hundred times such a share is still below the midpoint to one hundred. -/
lemma percentRank_lt (hpages : pages < 2 ^ 53) (h : cached < pages) :
    percentRank cached pages < hundredRank := by
  have hbelow : units (hundredStep * 2 ^ 52 + (100 * 2 ^ 46 - 1)) =
      (100 * 2 ^ 46 - 1) * 2 ^ hundredStep :=
    units_significand (by decide) (.inr (by decide))
  have hshare := units_shareRank_le hpages h
  have hmid : 2 * (units (shareRank cached pages) * 100) <
      (100 * 2 ^ 46 - 1) * 2 ^ hundredStep + 100 * one := by
    have hone := one_eq_hundredStep
    have hpos := Nat.two_pow_pos hundredStep
    omega
  have hscaled := Nat.mul_lt_mul_of_pos_right hmid one_pos
  rw [Nat.mul_assoc, Nat.mul_assoc] at hscaled
  apply Nat.lt_of_le_of_lt (m := hundredStep * 2 ^ 52 + (100 * 2 ^ 46 - 1)) _ (by decide)
  rw [percentRank, roundRank_le_iff one_pos, hbelow,
    show hundredStep * 2 ^ 52 + (100 * 2 ^ 46 - 1) + 1 = hundredRank from rfl, units_hundred]
  exact ⟨hscaled.le, fun heq => absurd heq hscaled.ne⟩

lemma percentRank_pos (hpages : pages < 2 ^ 53) (hcached : 0 < cached) (h : cached ≤ pages) :
    0 < percentRank cached pages := by
  have hmany : 2 ^ 53 ≤ one := by
    rw [one_eq]
    exact Nat.pow_le_pow_right (by decide) (by decide)
  have hshare : 0 < shareRank cached pages := by
    apply lt_roundRank_of_lt (by omega)
    change 1 * pages < _
    have := Nat.le_mul_of_pos_left one hcached
    omega
  have hunits := units_pos hshare.ne'
  apply lt_roundRank_of_lt one_pos
  change 1 * one < _
  have := Nat.le_mul_of_pos_left (100 * one) hunits
  omega

end

/-- The quotient of two counts rounded, and one hundred times what it is rounded to rounded again. -/
def IsPercent (x : Binary64) (cached pages : Int) : Prop :=
  ∃ share q, Nearest share (cached / pages) ∧ share.value? = some q ∧ x.Nearest (q * 100)

section

variable {cached pages : Nat}

lemma quotient?_natCast (h : cached ≤ pages) :
    quotient? cached pages = some (.finite false ⟨_, shareRank_lt_topRank h⟩) := by
  have hsign : (decide ((cached : Int) < 0) != decide ((pages : Int) < 0)) = false := by
    rw [decide_eq_false (by omega), decide_eq_false (by omega)]
    rfl
  rw [quotient?, hsign, Int.natAbs_natCast, Int.natAbs_natCast, ofRatio,
    ofUnits_of_lt false (shareRank_lt_topRank h)]
  rfl

lemma isPercent_percentRank (hpages : 0 < pages) (h : cached ≤ pages) :
    IsPercent (.finite false ⟨_, percentRank_lt_topRank h⟩) cached pages := by
  have hone : (one : ℚ) ≠ 0 := Nat.cast_ne_zero.2 one_pos.ne'
  have hshare := nearest_ofUnits hpages (shareRank_lt_topRank h)
  have hpercent := nearest_ofUnits one_pos (percentRank_lt_topRank h)
  rw [ofUnits_of_lt false (shareRank_lt_topRank h), div_right_comm, Nat.cast_mul,
    mul_div_cancel_right₀ _ hone] at hshare
  have hscaled : ((units (shareRank cached pages) * (100 * one) : Nat) : ℚ) =
      units (shareRank cached pages) * 100 * one := by
    rw [← Nat.mul_assoc, Nat.cast_mul, Nat.cast_mul, Nat.cast_ofNat]
  rw [ofUnits_of_lt false (percentRank_lt_topRank h), hscaled, mul_div_cancel_right₀ _ hone,
    mul_div_right_comm] at hpercent
  exact ⟨_, _, hshare, value?_positive _, hpercent⟩

end

end Binary64

open Binary64

variable {cached pages : Nat}

lemma percentage?_natCast (h : cached ≤ pages) :
    percentage? cached pages = some (.finite false ⟨_, percentRank_lt_topRank h⟩) := by
  obtain rfl | hpages := Nat.eq_zero_or_pos pages
  · obtain rfl := Nat.le_zero.1 h
    simp only [percentRank_zero]
    rfl
  rw [percentage?, if_pos (Int.natCast_pos.2 hpages), quotient?_natCast h, Option.map_some,
    ofInt_hundred]
  simp only [mul, units_hundred]
  exact congrArg some (ofUnits_of_lt false (percentRank_lt_topRank h))

lemma percentage?_isSome {cached missing : Int} (hcached : 0 ≤ cached) (hmissing : 0 ≤ missing) :
    ∃ percent, percentage? cached (cached + missing) = some percent := by
  obtain ⟨c, rfl⟩ := Int.eq_ofNat_of_zero_le hcached
  obtain ⟨m, rfl⟩ := Int.eq_ofNat_of_zero_le hmissing
  exact ⟨_, percentage?_natCast (Nat.le_add_right c m)⟩

end PageCache
