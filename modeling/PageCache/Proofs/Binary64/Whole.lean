import PageCache.Proofs.Binary64.Rounding

/-! Whole numbers as doubles. All up to `2 ^ 52` are doubles, and between two of them the doubles are
evenly spaced; so the whole part of a rounded quotient is that of the quotient, or the next one if the
quotient is at most half a step away from it. -/

namespace PageCache

namespace Binary64

/-- The rank of `k`, which is `2 ^ e` or below, but above the half of that. -/
def wholeRank (e k : Nat) : Nat := (1021 + e) * 2 ^ 52 + 2 * k * 2 ^ (52 - e)

section

variable {e k n d : Nat}

lemma pow_split (he : e ≤ 52) : 2 ^ (52 - e) * 2 ^ e = 2 ^ 52 := by
  rw [← Nat.pow_add]
  congr 1
  omega

lemma one_eq_step (he : e ≤ 52) : one = 2 ^ (53 - e) * 2 ^ (1021 + e) := by
  apply one_eq_mul
  unfold unitExponent
  omega

lemma significand_bounds (hlow : 2 ^ e < 2 * k) (hhigh : k ≤ 2 ^ e) (he : e ≤ 52) :
    2 ^ 52 < 2 * k * 2 ^ (52 - e) ∧ 2 * k * 2 ^ (52 - e) ≤ 2 * 2 ^ 52 := by
  rw [← pow_split he, Nat.mul_comm _ (2 ^ e), ← Nat.mul_assoc]
  have hpos : 0 < 2 ^ (52 - e) := Nat.two_pow_pos _
  exact ⟨Nat.mul_lt_mul_of_pos_right hlow hpos,
    Nat.mul_le_mul_right _ (Nat.mul_le_mul_left 2 hhigh)⟩

/-- The double of a whole number, and the one before it. -/
lemma units_wholeRank (hlow : 2 ^ e < 2 * k) (hhigh : k ≤ 2 ^ e) (he : e ≤ 52) :
    units (wholeRank e k) = k * one ∧
      units (wholeRank e k - 1) + 2 ^ (1021 + e) = k * one := by
  obtain ⟨hmin, hmax⟩ := significand_bounds hlow hhigh he
  have hone : k * one = 2 * k * 2 ^ (52 - e) * 2 ^ (1021 + e) := by
    rw [one_eq_step he, show 53 - e = 52 - e + 1 by omega, Nat.pow_succ]
    generalize 2 ^ (1021 + e) = spacing
    ring
  have hpred : wholeRank e k - 1 = (1021 + e) * 2 ^ 52 + (2 * k * 2 ^ (52 - e) - 1) := by
    unfold wholeRank
    omega
  rw [hpred, wholeRank, units_significand hmax (by omega), units_significand (by omega) (by omega),
    hone]
  refine ⟨rfl, ?_⟩
  rw [← Nat.succ_mul, Nat.succ_eq_add_one, Nat.sub_add_cancel (by omega)]

/-- A quotient rounds to a whole number above it if that is at most half a step away; the whole
number is the even one of two. -/
theorem wholeRank_le_roundRank_iff (hlow : 2 ^ e < 2 * k) (hhigh : k ≤ 2 ^ e) (he : e ≤ 52)
    (hd : 0 < d) :
    wholeRank e k ≤ roundRank (n * one) d ↔ (k * d - n) * 2 ^ (54 - e) ≤ d := by
  obtain ⟨hwhole, hpred⟩ := units_wholeRank hlow hhigh he
  -- A midpoint goes to the whole number, as the double before it has an odd rank.
  have hodd : (wholeRank e k - 1) % 2 = 1 := by
    have hbounds := significand_bounds hlow hhigh he
    rw [Nat.mul_assoc] at hbounds
    rw [wholeRank, Nat.mul_assoc]
    omega
  have hsucc : wholeRank e k - 1 + 1 = wholeRank e k := by omega
  have hnot : wholeRank e k ≤ roundRank (n * one) d ↔ ¬roundRank (n * one) d ≤ wholeRank e k - 1 := by
    omega
  rw [hnot, roundRank_le_iff hd, hsucc, hwhole, hodd]
  have hstep := one_eq_step he
  have hdouble : 2 ^ (54 - e) = 2 * 2 ^ (53 - e) := by
    rw [show 54 - e = 53 - e + 1 by omega, Nat.pow_succ, Nat.mul_comm]
  have hspacing : 0 < 2 ^ (1021 + e) := Nat.two_pow_pos _
  generalize 2 ^ (1021 + e) = spacing at *
  have hmid : (units (wholeRank e k - 1) + k * one) * d + d * spacing =
      k * d * 2 ^ (54 - e) * spacing := by
    calc (units (wholeRank e k - 1) + k * one) * d + d * spacing
        = (units (wholeRank e k - 1) + spacing) * d + k * one * d := by ring
      _ = k * d * (2 * one) := by rw [hpred]; ring
      _ = k * d * 2 ^ (54 - e) * spacing := by rw [hdouble, hstep]; ring
  have hquotient : 2 * (n * one) = n * 2 ^ (54 - e) * spacing := by
    rw [hdouble, hstep]
    ring
  have hcompare : (units (wholeRank e k - 1) + k * one) * d ≤ 2 * (n * one) ↔
      k * d * 2 ^ (54 - e) ≤ n * 2 ^ (54 - e) + d := by
    rw [← Nat.add_le_add_iff_right (n := d * spacing), hmid, hquotient, ← Nat.add_mul,
      Nat.mul_le_mul_right_iff hspacing]
  rw [Nat.sub_mul]
  omega

/-- Whether `n / d`, if it is below `2 ^ 52`, is at most half a step from the next whole number. -/
def RoundsUp (n d : Nat) : Prop := ((n / d + 1) * d - n) * 2 ^ (54 - Nat.log2 (2 * (n / d) + 1)) ≤ d

instance (n d : Nat) : Decidable (RoundsUp n d) := inferInstanceAs (Decidable (_ ≤ _))

lemma log2_bounds (h : k < 2 ^ 52) :
    Nat.log2 (2 * k + 1) ≤ 52 ∧ 2 ^ Nat.log2 (2 * k + 1) < 2 * (k + 1) ∧
      k + 1 ≤ 2 ^ Nat.log2 (2 * k + 1) := by
  have hle : 2 ^ Nat.log2 (2 * k + 1) ≤ 2 * k + 1 := Nat.log2_self_le (by omega)
  have hlt : 2 * k + 1 < 2 ^ (Nat.log2 (2 * k + 1) + 1) := Nat.lt_log2_self
  have hfew : Nat.log2 (2 * k + 1) < 53 := (Nat.log2_lt (by omega)).2 (by omega)
  rw [Nat.pow_succ] at hlt
  exact ⟨by omega, by omega, by omega⟩

lemma exists_units_eq (h : k ≤ 2 ^ 52) : ∃ rank, units rank = k * one := by
  cases k with
  | zero => exact ⟨0, by rw [units_zero, Nat.zero_mul]⟩
  | succ k =>
    obtain ⟨he, hlow, hhigh⟩ := log2_bounds h
    exact ⟨_, (units_wholeRank hlow hhigh he).1⟩

lemma roundRank_le_wholeRank (hd : 0 < d) (h : n / d < 2 ^ 52) :
    roundRank (n * one) d ≤ wholeRank (Nat.log2 (2 * (n / d) + 1)) (n / d + 1) := by
  obtain ⟨he, hlow, hhigh⟩ := log2_bounds h
  apply roundRank_le_of_le hd
  rw [(units_wholeRank hlow hhigh he).1, Nat.mul_right_comm]
  exact Nat.mul_le_mul_right one ((Nat.div_lt_iff_lt_mul hd).1 (Nat.lt_succ_self _)).le

lemma roundRank_lt_topRank (hd : 0 < d) (h : n / d < 2 ^ 52) : roundRank (n * one) d < topRank := by
  obtain ⟨he, hlow, hhigh⟩ := log2_bounds h
  have hmax := (significand_bounds hlow hhigh he).2
  have hle := roundRank_le_wholeRank hd h
  have htop : topRank = 2047 * 2 ^ 52 := by decide
  unfold wholeRank at hle
  omega

/-- The whole part of a quotient as a double. -/
theorem units_quotient (hd : 0 < d) (h : n / d < 2 ^ 52) :
    units (roundRank (n * one) d) / one = n / d + if RoundsUp n d then 1 else 0 := by
  obtain ⟨he, hlow, hhigh⟩ := log2_bounds h
  obtain ⟨rank, hrank⟩ := exists_units_eq (Nat.le_of_lt h)
  have hnext := (units_wholeRank hlow hhigh he).1
  have hbelow : rank ≤ roundRank (n * one) d := by
    apply le_roundRank_of_le hd
    rw [hrank, Nat.mul_right_comm]
    exact Nat.mul_le_mul_right one (Nat.div_mul_le_self n d)
  have habove := roundRank_le_wholeRank hd h
  have hup := wholeRank_le_roundRank_iff (n := n) hlow hhigh he hd
  split
  · have heq := Nat.le_antisymm habove (hup.2 ‹_›)
    rw [heq, hnext, Nat.mul_div_cancel _ one_pos]
  · have hlt := Nat.not_le.1 (mt hup.1 ‹_›)
    have hmono := units_strictMono.monotone hbelow
    have hunits := units_strictMono hlt
    rw [hrank] at hmono
    rw [hnext] at hunits
    exact Nat.div_eq_of_lt_le hmono hunits

lemma not_roundsUp_of_mod_eq_zero (hd : 0 < d) (h : n / d < 2 ^ 52) (hmod : n % d = 0) :
    ¬RoundsUp n d := by
  have hn : n / d * d = n := Nat.div_mul_cancel (Nat.dvd_of_mod_eq_zero hmod)
  obtain ⟨he, -, -⟩ := log2_bounds h
  have hpow : 2 ^ 2 ≤ 2 ^ (54 - Nat.log2 (2 * (n / d) + 1)) :=
    Nat.pow_le_pow_right (by decide) (by omega)
  rw [RoundsUp, Nat.succ_mul, hn, Nat.add_sub_cancel_left, Nat.not_le]
  exact (Nat.lt_mul_iff_one_lt_right hd).2 (Nat.lt_of_lt_of_le (by decide) hpow)

/-- Below `2 ^ b` the doubles are close enough to keep all multiples of `1 / d` below the next
whole number. -/
lemma not_roundsUp_of_lt {b : Nat} (hd : 0 < d) (hb : b ≤ 53) (h : n / d < 2 ^ b)
    (hclose : d < 2 ^ (54 - b)) : ¬RoundsUp n d := by
  have hfew : Nat.log2 (2 * (n / d) + 1) ≤ b := by
    rw [← Nat.lt_succ_iff, Nat.log2_lt (by omega), Nat.pow_succ]
    omega
  have hpow : 2 ^ (54 - b) ≤ 2 ^ (54 - Nat.log2 (2 * (n / d) + 1)) :=
    Nat.pow_le_pow_right (by decide) (by omega)
  have hgap : 0 < (n / d + 1) * d - n :=
    Nat.sub_pos_of_lt ((Nat.div_lt_iff_lt_mul hd).1 (Nat.lt_succ_self _))
  rw [RoundsUp, Nat.not_le]
  calc d < 2 ^ (54 - b) := hclose
    _ ≤ 2 ^ (54 - Nat.log2 (2 * (n / d) + 1)) := hpow
    _ ≤ ((n / d + 1) * d - n) * 2 ^ (54 - Nat.log2 (2 * (n / d) + 1)) :=
      Nat.le_mul_of_pos_left _ hgap

end

end Binary64

end PageCache
