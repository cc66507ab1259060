import Mathlib.Tactic.FieldSimp
import Mathlib.Tactic.Linarith
import PageCache.Binary64.Decimal
import PageCache.Numeral
import PageCache.Proofs.Binary64.Rounding

/-! Doubles written with three places. The digits count the thousandths nearest to the number. -/

namespace PageCache.Binary64

/-- A numeral with three places for a number that is rounded half to even. -/
def TellsThousandths (s : List Char) (v : ℚ) : Prop :=
  ∃ (negative : Bool) (whole places : List Char),
    s = (if negative then ['-'] else []) ++ (whole ++ '.' :: places) ∧
      (∀ c ∈ whole ++ places, c.isDigit = true) ∧ whole ≠ [] ∧ places.length = 3 ∧
      let n := Nat.ofDigitChars 10 (whole ++ places) 0
      let w : ℚ := if negative then -n else n
      |v * 1000 - w| ≤ 1 / 2 ∧ (|v * 1000 - w| = 1 / 2 → n % 2 = 0)

lemma roundDiv_near (num : Nat) {den : Nat} (hden : 0 < den) :
    2 * (roundDiv num den * den) ≤ 2 * num + den ∧ 2 * num ≤ 2 * (roundDiv num den * den) + den ∧
      (2 * (roundDiv num den * den) = 2 * num + den ∨ 2 * num = 2 * (roundDiv num den * den) + den →
        roundDiv num den % 2 = 0) := by
  have hdiv := Nat.div_add_mod num den
  have hmod := Nat.mod_lt num hden
  rw [roundDiv]
  generalize num / den = q at *
  generalize num % den = r at *
  rw [Nat.mul_comm] at hdiv
  have hstep : (q + 1) * den = q * den + den := Nat.add_one_mul q den
  split <;> omega

lemma abs_sub_roundDiv (num : Nat) {den : Nat} (hden : 0 < den) :
    |(num : ℚ) / den - roundDiv num den| ≤ 1 / 2 ∧
      (|(num : ℚ) / den - roundDiv num den| = 1 / 2 → roundDiv num den % 2 = 0) := by
  obtain ⟨hlow, hhigh, htie⟩ := roundDiv_near num hden
  generalize roundDiv num den = n at *
  have hpos : (0 : ℚ) < den := Nat.cast_pos.2 hden
  have hscaled : (num : ℚ) / den - n = (num - n * den) / den := by
    rw [sub_div, mul_div_cancel_right₀ _ hpos.ne']
  have hlow' : (2 * (n * den) : ℚ) ≤ 2 * num + den := by exact_mod_cast hlow
  have hhigh' : (2 * num : ℚ) ≤ 2 * (n * den) + den := by exact_mod_cast hhigh
  rw [hscaled, abs_div, abs_of_pos hpos, div_le_iff₀ hpos, div_eq_iff hpos.ne']
  refine ⟨abs_le.2 ⟨by linarith, by linarith⟩, fun h => htie ?_⟩
  obtain h | h := eq_or_eq_neg_of_abs_eq h
  · right
    have : (2 * num : ℚ) = 2 * (n * den) + den := by linarith
    exact_mod_cast this
  · left
    have : (2 * (n * den) : ℚ) = 2 * num + den := by linarith
    exact_mod_cast this

lemma ofDigitChars_zeroFill (width : Nat) (s : List Char) :
    Nat.ofDigitChars 10 (Text.zeroFill width s) 0 = Nat.ofDigitChars 10 s 0 := by
  rw [Text.zeroFill, Nat.ofDigitChars_append, Nat.ofDigitChars_replicate_zero, Nat.mul_zero]

lemma length_places (n : Nat) : (Text.zeroFill 3 (Nat.toDigits 10 (n % 1000))).length = 3 := by
  have hshort : (Nat.toDigits 10 (n % 1000)).length ≤ 3 :=
    (Nat.length_toDigits_le_iff (by decide) (by decide)).2 (Nat.mod_lt n (by decide))
  rw [Text.length_zeroFill, Nat.max_eq_left hshort]

lemma ofDigitChars_thousandths (n fill : Nat) :
    Nat.ofDigitChars 10 (List.replicate fill '0' ++ Nat.toDigits 10 (n / 1000) ++
      Text.zeroFill 3 (Nat.toDigits 10 (n % 1000))) 0 = n := by
  rw [Nat.ofDigitChars_append, Nat.ofDigitChars_append, Nat.ofDigitChars_replicate_zero, Nat.mul_zero,
    Nat.ofDigitChars_ten_toDigits, Nat.ofDigitChars_eq_ofDigitChars_zero, ofDigitChars_zeroFill,
    Nat.ofDigitChars_ten_toDigits, length_places]
  exact Nat.div_add_mod n 1000

lemma isDigit_thousandths (n fill : Nat) :
    ∀ c ∈ List.replicate fill '0' ++ Nat.toDigits 10 (n / 1000) ++
      Text.zeroFill 3 (Nat.toDigits 10 (n % 1000)), c.isDigit = true := by
  have hzeros : ∀ k, ∀ c ∈ List.replicate k '0', c.isDigit = true :=
    fun k c hc => List.eq_of_mem_replicate hc ▸ rfl
  have hdigits : ∀ k, ∀ c ∈ Nat.toDigits 10 k, c.isDigit = true :=
    fun k c => Numeral.isDigit_of_mem_toDigits
  simp only [Text.zeroFill, List.forall_mem_append]
  exact ⟨⟨hzeros _, hdigits _⟩, hzeros _, hdigits _⟩

/-- Whatever the width, the digits before the point and the three behind it count the thousandths. -/
lemma tellsThousandths_fixed {x : Binary64} {v : ℚ} (h : x.value? = some v) (width : Nat) :
    TellsThousandths (x.fixed width) v := by
  cases x with
  | nan => cases h
  | infinite negative => cases h
  | finite negative rank =>
    obtain rfl := Option.some.inj h
    let n := roundDiv (units rank * 1000) one
    let body := Nat.toDigits 10 (n / 1000) ++ '.' :: Text.zeroFill 3 (Nat.toDigits 10 (n % 1000))
    let fill := width - negative.toNat - body.length
    have hnear := abs_sub_roundDiv (units rank * 1000) one_pos
    have hscaled : ((units rank * 1000 : ℕ) : ℚ) / one = units rank / one * 1000 := by
      push_cast
      ring
    rw [hscaled] at hnear
    refine ⟨negative, List.replicate fill '0' ++ Nat.toDigits 10 (n / 1000),
      Text.zeroFill 3 (Nat.toDigits 10 (n % 1000)), ?_, isDigit_thousandths n fill, by simp [Nat.toDigits_ne_nil],
      length_places n, ?_⟩
    · rw [List.append_assoc]
      cases negative <;> rfl
    · rw [ofDigitChars_thousandths]
      cases negative with
      | false => exact hnear
      | true =>
        have habs : -(units rank : ℚ) / one * 1000 - -n = -((units rank : ℚ) / one * 1000 - n) := by
          ring
        simp only [signedUnits, if_true, Int.cast_neg, Int.cast_natCast, habs, abs_neg]
        exact hnear

end PageCache.Binary64
