import PageCache.Numeral
import PageCache.Proofs.Text.Strip

/-! Integers are read back from their decimal text. -/

namespace PageCache

namespace Numeral

open Text

lemma toNat_of_isDigit {c : Char} (h : c.isDigit = true) : 0x30 ≤ c.toNat ∧ c.toNat < 0x3a := by
  have hdigit := Char.isDigit_iff_toNat.1 h
  exact ⟨hdigit.1, Nat.lt_succ_of_le hdigit.2⟩

lemma digitValue?_of_isDigit {c : Char} (h : c.isDigit = true) :
    digitValue? c = some (c.toNat - 0x30) := by
  have hzero : (decide (0x30 ≤ c.toNat) && decide (c.toNat < 0x30 + 10)) = true := by
    rw [Bool.and_eq_true]
    exact ⟨decide_eq_true (toNat_of_isDigit h).1, decide_eq_true (toNat_of_isDigit h).2⟩
  have hfind : (zeros.find? fun z => z ≤ c.toNat && c.toNat < z + 10) = some 0x30 :=
    List.find?_cons_of_pos hzero
  rw [digitValue?, hfind]
  rfl

lemma digitValues?_of_isDigit {s : List Char} (hne : s ≠ []) (h : ∀ c ∈ s, c.isDigit = true) :
    digitValues? s = some (s.map (·.toNat - 0x30)) := by
  induction s with
  | nil => exact absurd rfl hne
  | cons c s ih =>
    obtain ⟨hc, hs⟩ := List.forall_mem_cons.1 h
    cases s with
    | nil => exact congrArg (Option.map ([·])) (digitValue?_of_isDigit hc)
    | cons d s =>
      have hd : d ≠ '_' := by
        rintro rfl
        exact absurd (hs _ List.mem_cons_self) (by decide)
      rw [digitValues?, digitValue?_of_isDigit hc, ih (List.cons_ne_nil _ _) hs]
      · rfl
      · exact List.cons_ne_nil _ _
      · rintro _ ⟨⟩
        exact hd rfl

lemma ofDigits_toDigits (n : Nat) : ofDigits ((Nat.toDigits 10 n).map (·.toNat - 0x30)) = n := by
  rw [ofDigits, List.foldl_map]
  exact Nat.ofDigitChars_toDigits (by decide) (by decide)

theorem natural?_toDigits {n : Nat} (h : n < bound) : natural? (Nat.toDigits 10 n) = some n := by
  have hlength : ∀ k, 0 < k → n < Nat.pow 10 k → (Nat.toDigits 10 n).length ≤ k :=
    fun _ hk => (Nat.length_toDigits_le_iff (by decide) hk).2
  unfold bound at h
  rw [natural?, digitValues?_of_isDigit Nat.toDigits_ne_nil fun _ => isDigit_of_mem_toDigits]
  change (if _ then _ else _) = _
  rw [List.length_map, if_pos (hlength maxDigits (by decide) h), ofDigits_toDigits]

lemma toDigits_inj {m n : Nat} (h : Nat.toDigits 10 m = Nat.toDigits 10 n) : m = n := by
  rw [← ofDigits_toDigits m, h, ofDigits_toDigits]

lemma toDigits_ne_minus {n : Nat} {s : List Char} : Nat.toDigits 10 n ≠ '-' :: s := by
  intro h
  exact absurd (isDigit_of_mem_toDigits (h ▸ List.mem_cons_self)) (by decide)

lemma chars_inj {m n : Int} (h : chars m = chars n) : m = n := by
  unfold chars at h
  by_cases hm : m < 0 <;> by_cases hn : n < 0
  · rw [if_pos hm, if_pos hn] at h
    have habs := toDigits_inj (List.cons.inj h).2
    omega
  · rw [if_pos hm, if_neg hn] at h
    exact absurd h.symm toDigits_ne_minus
  · rw [if_neg hm, if_pos hn] at h
    exact absurd h toDigits_ne_minus
  · rw [if_neg hm, if_neg hn] at h
    have habs := toDigits_inj h
    omega

lemma isPadding_of_isDigit {c : Char} (h : c.isDigit = true) : isPadding c = false := by
  have hdigit := toNat_of_isDigit h
  simp only [isPadding, isBlank, Bool.and_eq_false_imp, Bool.or_eq_true, Bool.and_eq_true,
    decide_eq_true_eq, beq_iff_eq]
  omega

lemma trim_chars (n : Int) : trim isPadding (chars n) = chars n := by
  have hpadding : ∀ c ∈ chars n, isPadding c = false := by
    intro c hc
    obtain rfl | hdigit := mem_chars hc
    · decide
    · exact isPadding_of_isDigit hdigit
  apply trim_of_ends
  · exact fun c hc => hpadding c (List.mem_of_mem_head? hc)
  · exact fun c hc => hpadding c (List.mem_of_mem_getLast? hc)

theorem integer?_chars {n : Int} (h : Writable n) : integer? (chars n) = some n := by
  have hread := natural?_toDigits (n := n.natAbs) h
  rw [integer?, trim_chars, chars]
  by_cases hneg : n < 0
  · rw [if_pos hneg]
    change (natural? (Nat.toDigits 10 n.natAbs)).map (fun k => -(k : Int)) = _
    rw [hread]
    exact congrArg some (show -(n.natAbs : Int) = n by omega)
  · have hsign : ∀ {c s}, c.isDigit = false → Nat.toDigits 10 n.natAbs ≠ c :: s := by
      intro c s hc hs
      exact absurd (isDigit_of_mem_toDigits (hs ▸ List.mem_cons_self)) (by rw [hc]; decide)
    rw [if_neg hneg]
    split
    · rename_i hs
      exact absurd hs (hsign rfl)
    · rename_i hs
      exact absurd hs (hsign rfl)
    · rw [hread]
      exact congrArg some (Int.natAbs_of_nonneg (Int.not_lt.1 hneg))

end Numeral

end PageCache
