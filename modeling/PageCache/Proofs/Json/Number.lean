import PageCache.Json.Token
import PageCache.Proofs.Binary64.Decimal
import PageCache.Proofs.Numeral

/-! Numbers are read as numbers: integers as what they are, and decimals by their text. -/

namespace PageCache

namespace Text

variable {p : Char → Bool} {s rest : List Char}

/-- A run of characters ends where the next character is another one. -/
lemma takeWhile_append_exact (h : ∀ c ∈ s, p c = true) (hrest : ∀ c ∈ rest.head?, p c = false) :
    (s ++ rest).takeWhile p = s := by
  rw [List.takeWhile_append_of_pos h]
  cases rest with
  | nil => exact List.append_nil s
  | cons c rest =>
    rw [List.takeWhile_cons_of_neg (by rw [hrest c rfl]; decide), List.append_nil]

lemma dropWhile_append_exact (h : ∀ c ∈ s, p c = true) (hrest : ∀ c ∈ rest.head?, p c = false) :
    (s ++ rest).dropWhile p = rest := by
  rw [List.dropWhile_append_of_pos h]
  cases rest with
  | nil => rfl
  | cons c rest => exact List.dropWhile_cons_of_neg (by rw [hrest c rfl]; decide)

end Text

namespace Json

open Binary64

lemma isDigits_iff {s : List Char} : isDigits s = true ↔ s ≠ [] ∧ ∀ c ∈ s, c.isDigit = true := by
  rw [isDigits, Bool.and_eq_true, bne_iff_ne, List.all_eq_true]

lemma isWhole_iff {s : List Char} :
    isWhole s = true ↔ isDigits s = true ∧ (s.length = 1 ∨ s.head? ≠ some '0') := by
  rw [isWhole, Bool.and_eq_true, Bool.or_eq_true, beq_iff_eq, bne_iff_ne]

/-- A character of numbers. -/
def isNumeric (c : Char) : Bool := c.isDigit || "+-.eE".toList.contains c

lemma isNumeric_of_isDigit {c : Char} (h : c.isDigit = true) : isNumeric c = true := by
  rw [isNumeric, h, Bool.true_or]

lemma isNumeric_of_isDigits {s : List Char} (h : isDigits s = true) :
    ∀ c ∈ s, isNumeric c = true :=
  fun c hc => isNumeric_of_isDigit ((isDigits_iff.1 h).2 c hc)

lemma isNumeric_of_isExponentMark {c : Char} (h : isExponentMark c = true) :
    isNumeric c = true := by
  rw [isExponentMark, Bool.or_eq_true, decide_eq_true_iff, decide_eq_true_iff] at h
  obtain rfl | rfl := h <;> decide

lemma isNumeric_of_isExponent {s : List Char} (h : isExponent s = true) :
    ∀ c ∈ s, isNumeric c = true := by
  rw [isExponent.eq_def] at h
  split at h
  · exact List.forall_mem_cons.2 ⟨by decide, isNumeric_of_isDigits h⟩
  · exact List.forall_mem_cons.2 ⟨by decide, isNumeric_of_isDigits h⟩
  · exact isNumeric_of_isDigits h

lemma isNumeric_of_isTail {s : List Char} (h : isTail s = true) : ∀ c ∈ s, isNumeric c = true := by
  rw [isTail.eq_def] at h
  split at h
  · cases h
  · rename_i rest
    obtain ⟨-, hrest⟩ := Bool.and_eq_true_iff.1 h
    refine List.forall_mem_cons.2 ⟨by decide, ?_⟩
    rw [← List.takeWhile_append_dropWhile (p := Char.isDigit) (l := rest)]
    refine List.forall_mem_append.2 ⟨fun c hc => ?_, ?_⟩
    · exact isNumeric_of_isDigit (List.mem_takeWhile_imp hc)
    · split at hrest
      · rename_i hnil
        rw [hnil]
        exact fun c hc => absurd hc List.not_mem_nil
      · rename_i hcons
        obtain ⟨hmark, hexponent⟩ := Bool.and_eq_true_iff.1 hrest
        rw [hcons]
        exact List.forall_mem_cons.2
          ⟨isNumeric_of_isExponentMark hmark, isNumeric_of_isExponent hexponent⟩
  · obtain ⟨hmark, hexponent⟩ := Bool.and_eq_true_iff.1 h
    exact List.forall_mem_cons.2
      ⟨isNumeric_of_isExponentMark hmark, isNumeric_of_isExponent hexponent⟩

/-- The whole part of a number ends where its digits do. -/
lemma number?_signed (negative : Bool) {whole tail : List Char} (hwhole : isWhole whole = true)
    (htail : ∀ c ∈ tail.head?, c.isDigit = false) :
    number? (signed negative (whole ++ tail)) =
      if tail = [] then (Numeral.integer? (signed negative (whole ++ tail))).map .integer
      else if isTail tail then some (.decimal (String.ofList (signed negative (whole ++ tail))))
      else none := by
  obtain ⟨hne, hdigits⟩ := isDigits_iff.1 (isWhole_iff.1 hwhole).1
  have hunsigned : (if (signed negative (whole ++ tail)).head? = some '-'
      then (signed negative (whole ++ tail)).tail else signed negative (whole ++ tail)) =
      whole ++ tail := by
    cases negative with
    | true => rfl
    | false =>
      obtain ⟨c, rest, rfl⟩ := List.exists_cons_of_ne_nil hne
      refine if_neg fun hminus => ?_
      obtain rfl : c = '-' := Option.some.inj hminus
      exact absurd (hdigits _ List.mem_cons_self) (by decide)
  have hlength : (whole ++ tail).length = whole.length ↔ tail = [] := by
    rw [List.length_append, Nat.add_eq_left, List.length_eq_zero_iff]
  rw [number?, hunsigned]
  rw [Text.takeWhile_append_exact hdigits htail, Text.dropWhile_append_exact hdigits htail, hwhole]
  simp only [hlength]
  rfl

lemma isWhole_toDigits (n : Nat) : isWhole (Nat.toDigits 10 n) = true := by
  refine isWhole_iff.2 ⟨isDigits_iff.2 ⟨Nat.toDigits_ne_nil, ?_⟩, ?_⟩
  · exact fun _ => Numeral.isDigit_of_mem_toDigits
  · by_cases hn : n = 0
    · rw [hn]
      exact .inl rfl
    · exact .inr (Numeral.head?_toDigits_ne hn)

lemma chars_eq_signed (n : Int) : Numeral.chars n = signed (n < 0) (Nat.toDigits 10 n.natAbs) := by
  rw [Numeral.chars, signed]
  by_cases hn : n < 0
  · rw [if_pos hn, if_pos (decide_eq_true hn)]
  · rw [if_neg hn, if_neg fun h => hn (of_decide_eq_true h)]

theorem number?_chars {n : Int} (h : Numeral.Writable n) :
    number? (Numeral.chars n) = some (.integer n) := by
  have hnil : ∀ c ∈ ([] : List Char).head?, c.isDigit = false := by
    rintro _ ⟨⟩
  have hread := number?_signed (n < 0) (isWhole_toDigits n.natAbs) hnil
  rw [List.append_nil, ← chars_eq_signed, if_pos rfl, Numeral.integer?_chars h] at hread
  exact hread

/-- What is read as a number holds nothing else. -/
lemma isNumeric_of_number? {s : List Char} {v : Json} (h : number? s = some v) :
    ∀ c ∈ s, isNumeric c = true := by
  have hunsigned : ∀ c ∈ (if s.head? = some '-' then s.tail else s), isNumeric c = true := by
    rw [number?] at h
    generalize (if s.head? = some '-' then s.tail else s) = t at h ⊢
    split at h
    · cases h
    split at h
    · rename_i hlength
      have hdigits := (List.takeWhile_prefix Char.isDigit).eq_of_length hlength.symm
      exact fun c hc => isNumeric_of_isDigit (List.takeWhile_eq_self_iff.1 hdigits c hc)
    split at h
    · rename_i htail
      rw [← List.takeWhile_append_dropWhile (p := Char.isDigit) (l := t)]
      refine List.forall_mem_append.2 ⟨fun c hc => ?_, isNumeric_of_isTail htail⟩
      exact isNumeric_of_isDigit (List.mem_takeWhile_imp hc)
    · cases h
  split at hunsigned
  · rename_i hminus
    obtain ⟨rest, rfl⟩ := List.head?_eq_some_iff.1 hminus
    exact List.forall_mem_cons.2 ⟨by decide, hunsigned⟩
  · exact hunsigned

end Json

end PageCache
