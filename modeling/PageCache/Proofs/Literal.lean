import Mathlib.Data.List.Induction
import Mathlib.Data.Nat.Digits.Defs
import PageCache.Numeral

/-! The literals of integers as a grammar, and that just these are read, each as its value. -/

namespace PageCache.Numeral

open Text

/-- Digits, between which a single underscore may stand, and their values. -/
inductive Digits : List Char → List Nat → Prop
  | last {c : Char} {d : Nat} (hc : digitValue? c = some d) : Digits [c] [d]
  | next {c : Char} {d : Nat} {s : List Char} {ds : List Nat} (hc : digitValue? c = some d)
      (h : Digits s ds) : Digits (c :: s) (d :: ds)
  | spaced {c : Char} {d : Nat} {s : List Char} {ds : List Nat} (hc : digitValue? c = some d)
      (h : Digits s ds) : Digits (c :: '_' :: s) (d :: ds)

/-- A literal without its sign, and its value. -/
def Magnitude (s : List Char) (n : Nat) : Prop :=
  ∃ ds, Digits s ds ∧ ds.length ≤ maxDigits ∧ n = Nat.ofDigits 10 ds.reverse

inductive Literal : List Char → Int → Prop
  | unsigned {s : List Char} {n : Nat} (h : Magnitude s n) : Literal s n
  | plus {s : List Char} {n : Nat} (h : Magnitude s n) : Literal ('+' :: s) n
  | minus {s : List Char} {n : Nat} (h : Magnitude s n) : Literal ('-' :: s) (-n)

variable {s : List Char} {ds : List Nat} {n : Nat}

lemma digits_of_digitValues? (h : digitValues? s = some ds) : Digits s ds := by
  fun_induction digitValues? s generalizing ds with
  | case1 => cases h
  | case2 c =>
    obtain ⟨d, hd, rfl⟩ := Option.map_eq_some_iff.1 h
    exact .last hd
  | case3 c rest ih =>
    obtain ⟨d, hd, h⟩ := Option.bind_eq_some_iff.1 h
    obtain ⟨more, hmore, h⟩ := Option.bind_eq_some_iff.1 h
    obtain rfl := Option.some.inj h
    exact .spaced hd (ih hmore)
  | case4 c rest hlast hspaced ih =>
    obtain ⟨d, hd, h⟩ := Option.bind_eq_some_iff.1 h
    obtain ⟨more, hmore, h⟩ := Option.bind_eq_some_iff.1 h
    obtain rfl := Option.some.inj h
    exact .next hd (ih hmore)

lemma Digits.exists_cons (h : Digits s ds) :
    ∃ c rest d, s = c :: rest ∧ digitValue? c = some d := by
  cases h with
  | last hc | next hc | spaced hc => exact ⟨_, _, _, rfl, hc⟩

lemma digitValues?_of_digits (h : Digits s ds) : digitValues? s = some ds := by
  induction h with
  | last hc => rw [digitValues?, hc]; rfl
  | spaced hc h ih => rw [digitValues?, hc, ih]; rfl
  | next hc h ih =>
    -- No digit is an underscore, so what follows is read by itself.
    obtain ⟨e, rest, d, rfl, he⟩ := h.exists_cons
    rw [digitValues?, hc, ih]
    · rfl
    · exact List.cons_ne_nil _ _
    · rintro more ⟨⟩
      cases he

lemma digitValues?_eq_some_iff : digitValues? s = some ds ↔ Digits s ds :=
  ⟨digits_of_digitValues?, digitValues?_of_digits⟩

lemma ofDigits_eq (ds : List Nat) : ofDigits ds = Nat.ofDigits 10 ds.reverse := by
  induction ds using List.reverseRecOn with
  | nil => rfl
  | append_singleton ds d ih =>
    rw [List.reverse_append, List.reverse_singleton, List.singleton_append, Nat.ofDigits_cons, ← ih,
      ofDigits, List.foldl_append, ← ofDigits, Nat.add_comm]
    rfl

lemma natural?_eq_some_iff : natural? s = some n ↔ Magnitude s n := by
  rw [natural?, Option.bind_eq_some_iff, Magnitude]
  refine exists_congr fun ds => ?_
  rw [digitValues?_eq_some_iff, ofDigits_eq, Option.ite_none_right_eq_some, Option.some.injEq]
  exact and_congr_right fun _ => and_congr_right fun _ => eq_comm

lemma Magnitude.exists_cons (h : Magnitude s n) :
    ∃ c rest d, s = c :: rest ∧ digitValue? c = some d := by
  obtain ⟨ds, hds, -⟩ := h
  exact hds.exists_cons

/-- What stands between the blanks is read just if it is a literal. -/
theorem integer?_eq_some_iff {n : Int} : integer? s = some n ↔ Literal (trim isPadding s) n := by
  rw [integer?]
  generalize trim isPadding s = t
  constructor
  · intro h
    split at h
    · rename_i rest
      cases hread : natural? rest <;> rw [hread] at h <;> cases h
      exact .minus (natural?_eq_some_iff.1 hread)
    · obtain ⟨m, hm, rfl⟩ := Option.map_eq_some_iff.1 h
      exact .plus (natural?_eq_some_iff.1 hm)
    · obtain ⟨m, hm, rfl⟩ := Option.map_eq_some_iff.1 h
      exact .unsigned (natural?_eq_some_iff.1 hm)
  · intro h
    cases h with
    | minus h | plus h =>
      simp only [natural?_eq_some_iff.2 h]
      rfl
    | unsigned h =>
      -- A digit is none of the signs.
      obtain ⟨c, rest, d, rfl, hd⟩ := h.exists_cons
      split
      · rename_i hcons
        obtain ⟨rfl, -⟩ := List.cons.inj hcons
        cases hd
      · rename_i hcons
        obtain ⟨rfl, -⟩ := List.cons.inj hcons
        cases hd
      · rw [natural?_eq_some_iff.2 h]
        rfl

end PageCache.Numeral
