import Mathlib.Data.Char
import Mathlib.Order.Lattice
import Mathlib.Tactic.Lemma
import PageCache.Text.Line

/-! Comparisons piece by piece. The first pieces that differ decide; where the pieces of two texts
have the same lengths, the texts are ordered as their pieces are. -/

namespace PageCache

section

variable {α β : Type} [LinearOrder α] [LinearOrder β] {a b : α} {m n : β} {rest : Ordering}

lemma then_eq_compare (hlt : a < b → m < n) (hgt : b < a → n < m)
    (heq : a = b → rest = compare m n) : (compare a b).then rest = compare m n := by
  rcases lt_trichotomy a b with h | h | h
  · rw [compare_lt_iff_lt.2 h, compare_lt_iff_lt.2 (hlt h), Ordering.lt_then]
  · rw [compare_eq_iff_eq.2 h, heq h, Ordering.eq_then]
  · rw [compare_gt_iff_gt.2 h, compare_gt_iff_gt.2 (hgt h), Ordering.gt_then]

lemma compare_eq_compare (hlt : a < b → m < n) (hgt : b < a → n < m) (heq : a = b → m = n) :
    compare a b = compare m n := by
  have hrest : a = b → .eq = compare m n := fun h => (compare_eq_iff_eq.2 (heq h)).symm
  simpa using then_eq_compare hlt hgt hrest

end

namespace Text

variable {s s' t t' : List Char}

lemma compare_toNat (c d : Char) : compare c.toNat d.toNat = compare c d :=
  compare_eq_compare id id Char.toNat_inj.1

lemma compare_append_left (s t t' : List Char) : compare (s ++ t) (s ++ t') = compare t t' := by
  induction s with
  | nil => rfl
  | cons c s ih => simp [List.compare_cons_cons, ih]

lemma compare_append (h : s.length = s'.length) :
    compare (s ++ t) (s' ++ t') = (compare s s').then (compare t t') := by
  induction s generalizing s' with
  | nil =>
    obtain rfl := List.eq_nil_of_length_eq_zero h.symm
    simp
  | cons c s ih =>
    cases s' with
    | nil => cases h
    | cons c' s' =>
      have hrest := ih (Nat.succ.inj h)
      simp [List.compare_cons_cons, hrest, Ordering.then_assoc]

lemma compare_joinWith_append {separator : List Char} {ls ls' : List (List Char)}
    (h : ls.map List.length = ls'.map List.length) :
    compare (joinWith separator ls ++ t) (joinWith separator ls' ++ t') =
      (compare ls ls').then (compare t t') := by
  induction ls generalizing ls' with
  | nil =>
    obtain rfl := List.map_eq_nil_iff.1 h.symm
    rfl
  | cons l ls ih =>
    cases ls' with
    | nil => cases h
    | cons l' ls' =>
      obtain ⟨hl, hls⟩ := List.cons.inj h
      have hrest := ih hls
      cases ls with
      | nil =>
        obtain rfl := List.map_eq_nil_iff.1 hls.symm
        simp [joinWith, compare_append hl, List.compare_cons_cons]
      | cons k ls =>
        cases ls' with
        | nil => cases hls
        | cons k' ls' =>
          simp only [joinWith, List.append_assoc]
          rw [compare_append hl, compare_append_left, hrest, List.compare_cons_cons (x := l),
            Ordering.then_assoc]

end Text

end PageCache
