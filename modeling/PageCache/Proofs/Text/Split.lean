import Mathlib.Data.List.Basic
import Mathlib.Tactic.Lemma
import PageCache.Text.Line

/-! Text cut at a character. Parts that were joined with it come back just if none of them holds it,
and the last parts come back whatever stands before them. -/

namespace PageCache.Text

/-- The parts around the last `n` occurrences of a character, or around all if there are fewer. -/
def splitLast (c : Char) (n : Nat) (s : List Char) : List (List Char) :=
  let parts := s.splitOn c
  let front := max 1 (parts.length - n)
  [c].intercalate (parts.take front) :: parts.drop front

variable {c : Char} {s : List Char} {ls : List (List Char)}

lemma joinWith_eq_intercalate (separator : List Char) (ls : List (List Char)) :
    joinWith separator ls = separator.intercalate ls := by
  induction ls with
  | nil => rfl
  | cons l ls ih =>
    cases ls with
    | nil => exact List.intercalate_singleton.symm
    | cons k ls => rw [joinWith, ih, List.intercalate_cons_cons]

lemma mem_joinWith_iff {separator : List Char} (h : c ∉ separator) :
    c ∈ joinWith separator ls ↔ ∃ l ∈ ls, c ∈ l := by
  induction ls with
  | nil => simp [joinWith]
  | cons l ls ih =>
    cases ls with
    | nil => simp [joinWith]
    | cons k ls =>
      rw [joinWith, List.mem_append, List.mem_append, ih]
      simp only [h, or_false, List.exists_mem_cons_iff]

lemma splitOn_joinWith (h : ls ≠ []) :
    (joinWith [c] ls).splitOn c = ls.flatMap (·.splitOn c) := by
  induction ls with
  | nil => exact absurd rfl h
  | cons l ls ih =>
    cases ls with
    | nil => exact (List.append_nil _).symm
    | cons k ls =>
      rw [joinWith, List.append_assoc, List.singleton_append, List.splitOn_append_cons_self,
        ih (List.cons_ne_nil _ _)]
      rfl

lemma splitOn_joinWith_of_not_mem (hne : ls ≠ []) (h : ∀ l ∈ ls, c ∉ l) :
    (joinWith [c] ls).splitOn c = ls := by
  rw [joinWith_eq_intercalate, List.splitOn_intercalate c h hne]

lemma length_splitOn_pos (c : Char) (s : List Char) : 0 < (s.splitOn c).length :=
  List.length_pos_iff.2 (List.splitOn_ne_nil c s)

lemma length_splitOn_eq_one_iff : (s.splitOn c).length = 1 ↔ c ∉ s := by
  refine ⟨?_, fun h => by rw [List.splitOn_eq_singleton h, List.length_singleton]⟩
  rintro h hmem
  obtain ⟨front, back, rfl⟩ := List.append_of_mem hmem
  rw [List.splitOn_append_cons_self, List.length_append] at h
  have hfront := length_splitOn_pos c front
  have hback := length_splitOn_pos c back
  omega

/-- Every part is at least one piece, so as many pieces as parts are one piece of each. -/
lemma length_flatMap_splitOn (c : Char) (ls : List (List Char)) :
    ls.length ≤ (ls.flatMap (·.splitOn c)).length ∧
      ((ls.flatMap (·.splitOn c)).length = ls.length ↔ ∀ l ∈ ls, c ∉ l) := by
  induction ls with
  | nil => simp
  | cons l ls ih =>
    obtain ⟨hle, hiff⟩ := ih
    have hpos := length_splitOn_pos c l
    rw [List.flatMap_cons, List.length_append, List.length_cons, List.forall_mem_cons, ← hiff,
      ← length_splitOn_eq_one_iff]
    omega

theorem length_splitOn_joinWith_iff (h : ls ≠ []) :
    ((joinWith [c] ls).splitOn c).length = ls.length ↔ ∀ l ∈ ls, c ∉ l := by
  rw [splitOn_joinWith h]
  exact (length_flatMap_splitOn c ls).2

theorem splitLast_joinWith (s : List Char) (h : ∀ l ∈ ls, c ∉ l) :
    splitLast c ls.length (joinWith [c] (s :: ls)) = s :: ls := by
  have hparts : (joinWith [c] (s :: ls)).splitOn c = s.splitOn c ++ ls := by
    rw [splitOn_joinWith (List.cons_ne_nil _ _), List.flatMap_cons]
    cases ls with
    | nil => rfl
    | cons l ls =>
      rw [← splitOn_joinWith (List.cons_ne_nil _ _),
        splitOn_joinWith_of_not_mem (List.cons_ne_nil _ _) h]
  have hfront : max 1 ((s.splitOn c ++ ls).length - ls.length) = (s.splitOn c).length := by
    have hpos := length_splitOn_pos c s
    rw [List.length_append]
    omega
  simp only [splitLast, hparts, hfront, List.take_left, List.drop_left, List.intercalate_splitOn]

end PageCache.Text
