import Mathlib.Data.List.Nodup
import PageCache.Proofs.ProcessMap
import PageCache.Proofs.Text.Column

/-! The files of a memory map as what its lines say: each line tells of one file at most, and a map
behind another one adds the files that were not there before. -/

namespace PageCache.ProcessMap

open Text

section

variable {α : Type} [BEq α]

/-- Induction along a list from which each value is taken away with all that repeat it. -/
@[elab_as_elim]
lemma eraseDups_induction {motive : List α → Prop} (nil : motive [])
    (cons : ∀ a l, motive (l.filter fun b => !b == a) → motive (a :: l)) (l : List α) : motive l := by
  cases l with
  | nil => exact nil
  | cons a l => exact cons a l (eraseDups_induction nil cons _)
termination_by l.length
decreasing_by exact Nat.lt_succ_of_le (List.length_filter_le _ l)

variable [LawfulBEq α]

lemma nodup_eraseDups (l : List α) : l.eraseDups.Nodup := by
  induction l using eraseDups_induction with
  | nil => exact List.nodup_nil
  | cons a l ih =>
    rw [List.eraseDups_cons, List.nodup_cons, List.mem_eraseDups, List.mem_filter]
    refine ⟨fun h => ?_, ih⟩
    simp at h

lemma eraseDups_filter (p : α → Bool) (l : List α) :
    (l.filter p).eraseDups = l.eraseDups.filter p := by
  induction l using eraseDups_induction with
  | nil => rfl
  | cons a l ih =>
    rw [List.eraseDups_cons]
    by_cases ha : p a = true
    · rw [List.filter_cons_of_pos ha, List.filter_cons_of_pos ha, List.eraseDups_cons, ← ih,
        List.filter_comm]
    · -- What is kept is none of the values taken away.
      have hkept : (l.filter fun b => !b == a).filter p = l.filter p := by
        rw [List.filter_filter]
        refine List.filter_congr fun b _ => ?_
        have hne : p b = true → b ≠ a := by
          rintro hb rfl
          exact ha hb
        simpa using hne
      rw [List.filter_cons_of_neg ha, List.filter_cons_of_neg ha, ← ih, hkept]

lemma eraseDups_append (l m : List α) :
    (l ++ m).eraseDups = l.eraseDups ++ m.eraseDups.filter (· ∉ l.eraseDups) := by
  rw [List.eraseDups_append, List.removeAll, eraseDups_filter]
  congr 1
  refine List.filter_congr fun a _ => ?_
  simp [List.mem_eraseDups]

end

/-- What a line may tell: the path behind its columns. -/
def candidates (text : List Char) : List (List Char) :=
  ((lines text).map (fromColumn pathColumn)).filter isLivePath

lemma livePaths_eq (text : List Char) : livePaths text = (candidates text).eraseDups := rfl

lemma candidates_append (s t : List Char) :
    candidates (s ++ '\n' :: t) = candidates s ++ candidates t := by
  have hfirst : candidates (s ++ ['\n']) = candidates s := by
    obtain h | h := lines_newline s
    · rw [candidates, h, candidates]
    · -- There is no path on an empty line.
      rw [candidates, h, List.map_append, List.filter_append]
      exact List.append_nil _
  rw [← hfirst, candidates, lines_append_newline, List.map_append, List.filter_append]
  rfl

/-- A line that tells of a file: behind five columns, to its end, stands the absolute path of the
file, without the mark of a deleted one. -/
def TellsOf (line path : List Char) : Prop :=
  ∃ front c, line = front ++ c :: path ∧ c ∈ blanks ∧ (columns front).length = 5 ∧
    path.head? = some '/' ∧ ¬" (deleted)".toList <:+ path

lemma mem_candidates_iff {text path : List Char} :
    path ∈ candidates text ↔ ∃ line, IsLine text line ∧ TellsOf line path := by
  rw [candidates, List.mem_filter, List.mem_map, isLivePath_iff]
  constructor
  · rintro ⟨⟨line, hline, hpath⟩, habsolute, hkept⟩
    obtain ⟨front, c, hfront, hc, hlength⟩ := (fromColumn_eq_iff ⟨_, habsolute, by decide⟩).1 hpath
    exact ⟨line, mem_lines_iff.1 hline, front, c, hfront, mem_blanks_iff.2 hc, hlength, habsolute,
      hkept⟩
  · rintro ⟨line, hline, front, c, hfront, hc, hlength, habsolute, hkept⟩
    have hpath := (fromColumn_eq_iff ⟨_, habsolute, by decide⟩).2
      ⟨front, c, hfront, mem_blanks_iff.1 hc, hlength⟩
    exact ⟨⟨line, mem_lines_iff.2 hline, hpath⟩, habsolute, hkept⟩

lemma mem_paths_iff {text path : String} :
    path ∈ paths text ↔ path.toList ∈ candidates text.toList := by
  rw [← List.mem_eraseDups (l := candidates _), ← livePaths_eq, paths]
  refine ⟨fun h => ?_, fun h => List.mem_map.2 ⟨_, h, String.ofList_toList⟩⟩
  obtain ⟨_, hpath, rfl⟩ := List.mem_map.1 h
  rwa [String.toList_ofList]

lemma paths_append_newline (a b : String) :
    paths (a ++ "\n" ++ b) = paths a ++ (paths b).filter (· ∉ paths a) := by
  have htext : (a ++ "\n" ++ b).toList = a.toList ++ '\n' :: b.toList := by
    rw [String.toList_append, String.toList_append, List.append_assoc]
    rfl
  have hlive : livePaths (a.toList ++ '\n' :: b.toList) =
      livePaths a.toList ++ (livePaths b.toList).filter (· ∉ livePaths a.toList) := by
    rw [livePaths_eq, candidates_append]
    exact eraseDups_append _ _
  have hmem : ∀ path, path ∈ livePaths a.toList ↔ String.ofList path ∈ paths a := by
    intro path
    rw [mem_paths_iff, String.toList_ofList, livePaths_eq, List.mem_eraseDups]
  rw [paths, htext, hlive, List.map_append, paths, paths, List.filter_map]
  simp only [Function.comp_def, hmem]
  rfl

/-- A map behind a line feed adds its files that were not there before, in its order. A file is
there once, just if some line tells of it. -/
theorem paths_joined :
    (∀ a b, paths (a ++ "\n" ++ b) = paths a ++ (paths b).filter (· ∉ paths a)) ∧
      (∀ a n, paths ("\n".intercalate (List.replicate (n + 1) a)) = paths a) ∧
      ∀ text, (paths text).Nodup ∧ ∀ path, path ∈ paths text ↔
        ∃ line, IsLine text.toList line ∧ TellsOf line path.toList := by
  refine ⟨paths_append_newline, fun a n => ?_, fun text => ⟨?_, fun path => ?_⟩⟩
  · induction n with
    | zero => rw [List.replicate_one, String.intercalate_singleton]
    | succ n ih =>
      have hnone : (paths a).filter (· ∉ paths a) = [] :=
        List.filter_eq_nil_iff.2 fun path hpath h => of_decide_eq_true h hpath
      rw [List.replicate_succ, String.intercalate_cons_of_ne_nil (by simp), paths_append_newline, ih,
        hnone, List.append_nil]
  · exact List.Nodup.map (fun _ _ => String.ofList_injective) (nodup_eraseDups _)
  · rw [mem_paths_iff, mem_candidates_iff]

end PageCache.ProcessMap
