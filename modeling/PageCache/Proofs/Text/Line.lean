import Mathlib.Data.List.Basic
import Mathlib.Data.List.TakeWhile
import Mathlib.Tactic.Lemma
import PageCache.Text.Blank
import PageCache.Text.Line

/-! Lines and columns read back from where they were written: a line feed ends what is written
before it, whatever it holds, and behind a column with blanks the next one starts. -/

namespace PageCache.Text

/-- What stands before the first end of a line. -/
def firstLine (s : List Char) : List Char := s.takeWhile fun c => !isLineEnd c

lemma isBlank_of_isLineEnd {c : Char} (h : isLineEnd c = true) : isBlank c = true := by
  simp only [isLineEnd, isBlank, Bool.or_eq_true, Bool.and_eq_true, decide_eq_true_eq,
    beq_iff_eq] at h ⊢
  omega

lemma firstLine_append {s : List Char} (h : ∀ c ∈ s, isLineEnd c = false) (t : List Char) :
    firstLine (s ++ t) = s ++ firstLine t :=
  List.takeWhile_append_of_pos fun c hc => by rw [h c hc]; rfl

lemma firstLine_eq_self_iff {s : List Char} :
    firstLine s = s ↔ ∀ c ∈ s, isLineEnd c = false := by
  simp only [firstLine, List.takeWhile_eq_self_iff, Bool.not_eq_true']

lemma firstLine_cons (c : Char) (s : List Char) :
    firstLine (c :: s) = if isLineEnd c then [] else c :: firstLine s := by
  rw [firstLine, List.takeWhile_cons]
  cases isLineEnd c <;> rfl

lemma firstLine_append_newline (s : List Char) : firstLine (s ++ ['\n']) = firstLine s := by
  induction s with
  | nil => rfl
  | cons c s ih => rw [List.cons_append, firstLine_cons, firstLine_cons, ih]

lemma lines_cons_of_isLineEnd {c : Char} {s : List Char} (hc : isLineEnd c = true)
    (h : c = '\r' → s.head? ≠ some '\n') : lines (c :: s) = [] :: lines s := by
  rw [lines, if_pos hc]
  rintro rest rfl rfl
  exact h rfl rfl

lemma lines_crlf (s : List Char) : lines ('\r' :: '\n' :: s) = [] :: lines s := by
  rw [lines]

lemma lines_cons_of_ne_nil {c : Char} {s line : List Char} {more : List (List Char)}
    (hc : isLineEnd c = false) (h : lines s = line :: more) :
    lines (c :: s) = (c :: line) :: more := by
  rw [lines, if_neg (Bool.eq_false_iff.1 hc)]
  · simp only [h]
  · rintro rest rfl
    exact absurd hc (by decide)

lemma lines_eq_cons {s : List Char} (h : s ≠ []) : ∃ more, lines s = firstLine s :: more := by
  fun_induction lines s with
  | case1 => exact absurd rfl h
  | case2 rest ih => exact ⟨_, rfl⟩
  | case3 c rest hcrlf hend ih => exact ⟨_, by rw [firstLine_cons, if_pos hend]⟩
  | case4 c rest hcrlf hend hrest ih =>
    obtain rfl : rest = [] := by
      by_contra hne
      obtain ⟨more, hmore⟩ := ih hne
      exact absurd (hrest.symm.trans hmore) (List.cons_ne_nil _ _).symm
    exact ⟨[], by rw [firstLine_cons, if_neg hend]; rfl⟩
  | case5 c rest hcrlf hend first more hrest ih =>
    have hne : rest ≠ [] := by
      rintro rfl
      cases hrest
    obtain ⟨_, hmore⟩ := ih hne
    obtain ⟨rfl, -⟩ := List.cons.inj (hrest.symm.trans hmore)
    exact ⟨more, by rw [firstLine_cons, if_neg hend]⟩

lemma not_isLineEnd_of_mem_lines {s line : List Char} {c : Char} (h : line ∈ lines s)
    (hc : c ∈ line) : isLineEnd c = false := by
  fun_induction lines s generalizing line with
  | case1 => cases h
  | case2 rest ih =>
    obtain rfl | h := List.mem_cons.1 h
    · cases hc
    · exact ih h hc
  | case3 d rest hd hend ih =>
    obtain rfl | h := List.mem_cons.1 h
    · cases hc
    · exact ih h hc
  | case4 d rest hd hend hrest ih =>
    obtain rfl := List.mem_singleton.1 h
    obtain rfl := List.mem_singleton.1 hc
    exact Bool.not_eq_true _ ▸ hend
  | case5 d rest hd hend first more hrest ih =>
    obtain rfl | h := List.mem_cons.1 h
    · obtain rfl | hc := List.mem_cons.1 hc
      · exact Bool.not_eq_true _ ▸ hend
      · exact ih (hrest ▸ List.mem_cons_self) hc
    · exact ih (hrest ▸ List.mem_cons_of_mem first h) hc

/-- An end of a line that no line feed follows yet stays one, unless a line feed comes right behind
it and it is a carriage return. -/
lemma lines_cons_append_newline {c : Char} {s : List Char} (hc : isLineEnd c = true)
    (hs : ∀ rest, c = '\r' → s = '\n' :: rest → False) (hne : ¬(c = '\r' ∧ s = [])) (t : List Char) :
    lines (c :: (s ++ '\n' :: t)) = [] :: lines (s ++ '\n' :: t) := by
  refine lines_cons_of_isLineEnd hc ?_
  rintro rfl
  cases s with
  | nil => exact absurd ⟨rfl, rfl⟩ hne
  | cons d s =>
    intro h
    obtain rfl := Option.some.inj h
    exact hs s rfl rfl

lemma lines_append_newline (s t : List Char) :
    lines (s ++ '\n' :: t) = lines (s ++ ['\n']) ++ lines t := by
  fun_induction lines s with
  | case1 => rfl
  | case2 rest ih =>
    rw [List.cons_append, List.cons_append, lines_crlf, ih, List.cons_append, List.cons_append,
      lines_crlf, List.cons_append]
  | case3 d rest hd hend ih =>
    -- A carriage return at the end of `s` and the line feed behind it are one end.
    obtain ⟨rfl, rfl⟩ | hcrlf := Classical.em (d = '\r' ∧ rest = [])
    · rfl
    · have hline := lines_cons_append_newline hend hd hcrlf
      rw [List.cons_append, List.cons_append, hline t, hline [], ih, List.cons_append]
  | case4 d rest hd hend hrest ih | case5 d rest hd hend first more hrest ih =>
    obtain ⟨_, hline⟩ := lines_eq_cons (s := rest ++ ['\n']) (by simp)
    have hchar := Bool.not_eq_true _ ▸ hend
    rw [List.cons_append, List.cons_append, lines_cons_of_ne_nil hchar hline,
      lines_cons_of_ne_nil hchar (ih.trans (congrArg (· ++ lines t) hline))]
    rfl

/-- Behind the last line a line feed ends it, if it is not ended yet, or opens an empty one. -/
lemma lines_newline (s : List Char) :
    lines (s ++ ['\n']) = lines s ∨ lines (s ++ ['\n']) = lines s ++ [[]] := by
  fun_induction lines s with
  | case1 => exact .inr rfl
  | case2 rest ih =>
    rw [List.cons_append, List.cons_append, lines_crlf]
    exact ih.imp (congrArg ([] :: ·)) (congrArg ([] :: ·))
  | case3 d rest hd hend ih =>
    obtain ⟨rfl, rfl⟩ | hcrlf := Classical.em (d = '\r' ∧ rest = [])
    · exact .inl rfl
    · rw [List.cons_append, lines_cons_append_newline hend hd hcrlf []]
      exact ih.imp (congrArg ([] :: ·)) (congrArg ([] :: ·))
  | case4 d rest hd hend hrest ih =>
    obtain rfl : rest = [] := by
      by_contra hne
      obtain ⟨more, hmore⟩ := lines_eq_cons hne
      cases hrest.symm.trans hmore
    exact .inl (lines_cons_of_ne_nil (Bool.not_eq_true _ ▸ hend) rfl)
  | case5 d rest hd hend first more hrest ih =>
    have hchar := Bool.not_eq_true _ ▸ hend
    rw [hrest] at ih
    refine ih.imp (fun h => ?_) fun h => ?_
    · exact lines_cons_of_ne_nil hchar h
    · exact lines_cons_of_ne_nil hchar h

lemma lines_flatMap_newline (bodies : List (List Char)) :
    lines (bodies.flatMap (· ++ ['\n'])) = bodies.flatMap fun body => lines (body ++ ['\n']) := by
  induction bodies with
  | nil => rfl
  | cons body bodies ih =>
    rw [List.flatMap_cons, List.flatMap_cons, ← ih, List.append_assoc, List.singleton_append,
      lines_append_newline]

lemma head?_dropWhile {p : Char → Bool} {s : List Char} {c : Char} (hc : c ∈ (s.dropWhile p).head?) :
    p c = false := by
  have h := List.head?_dropWhile_not p s
  rw [Option.mem_def] at hc
  simpa only [hc, Bool.not_eq_true'] using h

lemma dropBlanks_cons {c : Char} (h : isBlank c = false) (s : List Char) :
    dropBlanks (c :: s) = c :: s :=
  List.dropWhile_cons_of_neg (Bool.not_eq_true _ ▸ h)

lemma dropBlanks_spaces (n : Nat) (s : List Char) :
    dropBlanks (List.replicate n ' ' ++ s) = dropBlanks s :=
  List.dropWhile_append_of_pos fun _ hc => List.eq_of_mem_replicate hc ▸ rfl

lemma dropColumn_append {word : List Char} (hne : word ≠ [])
    (h : ∀ c ∈ word, isBlank c = false) (s : List Char) :
    dropColumn (word ++ s) = s.dropWhile fun c => !isBlank c := by
  obtain ⟨c, rest, rfl⟩ := List.exists_cons_of_ne_nil hne
  rw [dropColumn, List.cons_append, dropBlanks_cons (h c List.mem_cons_self), ← List.cons_append]
  exact List.dropWhile_append_of_pos fun d hd => by rw [h d hd]; rfl

lemma dropColumn_suffix (s : List Char) : dropColumn s <:+ s :=
  (List.dropWhile_suffix _).trans (List.dropWhile_suffix _)

lemma fromColumn_suffix (n : Nat) (s : List Char) : fromColumn n s <:+ s := by
  induction n generalizing s with
  | zero => exact List.dropWhile_suffix _
  | succ n ih => exact (ih _).trans (dropColumn_suffix s)

end PageCache.Text
