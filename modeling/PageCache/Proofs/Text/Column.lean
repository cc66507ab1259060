import PageCache.Proofs.Text.Line

/-! The columns of a line, and what is left of the line behind some of them. -/

namespace PageCache.Text

/-- The characters that separate columns. -/
def blanks : List Char :=
  ['\t', '\n', '\x0b', '\x0c', '\r', '\x1c', '\x1d', '\x1e', '\x1f', ' ', '\u0085', '\u00a0', '\u1680',
    '\u2000', '\u2001', '\u2002', '\u2003', '\u2004', '\u2005', '\u2006', '\u2007', '\u2008', '\u2009',
    '\u200a', '\u2028', '\u2029', '\u202f', '\u205f', '\u3000']

/-- What stands between the blanks. -/
def columns (s : List Char) : List (List Char) := (s.splitOnP (· ∈ blanks)).filter (· ≠ [])

lemma mem_blanks_iff {c : Char} : c ∈ blanks ↔ isBlank c = true := by
  have heq : ∀ d : Char, c = d ↔ c.toNat = d.toNat := fun d => Char.toNat_inj.symm
  simp only [blanks, List.mem_cons, List.not_mem_nil, or_false, heq, isBlank, Bool.or_eq_true,
    Bool.and_eq_true, decide_eq_true_eq, beq_iff_eq, Char.reduceToNat]
  omega

variable {c : Char} {s spaces word front rest : List Char} {n : Nat}

lemma columns_append_cons (hc : isBlank c = true) (s t : List Char) :
    columns (s ++ c :: t) = columns s ++ columns t := by
  rw [columns, List.splitOnP_append_cons s t (decide_eq_true (mem_blanks_iff.2 hc)),
    List.filter_append]
  rfl

lemma columns_append_of_blank (h : ∀ c ∈ spaces, isBlank c = true) (t : List Char) :
    columns (spaces ++ t) = columns t := by
  induction spaces with
  | nil => rfl
  | cons c spaces ih =>
    rw [List.forall_mem_cons] at h
    rw [List.cons_append, ← ih h.2]
    exact columns_append_cons h.1 [] (spaces ++ t)

lemma columns_eq_singleton (hne : word ≠ []) (h : ∀ c ∈ word, isBlank c = false) :
    columns word = [word] := by
  have hnone : ∀ c ∈ word, decide (c ∈ blanks) = false :=
    fun c hc => decide_eq_false fun hmem => by simp [h c hc, mem_blanks_iff] at hmem
  rw [columns, List.splitOnP_eq_singleton hnone]
  exact List.filter_cons_of_pos (decide_eq_true hne)

lemma columns_column (hspaces : ∀ c ∈ spaces, isBlank c = true) (hne : word ≠ [])
    (hword : ∀ c ∈ word, isBlank c = false) (hrest : ∀ c ∈ rest.head?, isBlank c = true) :
    columns (spaces ++ word ++ rest) = word :: columns rest := by
  rw [List.append_assoc, columns_append_of_blank hspaces]
  cases rest with
  | nil => rw [List.append_nil, columns_eq_singleton hne hword]; rfl
  | cons c rest =>
    have hc := hrest c rfl
    rw [columns_append_cons hc, columns_eq_singleton hne hword]
    exact congrArg (word :: ·) (columns_append_cons hc [] rest).symm

lemma head?_dropColumn (hc : c ∈ (dropColumn s).head?) : isBlank c = true :=
  (Bool.not_eq_false' _).mp (head?_dropWhile hc)

lemma head?_fromColumn (hc : c ∈ (fromColumn n s).head?) : isBlank c = false := by
  induction n generalizing s with
  | zero => exact head?_dropWhile hc
  | succ n ih => exact ih hc

/-- A line that is not blank is blanks, a word, and what the word ends at. -/
lemma exists_column (h : dropBlanks s ≠ []) :
    ∃ spaces word, s = spaces ++ word ++ dropColumn s ∧ (∀ c ∈ spaces, isBlank c = true) ∧
      word ≠ [] ∧ ∀ c ∈ word, isBlank c = false := by
  refine ⟨s.takeWhile isBlank, (dropBlanks s).takeWhile fun c => !isBlank c, ?_, ?_, ?_, ?_⟩
  · rw [List.append_assoc, dropColumn, List.takeWhile_append_dropWhile, dropBlanks,
      List.takeWhile_append_dropWhile]
  · exact fun c hc => List.mem_takeWhile_imp hc
  · obtain ⟨c, rest, hcons⟩ := List.exists_cons_of_ne_nil h
    have hc : isBlank c = false := head?_dropWhile (s := s) (by rw [← dropBlanks, hcons]; rfl)
    rw [hcons, List.takeWhile_cons_of_pos (by rw [hc]; rfl)]
    exact List.cons_ne_nil _ _
  · intro c hc
    simpa only [Bool.not_eq_true'] using List.mem_takeWhile_imp hc

lemma length_columns (h : dropBlanks s ≠ []) :
    (columns s).length = (columns (dropColumn s)).length + 1 := by
  obtain ⟨spaces, word, hs, hspaces, hne, hword⟩ := exists_column h
  conv_lhs => rw [hs, columns_column hspaces hne hword fun _ => head?_dropColumn]
  rfl

lemma columns_eq_nil_iff : columns s = [] ↔ dropBlanks s = [] := by
  refine ⟨fun h => ?_, fun h => ?_⟩
  · by_contra hne
    have hlength := length_columns hne
    rw [h] at hlength
    cases hlength
  · rw [← List.append_nil s]
    exact columns_append_of_blank (List.dropWhile_eq_nil_iff.1 h) []

lemma dropColumn_column (hspaces : ∀ c ∈ spaces, isBlank c = true) (hne : word ≠ [])
    (hword : ∀ c ∈ word, isBlank c = false) (hrest : ∀ c ∈ rest.head?, isBlank c = true) :
    dropColumn (spaces ++ word ++ rest) = rest := by
  have hdrop : dropColumn (spaces ++ (word ++ rest)) = dropColumn (word ++ rest) :=
    congrArg (List.dropWhile _) (List.dropWhile_append_of_pos hspaces)
  rw [List.append_assoc, hdrop, dropColumn_append hne hword]
  cases rest with
  | nil => rfl
  | cons c rest => exact List.dropWhile_cons_of_neg (by rw [hrest c rfl]; decide)

/-- Behind columns and a blank the next column starts. -/
lemma fromColumn_append_cons (hc : isBlank c = true) (hrest : ∀ d ∈ rest.head?, isBlank d = false) :
    fromColumn (columns front).length (front ++ c :: rest) = rest := by
  -- by the number of columns, of which each step drops one
  generalize hn : (columns front).length = n
  induction n generalizing front with
  | zero =>
    have hblank := List.dropWhile_eq_nil_iff.1
      (columns_eq_nil_iff.1 (List.length_eq_zero_iff.1 hn))
    rw [fromColumn, dropBlanks, List.dropWhile_append_of_pos hblank, List.dropWhile_cons_of_pos hc]
    cases rest with
    | nil => rfl
    | cons d rest => exact dropBlanks_cons (hrest d rfl) rest
  | succ n ih =>
    have hne : dropBlanks front ≠ [] := by
      intro h
      rw [columns_eq_nil_iff.2 h] at hn
      cases hn
    obtain ⟨spaces, word, hcolumn, hspaces, hword, hblank⟩ := exists_column hne
    have hlength := (length_columns hne).symm.trans hn
    have hmore : ∀ d ∈ (dropColumn front ++ c :: rest).head?, isBlank d = true := by
      intro d hd
      cases hfirst : (dropColumn front).head? with
      | none =>
        rw [List.head?_append, hfirst] at hd
        exact Option.some.inj hd ▸ hc
      | some e =>
        rw [List.head?_append, hfirst] at hd
        exact head?_dropColumn (hfirst.trans hd)
    rw [hcolumn, fromColumn, List.append_assoc, dropColumn_column hspaces hword hblank hmore]
    exact ih (Nat.succ.inj hlength)

/-- A column that is there stands behind all columns before it. -/
lemma exists_front (h : fromColumn n s = rest) (hne : rest ≠ []) :
    ∃ front, s = front ++ rest ∧ (columns front).length = n ∧
      ∀ c ∈ front.getLast?, isBlank c = true := by
  induction n generalizing s with
  | zero =>
    refine ⟨s.takeWhile isBlank, ?_, ?_, ?_⟩
    · rw [← h, fromColumn, dropBlanks, List.takeWhile_append_dropWhile]
    · rw [List.length_eq_zero_iff, columns_eq_nil_iff, dropBlanks, List.dropWhile_eq_nil_iff]
      exact fun c hc => List.mem_takeWhile_imp hc
    · exact fun c hc => List.mem_takeWhile_imp (List.mem_of_mem_getLast? hc)
  | succ n ih =>
    obtain ⟨front, hfront, hlength, hlast⟩ := ih h
    have hline : dropBlanks s ≠ [] := by
      intro hblank
      rw [dropColumn, hblank, List.dropWhile_nil] at hfront
      exact hne (List.append_eq_nil_iff.1 hfront.symm).2
    obtain ⟨spaces, word, hcolumn, hspaces, hword, hblank⟩ := exists_column hline
    have hhead := fun c => head?_dropColumn (c := c) (s := s)
    rw [hfront] at hcolumn hhead
    refine ⟨spaces ++ word ++ front, ?_, ?_, ?_⟩
    · rw [hcolumn, List.append_assoc _ front]
    · rw [columns_column hspaces hword hblank, List.length_cons, hlength]
      intro c hc
      exact hhead c (by rw [List.head?_append, hc]; rfl)
    · intro c hc
      have hsome : front ≠ [] := by
        rintro rfl
        obtain ⟨d, more, rfl⟩ := List.exists_cons_of_ne_nil hne
        have hd := head?_fromColumn (c := d) (n := n + 1) (s := s) (h ▸ rfl)
        rw [hhead d rfl] at hd
        cases hd
      rw [List.getLast?_append_of_ne_nil _ hsome] at hc
      exact hlast c hc

theorem fromColumn_eq_iff (hrest : ∃ d, rest.head? = some d ∧ isBlank d = false) :
    fromColumn (n + 1) s = rest ↔
      ∃ front c, s = front ++ c :: rest ∧ isBlank c = true ∧ (columns front).length = n + 1 := by
  obtain ⟨d, hd, hblank⟩ := hrest
  constructor
  · intro h
    have hne : rest ≠ [] := by
      rintro rfl
      cases hd
    obtain ⟨front, hs, hlength, hlast⟩ := exists_front h hne
    have hsome : front ≠ [] := by
      rintro rfl
      cases hlength
    have hc := hlast _ (List.getLast?_eq_some_getLast hsome)
    rw [← List.dropLast_concat_getLast hsome] at hs hlength
    refine ⟨front.dropLast, front.getLast hsome, by rw [hs, List.append_assoc]; rfl, hc, ?_⟩
    rw [columns_append_cons hc] at hlength
    exact (congrArg List.length (List.append_nil _)).symm.trans hlength
  · rintro ⟨front, c, rfl, hc, hlength⟩
    rw [← hlength]
    refine fromColumn_append_cons hc fun e he => ?_
    rw [Option.mem_def, hd] at he
    exact Option.some.inj he ▸ hblank

end PageCache.Text
