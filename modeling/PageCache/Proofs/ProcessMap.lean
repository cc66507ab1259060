import PageCache.ProcessMap
import PageCache.Proofs.Text.LineEnds

/-! A memory map as the kernel prints it, and what is read back from it: the paths of the mapped
files, unless a name in it holds an end of a line other than the line feed. -/

namespace PageCache.ProcessMap

open Text

/-- A word, and how many blanks stand behind it besides the one that separates it. -/
structure Column where
  word : List Char
  gap : Nat
  word_ne_nil : word ≠ []
  no_blank : word.all fun c => !isBlank c

def Column.print (c : Column) : List Char := c.word ++ List.replicate (c.gap + 1) ' '

/-- What is mapped. The path of a file holds no line feed and does not end as if it were deleted. -/
inductive Backing where
  | anonymous
  | pseudo (name : List Char)
  | unlinked (path : List Char) (absolute : path.head? = some '/')
  | file (path : List Char) (absolute : path.head? = some '/') (unbroken : '\n' ∉ path)
      (kept : ¬ deletedMark <:+ path)

structure Mapping where
  columns : List Column
  inode : Column
  backing : Backing
  length_columns : columns.length + 1 = pathColumn

/-- A line feed in a path is printed as its octal code. -/
def escape (path : List Char) : List Char :=
  path.flatMap fun c => if c = '\n' then "\\012".toList else [c]

namespace Backing

def name : Backing → List Char
  | .anonymous => []
  | .pseudo name => '[' :: name ++ [']']
  | .unlinked path _ => escape path ++ deletedMark
  | .file path .. => escape path

def livePath? : Backing → Option (List Char)
  | .file path .. => some path
  | _ => none

def print : Backing → List Char
  -- No blank has to stand where there is no name.
  | .anonymous => []
  | b => ' ' :: b.name

end Backing

namespace Mapping

def lead (m : Mapping) : List Char :=
  m.columns.flatMap Column.print ++ m.inode.word ++ List.replicate m.inode.gap ' '

def body (m : Mapping) : List Char := m.lead ++ m.backing.print

end Mapping

def print (ms : List Mapping) : List Char := ms.flatMap fun m => m.body ++ ['\n']

lemma isLivePath_iff {path : List Char} :
    isLivePath path = true ↔ path.head? = some '/' ∧ ¬ deletedMark <:+ path := by
  have hprefix : ['/'].isPrefixOf path = true ↔ path.head? = some '/' := by
    rw [List.isPrefixOf_iff_prefix, List.head?_eq_some_iff]
    exact exists_congr fun rest => eq_comm
  rw [isLivePath, Bool.and_eq_true, hprefix, Bool.not_eq_true', ← Bool.not_eq_true,
    List.isSuffixOf_iff_suffix]

lemma dropBlanks_of_absolute {path : List Char} (h : path.head? = some '/') :
    dropBlanks path = path := by
  obtain ⟨rest, rfl⟩ := List.head?_eq_some_iff.1 h
  rfl

lemma escape_eq_self {path : List Char} (h : '\n' ∉ path) : escape path = path := by
  induction path with
  | nil => rfl
  | cons c path ih =>
    rw [List.mem_cons, not_or] at h
    rw [escape, List.flatMap_cons, if_neg (Ne.symm h.1), ← escape, ih h.2, List.singleton_append]

namespace Backing

variable {b : Backing} {path : List Char}

/-- A name tells by itself whether a file is mapped that still exists. -/
lemma livePath?_eq (b : Backing) : b.livePath? = Option.guard isLivePath b.name := by
  cases b with
  | anonymous => rfl
  | pseudo name => rfl
  | unlinked path absolute =>
    have hdeleted : isLivePath (escape path ++ deletedMark) = false := by
      rw [← Bool.not_eq_true, isLivePath_iff, not_and_not_right]
      exact fun _ => List.suffix_append _ _
    rw [name, Option.guard, hdeleted]
    rfl
  | file path absolute unbroken kept =>
    rw [name, Option.guard, escape_eq_self unbroken, isLivePath_iff.2 ⟨absolute, kept⟩]
    rfl

lemma isLivePath_of_livePath (h : b.livePath? = some path) : isLivePath path = true := by
  rw [livePath?_eq, Option.guard_eq_some_iff] at h
  exact h.1 ▸ h.2

lemma print_of_livePath (h : b.livePath? = some path) : b.print = ' ' :: path := by
  cases b with
  | file p absolute unbroken kept =>
    obtain rfl := Option.some.inj h
    exact congrArg (' ' :: ·) (escape_eq_self unbroken)
  | _ => cases h

lemma dropBlanks_print (b : Backing) : dropBlanks b.print = b.name := by
  cases b with
  | anonymous => rfl
  | pseudo name => rfl
  | unlinked path absolute =>
    obtain ⟨rest, rfl⟩ := List.head?_eq_some_iff.1 absolute
    rfl
  | file path absolute unbroken kept =>
    obtain ⟨rest, rfl⟩ := List.head?_eq_some_iff.1 absolute
    rfl

lemma head?_print (b : Backing) : b.print = [] ∨ b.print.head? = some ' ' := by
  cases b with
  | anonymous => exact .inl rfl
  | _ => exact .inr rfl

lemma not_isLineEnd_print (h : ∀ c ∈ b.name, isLineEnd c = false) :
    ∀ c ∈ b.print, isLineEnd c = false := by
  cases b with
  | anonymous => exact h
  | _ => exact List.forall_mem_cons.2 ⟨rfl, h⟩

end Backing

lemma Column.not_blank (c : Column) : ∀ d ∈ c.word, isBlank d = false := by
  simpa only [List.all_eq_true, Bool.not_eq_true'] using c.no_blank

lemma Column.fromColumn_print (c : Column) (n : Nat) (s : List Char) :
    fromColumn (n + 1) (c.print ++ s) = fromColumn n s := by
  have hspace : (List.replicate (c.gap + 1) ' ' ++ s).dropWhile (fun c => !isBlank c) =
      List.replicate (c.gap + 1) ' ' ++ s := rfl
  rw [fromColumn, print, List.append_assoc, dropColumn_append c.word_ne_nil c.not_blank, hspace,
    ← fromColumn_dropBlanks, dropBlanks_spaces, fromColumn_dropBlanks]

lemma fromColumn_columns (cs : List Column) (n : Nat) (s : List Char) :
    fromColumn (cs.length + n) (cs.flatMap Column.print ++ s) = fromColumn n s := by
  induction cs with
  | nil => rw [List.length_nil, Nat.zero_add]; rfl
  | cons c cs ih =>
    rw [List.length_cons, Nat.add_right_comm, List.flatMap_cons, List.append_assoc,
      c.fromColumn_print, ih]

namespace Mapping

variable (m : Mapping)

lemma fromColumn_lead {s : List Char} (h : s = [] ∨ s.head? = some ' ') :
    fromColumn pathColumn (m.lead ++ s) = dropBlanks s := by
  -- The word of the last column ends at a blank, or with the line.
  have hspace : (List.replicate m.inode.gap ' ' ++ s).dropWhile (fun c => !isBlank c) =
      List.replicate m.inode.gap ' ' ++ s := by
    cases m.inode.gap with
    | zero =>
      obtain rfl | h := h
      · rfl
      · obtain ⟨rest, rfl⟩ := List.head?_eq_some_iff.1 h
        rfl
    | succ n => rfl
  rw [lead, List.append_assoc, List.append_assoc, ← m.length_columns, fromColumn_columns,
    fromColumn, dropColumn_append m.inode.word_ne_nil m.inode.not_blank, hspace, fromColumn,
    dropBlanks_spaces]

lemma fromColumn_body : fromColumn pathColumn m.body = m.backing.name := by
  rw [body, m.fromColumn_lead m.backing.head?_print, Backing.dropBlanks_print]

lemma not_isLineEnd_lead : ∀ c ∈ m.lead, isLineEnd c = false := by
  have hword : ∀ (column : Column), ∀ c ∈ column.word, isLineEnd c = false := by
    intro column c hc
    rw [← Bool.not_eq_true]
    intro hend
    exact absurd (isBlank_of_isLineEnd hend) (by rw [column.not_blank c hc]; exact Bool.false_ne_true)
  have hspace : ∀ n, ∀ c ∈ List.replicate n ' ', isLineEnd c = false := fun n c hc =>
    List.eq_of_mem_replicate hc ▸ rfl
  intro c hc
  simp only [lead, Column.print, List.mem_append, List.mem_flatMap] at hc
  obtain (⟨column, -, hc | hc⟩ | hc) | hc := hc
  · exact hword column c hc
  · exact hspace _ c hc
  · exact hword m.inode c hc
  · exact hspace _ c hc

end Mapping

lemma lines_print (ms : List Mapping) :
    lines (print ms) = ms.flatMap fun m => lines (m.body ++ ['\n']) := by
  rw [print, ← List.flatMap_map Mapping.body (· ++ ['\n']), lines_flatMap_newline, List.flatMap_map]

lemma livePaths_print {ms : List Mapping}
    (h : ∀ m ∈ ms, ∀ c ∈ m.backing.name, isLineEnd c = false) :
    livePaths (print ms) = (ms.filterMap fun m => m.backing.livePath?).eraseDups := by
  have hending : Ends ['\n'] [] := .single rfl (by decide)
  have hlines : ∀ m ∈ ms, lines (m.body ++ ['\n']) = [m.body] := fun m hm =>
    lines_append_ending (fun c hc => (List.mem_append.1 hc).elim
      (m.not_isLineEnd_lead c) (Backing.not_isLineEnd_print (h m hm) c)) hending
  have hnames : (lines (print ms)).map (fromColumn pathColumn) = ms.map (·.backing.name) := by
    rw [lines_print, List.flatMap_congr hlines, ← List.map_eq_flatMap]
    simp only [List.map_map, Function.comp_def, Mapping.fromColumn_body]
  rw [livePaths, hnames, ← List.filterMap_eq_filter, List.filterMap_map]
  simp only [Backing.livePath?_eq, Function.comp_def]

lemma firstLine_mem_livePaths {ms : List Mapping} {m : Mapping} {path : List Char} (hm : m ∈ ms)
    (h : m.backing.livePath? = some path) (hkept : ¬ deletedMark <:+ firstLine path) :
    firstLine path ∈ livePaths (print ms) := by
  obtain ⟨habsolute, -⟩ := isLivePath_iff.1 (Backing.isLivePath_of_livePath h)
  have hhead : (firstLine path).head? = some '/' := by
    obtain ⟨rest, rfl⟩ := List.head?_eq_some_iff.1 habsolute
    rfl
  -- The line of the mapping goes as far as the name does without an end of a line.
  have hline : m.lead ++ ' ' :: firstLine path ∈ lines (print ms) := by
    have hne : m.body ++ ['\n'] ≠ [] := by simp
    obtain ⟨more, hmore⟩ := lines_eq_cons hne
    have hfirst : firstLine (m.body ++ ['\n']) = m.lead ++ ' ' :: firstLine path := by
      rw [firstLine_append_newline, Mapping.body, firstLine_append m.not_isLineEnd_lead,
        Backing.print_of_livePath h]
      rfl
    rw [hfirst] at hmore
    rw [lines_print]
    exact List.mem_flatMap.2 ⟨m, hm, hmore ▸ List.mem_cons_self⟩
  have hname : fromColumn pathColumn (m.lead ++ ' ' :: firstLine path) = firstLine path :=
    (m.fromColumn_lead (.inr rfl)).trans (dropBlanks_of_absolute hhead)
  rw [livePaths, List.mem_eraseDups, List.mem_filter]
  exact ⟨List.mem_map.2 ⟨_, hline, hname⟩, isLivePath_iff.2 ⟨hhead, hkept⟩⟩

lemma not_isLineEnd_of_mem_livePaths {text path : List Char} {c : Char} (h : path ∈ livePaths text)
    (hc : c ∈ path) : isLineEnd c = false := by
  obtain ⟨line, hline, rfl⟩ := List.mem_map.1 (List.mem_filter.1 (List.mem_eraseDups.1 h)).1
  exact not_isLineEnd_of_mem_lines hline ((fromColumn_suffix _ _).subset hc)

theorem paths_print (ms : List Mapping) :
    let found := paths (String.ofList (print ms))
    (∀ m ∈ ms, ∀ path, m.backing.livePath? = some path →
      (String.ofList path ∈ found ↔ ∀ c ∈ path, isLineEnd c = false) ∧
        (¬ deletedMark <:+ firstLine path → String.ofList (firstLine path) ∈ found)) ∧
      ((∀ m ∈ ms, ∀ c ∈ m.backing.name, isLineEnd c = false) →
        found = (ms.filterMap fun m => m.backing.livePath?).eraseDups.map String.ofList) := by
  intro found
  have hfound : found = (livePaths (print ms)).map String.ofList := by
    rw [← String.toList_ofList (l := print ms)]
    rfl
  have hmem : ∀ path, String.ofList path ∈ found ↔ path ∈ livePaths (print ms) := by
    intro path
    rw [hfound]
    refine ⟨fun h => ?_, List.mem_map_of_mem⟩
    obtain ⟨_, hpath, heq⟩ := List.mem_map.1 h
    exact String.ofList_injective heq ▸ hpath
  refine ⟨fun m hm path hpath => ?_, fun h => hfound.trans (congrArg _ (livePaths_print h))⟩
  have hcut := fun hkept => firstLine_mem_livePaths hm hpath hkept
  rw [hmem, hmem]
  refine ⟨⟨fun h _ hc => not_isLineEnd_of_mem_livePaths h hc, fun h => ?_⟩, hcut⟩
  rw [firstLine_eq_self_iff.2 h] at hcut
  exact hcut (isLivePath_iff.1 (Backing.isLivePath_of_livePath hpath)).2

/-- A line whose columns are those of some mapping of a library. -/
def Backing.onLine (b : Backing) : Mapping where
  columns :=
    [⟨"7f2c4e5d1000-7f2c4e5f3000".toList, 0, by decide, by decide⟩,
      ⟨"r--p".toList, 0, by decide, by decide⟩, ⟨"00000000".toList, 0, by decide, by decide⟩,
      ⟨"08:01".toList, 0, by decide, by decide⟩]
  inode := ⟨"1311".toList, 3, by decide, by decide⟩
  backing := b
  length_columns := rfl

theorem paths_print_spaces :
    let spaced : Backing := .file "/srv/with  space ".toList rfl (by decide) (by decide)
    let ms := [.file "/usr/bin/cat".toList rfl (by decide) (by decide), .pseudo "heap".toList,
      .anonymous, .unlinked "/tmp/old\ndata".toList rfl, spaced, spaced].map Backing.onLine
    let found := paths (String.ofList (print ms))
    spaced.onLine ∈ ms ∧ (∀ m ∈ ms, ∀ c ∈ m.backing.name, isLineEnd c = false) ∧
      "/srv/with  space " ∈ found ∧ found = ["/usr/bin/cat", "/srv/with  space "] := by
  intro spaced ms found
  obtain ⟨hlive, hall⟩ := paths_print ms
  have hmem : spaced.onLine ∈ ms := by
    simp only [ms, List.map_cons, List.mem_cons, true_or, or_true]
  have hnames : ∀ m ∈ ms, ∀ c ∈ m.backing.name, isLineEnd c = false := by
    have hevery : (ms.all fun m => m.backing.name.all fun c => !isLineEnd c) = true := by decide
    simpa only [List.all_eq_true, Bool.not_eq_true'] using hevery
  have hmapped : (ms.filterMap fun m => m.backing.livePath?).eraseDups.map String.ofList =
      ["/usr/bin/cat", "/srv/with  space "] := by decide +kernel
  have hwhole : String.ofList (firstLine "/srv/with  space ".toList) = "/srv/with  space " := by
    decide +kernel
  have hspaced := (hlive _ hmem "/srv/with  space ".toList rfl).2 (by decide +kernel)
  rw [hwhole] at hspaced
  exact ⟨hmem, hnames, hspaced, (hall hnames).trans hmapped⟩

/-- A path is cut at an end of a line other than the line feed. -/
theorem paths_print_next_line :
    let ms := [Backing.onLine (.file "/data/a\u0085b".toList rfl (by decide) (by decide))]
    (ms.filterMap fun m => m.backing.livePath?).eraseDups.map String.ofList = ["/data/a\u0085b"] ∧
      paths (String.ofList (print ms)) = ["/data/a"] := by
  decide +kernel

end PageCache.ProcessMap
