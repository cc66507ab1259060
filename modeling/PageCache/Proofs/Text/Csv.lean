import Mathlib.Data.List.Forall2
import Mathlib.Tactic.Lemma
import PageCache.Text.Line
import PageCache.Text.Quoted

/-! Comma-separated values and their reader. Rows that are written without quotation marks are read
back just if no field needs them. -/

namespace PageCache

namespace Csv

open Text

/-- Where in a field the reading stands; `closed` is behind a mark in a quoted one, which ends it or
is the first of two. -/
inductive Place where
  | start
  | plain
  | quoted
  | closed
  deriving DecidableEq

/-- What is read from some place on: the rest of a field, the fields behind it in its row, and the
rows below. -/
structure Sheet where
  field : List Char := []
  fields : List (List Char) := []
  below : List (List (List Char)) := []

namespace Sheet

def push (c : Char) (s : Sheet) : Sheet := { s with field := c :: s.field }

def behind (front : List Char) (s : Sheet) : Sheet := { s with field := front ++ s.field }

def rows (s : Sheet) : List (List (List Char)) := (s.field :: s.fields) :: s.below

def nextField (s : Sheet) : Sheet := ⟨[], s.field :: s.fields, s.below⟩

def nextRow (s : Sheet) : Sheet := ⟨[], [], s.rows⟩

end Sheet

def isBreak (c : Char) : Bool := c == '\n' || c == '\r'

/-- Reads on. A strict reader has no text for a quotation mark where none may stand; a lenient one
takes it as it is. -/
def read? (lenient : Bool) : Place → List Char → Option Sheet
  | .quoted, [] => if lenient then some {} else none
  | .quoted, c :: rest =>
    if c = doubleQuote then read? lenient .closed rest
    else (read? lenient .quoted rest).map (·.push c)
  | _, [] => some {}
  | _, '\r' :: '\n' :: rest =>
    if rest = [] then some {} else (read? lenient .start rest).map (·.nextRow)
  | place, c :: rest =>
    if c = ',' then (read? lenient .start rest).map (·.nextField)
    else if isBreak c then
      if rest = [] then some {} else (read? lenient .start rest).map (·.nextRow)
    else if c = doubleQuote ∧ place = .start then read? lenient .quoted rest
    else if c = doubleQuote ∧ place = .closed then (read? lenient .quoted rest).map (·.push c)
    else if lenient ∨ c ≠ doubleQuote ∧ place ≠ .closed then
      (read? lenient .plain rest).map (·.push c)
    else none

def rows? (lenient : Bool) (s : List Char) : Option (List (List (List Char))) :=
  if s = [] then some [] else (read? lenient .start s).map (·.rows)

/-- May stand in a field without quotation marks, behind its first character. -/
def isInner (lenient : Bool) (c : Char) : Bool :=
  c != ',' && !isBreak c && (lenient || c != doubleQuote)

/-- A field that is read as it stands. -/
def Bare (lenient : Bool) (s : List Char) : Prop :=
  s.head? ≠ some doubleQuote ∧ ∀ c ∈ s, isInner lenient c = true

instance (lenient : Bool) (s : List Char) : Decidable (Bare lenient s) :=
  @instDecidableAnd _ _ inferInstance (List.decidableBAll (fun c => isInner lenient c = true) s)

variable {lenient : Bool} {place : Place} {c : Char} {rest : List Char} {sheet : Sheet}

lemma read?_nil (h : place ≠ .quoted) : read? lenient place [] = some {} := by
  cases place with
  | quoted => exact absurd rfl h
  | _ => rfl

lemma read?_comma (h : place ≠ .quoted) (rest : List Char) :
    read? lenient place (',' :: rest) = (read? lenient .start rest).map (·.nextField) := by
  cases place with
  | quoted => exact absurd rfl h
  | _ => rfl

lemma read?_newline (h : place ≠ .quoted) (hrest : rest ≠ []) :
    read? lenient place ('\n' :: rest) = (read? lenient .start rest).map (·.nextRow) := by
  cases place with
  | quoted => exact absurd rfl h
  | _ => exact if_neg hrest

/-- Where a row ends, so does its last field. -/
lemma read?_break (h : place ≠ .quoted) (hc : isBreak c = true)
    (hread : read? lenient place (c :: rest) = some sheet) :
    sheet.field = [] ∧ sheet.fields = [] := by
  have hempty : ∀ {s : List Char} {t : Option Sheet},
      (if s = [] then some {} else t.map (·.nextRow)) = some sheet →
        sheet.field = [] ∧ sheet.fields = [] := by
    intro s t hs
    split at hs
    · obtain rfl := Option.some.inj hs
      exact ⟨rfl, rfl⟩
    · obtain ⟨below, -, rfl⟩ := Option.map_eq_some_iff.1 hs
      exact ⟨rfl, rfl⟩
  have hcomma : c ≠ ',' := by
    rintro rfl
    cases hc
  rw [read?.eq_def] at hread
  split at hread
  · cases List.cons_ne_nil _ _ (by assumption)
  · exact absurd rfl h
  · cases List.cons_ne_nil _ _ (by assumption)
  · exact hempty hread
  · rename_i heq
    obtain ⟨rfl, rfl⟩ := List.cons.inj heq
    rw [if_neg hcomma, if_pos hc] at hread
    exact hempty hread

lemma read?_cons (h : place ≠ .quoted) (hc : isBreak c = false) :
    read? lenient place (c :: rest) =
      if c = ',' then (read? lenient .start rest).map (·.nextField)
      else if c = doubleQuote ∧ place = .start then read? lenient .quoted rest
      else if c = doubleQuote ∧ place = .closed then (read? lenient .quoted rest).map (·.push c)
      else if lenient ∨ c ≠ doubleQuote ∧ place ≠ .closed then
        (read? lenient .plain rest).map (·.push c)
      else none := by
  have hreturn : c ≠ '\r' := by
    rintro rfl
    cases hc
  rw [read?.eq_def]
  split
  · cases List.cons_ne_nil _ _ (by assumption)
  · exact absurd rfl h
  · cases List.cons_ne_nil _ _ (by assumption)
  · rename_i heq
    exact absurd (List.cons.inj heq).1 hreturn
  · rename_i heq
    obtain ⟨rfl, rfl⟩ := List.cons.inj heq
    rw [if_neg (show ¬isBreak c = true by rw [hc]; decide)]

lemma read?_inner (h : place = .start ∧ c ≠ doubleQuote ∨ place = .plain)
    (hc : isInner lenient c = true) :
    read? lenient place (c :: rest) = (read? lenient .plain rest).map (·.push c) := by
  simp only [isInner, Bool.and_eq_true, Bool.or_eq_true, bne_iff_ne, Bool.not_eq_true'] at hc
  obtain ⟨⟨hcomma, hbreak⟩, hmark⟩ := hc
  have hopen : place ≠ .quoted := by
    rintro rfl
    simp at h
  rw [read?_cons hopen hbreak, if_neg hcomma]
  obtain ⟨rfl, hne⟩ | rfl := h
  · rw [if_neg fun hstart => hne hstart.1, if_neg fun hclosed => hne hclosed.1,
      if_pos (.inr ⟨hne, Place.noConfusion⟩)]
  · rw [if_neg fun hstart => Place.noConfusion hstart.2,
      if_neg fun hclosed => Place.noConfusion hclosed.2, if_pos]
    exact hmark.imp id fun hne => ⟨hne, Place.noConfusion⟩

/-- What stands in a field up to some place is read as it is. -/
lemma read?_plain_append {front : List Char} (h : ∀ c ∈ front, isInner lenient c = true)
    (rest : List Char) :
    read? lenient .plain (front ++ rest) = (read? lenient .plain rest).map (·.behind front) := by
  induction front with
  | nil => exact Option.map_id'.symm
  | cons c front ih =>
    obtain ⟨hc, hfront⟩ := List.forall_mem_cons.1 h
    rw [List.cons_append, read?_inner (.inr rfl) hc, ih hfront, Option.map_map]
    rfl

lemma read?_bare_append {front : List Char} (h : Bare lenient front) (rest : List Char) :
    ∃ place, place ≠ .quoted ∧ (front = [] ∧ place = .start ∨ place = .plain) ∧
      read? lenient .start (front ++ rest) = (read? lenient place rest).map (·.behind front) := by
  cases front with
  | nil => exact ⟨.start, Place.noConfusion, .inl ⟨rfl, rfl⟩, Option.map_id'.symm⟩
  | cons c front =>
    obtain ⟨hhead, hinner⟩ := h
    obtain ⟨hc, hfront⟩ := List.forall_mem_cons.1 hinner
    have hne : c ≠ doubleQuote := fun heq => hhead (congrArg some heq)
    refine ⟨.plain, Place.noConfusion, .inr rfl, ?_⟩
    rw [List.cons_append, read?_inner (.inl ⟨rfl, hne⟩) hc, read?_plain_append hfront,
      Option.map_map]
    rfl

/-- A row of bare fields, before whatever ends it. -/
lemma read?_row {field : List Char} {fields : List (List Char)} {tail : Option Sheet}
    (h : ∀ f ∈ field :: fields, Bare lenient f)
    (hrest : ∀ place, place ≠ .quoted → read? lenient place rest = tail)
    (htail : ∀ s, tail = some s → s.field = [] ∧ s.fields = []) :
    read? lenient .start (joinWith [','] (field :: fields) ++ rest) =
      tail.map fun s => ⟨field, fields, s.below⟩ := by
  induction fields generalizing field with
  | nil =>
    obtain ⟨place, hopen, -, hread⟩ := read?_bare_append (h field List.mem_cons_self) rest
    change read? lenient .start (field ++ rest) = _
    rw [hread, hrest place hopen]
    refine Option.map_congr fun s hs => ?_
    obtain ⟨hfield, hfields⟩ := htail s hs
    rw [Sheet.behind, hfield, hfields, List.append_nil]
  | cons next fields ih =>
    obtain ⟨hbare, hmore⟩ := List.forall_mem_cons.1 h
    obtain ⟨place, hopen, -, hread⟩ :=
      read?_bare_append hbare (',' :: (joinWith [','] (next :: fields) ++ rest))
    have htext : joinWith [','] (field :: next :: fields) ++ rest =
        field ++ ',' :: (joinWith [','] (next :: fields) ++ rest) := by
      rw [joinWith_cons_of_ne_nil _ _ (List.cons_ne_nil _ _), List.append_assoc, List.append_assoc]
      rfl
    rw [htext, hread, read?_comma hopen, ih hmore, Option.map_map, Option.map_map]
    refine Option.map_congr fun s _ => ?_
    simp [Sheet.nextField, Sheet.behind]

def leadingMarks (s : List Char) : Nat := (s.takeWhile (· == doubleQuote)).length

lemma leadingMarks_mark (s : List Char) :
    leadingMarks (doubleQuote :: s) = leadingMarks s + 1 := rfl

lemma leadingMarks_cons (h : c ≠ doubleQuote) (s : List Char) : leadingMarks (c :: s) = 0 := by
  rw [leadingMarks, List.takeWhile_cons_of_neg (by simpa using h)]
  rfl

lemma leadingMarks_append (s : List Char) (h : c ≠ doubleQuote) (t : List Char) :
    leadingMarks (s ++ c :: t) = leadingMarks s := by
  induction s with
  | nil => exact leadingMarks_cons h t
  | cons d s ih =>
    by_cases hd : d = doubleQuote
    · rw [hd, List.cons_append, leadingMarks_mark, leadingMarks_mark, ih]
    · rw [List.cons_append, leadingMarks_cons hd, leadingMarks_cons hd]

lemma leadingMarks_push (h : c ≠ doubleQuote) (s : Sheet) : leadingMarks (s.push c).field = 0 :=
  leadingMarks_cons h _

lemma two_mul_leadingMarks_closed {s : List Char}
    (hquoted : ∀ sheet, read? lenient .quoted s = some sheet →
      2 * leadingMarks sheet.field ≤ leadingMarks s)
    (h : read? lenient .closed (c :: s) = some sheet) :
    2 * leadingMarks sheet.field ≤ leadingMarks (c :: s) + 1 := by
  cases hbreak : isBreak c with
  | true =>
    rw [(read?_break Place.noConfusion hbreak h).1]
    exact Nat.zero_le _
  | false =>
    rw [read?_cons Place.noConfusion hbreak] at h
    split at h
    · obtain ⟨t, -, rfl⟩ := Option.map_eq_some_iff.1 h
      exact Nat.zero_le _
    split at h
    · rename_i hstart
      exact Place.noConfusion hstart.2
    split at h
    · rename_i hmark
      obtain ⟨t, ht, rfl⟩ := Option.map_eq_some_iff.1 h
      have := hquoted t ht
      rw [hmark.1, Sheet.push, leadingMarks_mark, leadingMarks_mark]
      omega
    split at h
    · rename_i hmark _
      obtain ⟨t, -, rfl⟩ := Option.map_eq_some_iff.1 h
      rw [leadingMarks_push fun hc => hmark ⟨hc, rfl⟩]
      exact Nat.zero_le _
    · cases h

/-- Of the marks at the start of a quoted field two are read as one. -/
lemma two_mul_leadingMarks_le (s : List Char) :
    (∀ sheet, read? lenient .quoted s = some sheet →
      2 * leadingMarks sheet.field ≤ leadingMarks s) ∧
    (∀ sheet, read? lenient .closed s = some sheet →
      2 * leadingMarks sheet.field ≤ leadingMarks s + 1) := by
  induction s with
  | nil =>
    refine ⟨fun sheet h => ?_, fun sheet h => ?_⟩
    · cases lenient with
      | false => cases h
      | true => exact Option.some.inj h ▸ Nat.zero_le _
    · exact Option.some.inj h ▸ Nat.zero_le _
  | cons c s ih =>
    obtain ⟨hquoted, hclosed⟩ := ih
    refine ⟨fun sheet h => ?_, fun sheet h => two_mul_leadingMarks_closed hquoted h⟩
    rw [read?] at h
    by_cases hc : c = doubleQuote
    · rw [if_pos hc] at h
      rw [hc, leadingMarks_mark]
      exact hclosed sheet h
    · rw [if_neg hc] at h
      obtain ⟨t, -, rfl⟩ := Option.map_eq_some_iff.1 h
      rw [leadingMarks_push hc]
      exact Nat.zero_le _

lemma head?_field_ne (rest behind : List Char)
    (h : read? lenient .start (doubleQuote :: rest ++ ',' :: behind) = some sheet) :
    sheet.field ≠ doubleQuote :: rest := by
  intro hfield
  have hread : read? lenient .quoted (rest ++ ',' :: behind) = some sheet := h
  have hle := (two_mul_leadingMarks_le _).1 sheet hread
  rw [hfield, leadingMarks_mark, leadingMarks_append rest (by decide)] at hle
  omega

/-- A field ends, if it is read at all, before what may not stand in it. -/
lemma field_of_not_inner (h : place = .start ∧ c ≠ doubleQuote ∨ place = .plain)
    (hc : isInner lenient c = false) (hread : read? lenient place (c :: rest) = some sheet) :
    sheet.field = [] := by
  have hopen : place ≠ .quoted := by
    rintro rfl
    simp at h
  by_cases hcomma : c = ','
  · rw [hcomma, read?_comma hopen] at hread
    obtain ⟨t, -, rfl⟩ := Option.map_eq_some_iff.1 hread
    rfl
  cases hbreak : isBreak c with
  | true => exact (read?_break hopen hbreak hread).1
  | false =>
    simp only [isInner, hbreak, Bool.not_false, Bool.and_true, bne_iff_ne, ne_eq, hcomma,
      not_false_eq_true, Bool.and_eq_false_imp, Bool.or_eq_false_iff, bne_eq_false_iff_eq,
      forall_const] at hc
    obtain ⟨rfl, rfl⟩ := hc
    obtain ⟨-, hne⟩ | rfl := h
    · exact absurd rfl hne
    · rw [read?_cons hopen hbreak] at hread
      cases hread

/-- A field that is read as what stands before the next comma is a bare one. -/
lemma bare_of_read? {field behind : List Char}
    (h : read? lenient .start (field ++ ',' :: behind) = some sheet)
    (hfield : sheet.field = field) : Bare lenient field := by
  have hhead : field.head? ≠ some doubleQuote := by
    intro hmark
    obtain ⟨rest, rfl⟩ := List.head?_eq_some_iff.1 hmark
    exact head?_field_ne rest behind h hfield
  refine ⟨hhead, ?_⟩
  by_contra hinner
  -- The reading goes wrong at the first character that may not stand there.
  obtain ⟨c, hfind⟩ : ∃ c, field.find? (!isInner lenient ·) = some c := by
    rw [← Option.isSome_iff_exists, List.find?_isSome]
    simpa using hinner
  obtain ⟨hc, front, rest, rfl, hfront⟩ := List.find?_eq_some_iff_append.1 hfind
  simp only [Bool.not_eq_true', Bool.not_not] at hc hfront
  have hbare : Bare lenient front := by
    refine ⟨fun hmark => hhead ?_, hfront⟩
    rw [List.head?_append, hmark]
    rfl
  obtain ⟨place, -, hplace, hread⟩ := read?_bare_append hbare (c :: (rest ++ ',' :: behind))
  rw [List.append_assoc, List.cons_append, hread] at h
  obtain ⟨t, ht, rfl⟩ := Option.map_eq_some_iff.1 h
  have hrest : t.field = c :: rest := List.append_cancel_left hfield
  have hplaced : place = .start ∧ c ≠ doubleQuote ∨ place = .plain := by
    refine hplace.imp_left fun ⟨hfirst, hstart⟩ => ⟨hstart, ?_⟩
    rintro rfl
    exact hhead (by rw [hfirst]; rfl)
  rw [field_of_not_inner hplaced hc ht] at hrest
  cases hrest

def written (rows : List (List (List Char))) : List Char := joinLines (rows.map (joinWith [',']))

variable {row : List (List Char)} {rows : List (List (List Char))}

def ending (rows : List (List (List Char))) : List Char :=
  if rows = [] then [] else '\n' :: written rows

lemma written_cons (row : List (List Char)) (rows : List (List (List Char))) :
    written (row :: rows) = joinWith [','] row ++ ending rows := by
  rw [written, List.map_cons, joinLines, ending]
  split
  · rename_i hrows
    rw [hrows, List.append_nil]
    rfl
  · rename_i hrows
    rw [joinWith_cons_of_ne_nil _ _ (by simpa using hrows), List.append_assoc]
    rfl

lemma exists_joinWith (h : 2 ≤ row.length) :
    ∃ field fields behind, row = field :: fields ∧
      joinWith [','] row = field ++ ',' :: behind := by
  obtain ⟨field, next, fields, rfl⟩ : ∃ field next fields, row = field :: next :: fields := by
    match row, h with
    | field :: next :: fields, _ => exact ⟨field, next, fields, rfl⟩
  refine ⟨field, next :: fields, joinWith [','] (next :: fields), rfl, ?_⟩
  rw [joinWith_cons_of_ne_nil _ _ (List.cons_ne_nil _ _), List.append_assoc]
  rfl

lemma written_ne_nil (hne : rows ≠ []) (hrows : ∀ row ∈ rows, 2 ≤ row.length) :
    written rows ≠ [] := by
  obtain ⟨row, rest, rfl⟩ := List.exists_cons_of_ne_nil hne
  obtain ⟨field, fields, behind, -, hjoin⟩ := exists_joinWith (hrows row List.mem_cons_self)
  rw [written_cons, hjoin]
  simp

lemma read?_ending (hrows : ∀ row ∈ rows, 2 ≤ row.length) (h : place ≠ .quoted) :
    read? lenient place (ending rows) =
      (rows? lenient (written rows)).map fun below => ⟨[], [], below⟩ := by
  rw [ending]
  split
  · rename_i hnil
    rw [read?_nil h, hnil]
    rfl
  · rename_i hne
    have hwritten := written_ne_nil hne hrows
    rw [read?_newline h hwritten, rows?, if_neg hwritten, Option.map_map]
    rfl

lemma rows?_written_cons (h : ∀ f ∈ row, Bare lenient f)
    (hrows : ∀ r ∈ row :: rows, 2 ≤ r.length) :
    rows? lenient (written (row :: rows)) = (rows? lenient (written rows)).map (row :: ·) := by
  obtain ⟨hrow, hbelow⟩ := List.forall_mem_cons.1 hrows
  obtain ⟨field, fields, -, rfl, -⟩ := exists_joinWith hrow
  have hrest : ∀ place, place ≠ .quoted → read? lenient place (ending rows) = _ :=
    fun _ hplace => read?_ending hbelow hplace
  have hread := read?_row h hrest <| by
    intro s hs
    obtain ⟨below, -, rfl⟩ := Option.map_eq_some_iff.1 hs
    exact ⟨rfl, rfl⟩
  rw [rows?, if_neg (written_ne_nil (List.cons_ne_nil _ _) hrows), written_cons, hread,
    Option.map_map, Option.map_map]
  rfl

/-- Rows of bare fields are read back. -/
theorem rows?_written (hbare : ∀ row ∈ rows, ∀ f ∈ row, Bare lenient f)
    (hrows : ∀ row ∈ rows, 2 ≤ row.length) : rows? lenient (written rows) = some rows := by
  induction rows with
  | nil => rfl
  | cons row rows ih =>
    obtain ⟨hrow, hbelow⟩ := List.forall_mem_cons.1 hbare
    rw [rows?_written_cons hrow hrows, ih hbelow (List.forall_mem_cons.1 hrows).2]
    rfl

/-- Where rows are read that start with the same fields, the first fields are bare. -/
theorem bare_of_rows? {found : List (List (List Char))}
    (hbare : ∀ row ∈ rows, ∀ f ∈ row.tail, Bare lenient f) (hrows : ∀ row ∈ rows, 2 ≤ row.length)
    (h : rows? lenient (written rows) = some found)
    (hfound : List.Forall₂ (fun f row => f.head? = row.head?) found rows) :
    ∀ row ∈ rows, ∀ f ∈ row, Bare lenient f := by
  induction rows generalizing found with
  | nil => exact fun _ hrow => absurd hrow List.not_mem_nil
  | cons row rows ih =>
    obtain ⟨hrest, hbelow⟩ := List.forall_mem_cons.1 hbare
    obtain ⟨field, fields, behind, rfl, hjoin⟩ :=
      exists_joinWith (hrows row List.mem_cons_self)
    obtain ⟨first, more, hfirst, hmore, rfl⟩ := List.forall₂_cons_right_iff.1 hfound
    have hfield : Bare lenient field := by
      rw [rows?, if_neg (written_ne_nil (List.cons_ne_nil _ _) hrows), written_cons, hjoin,
        List.append_assoc] at h
      obtain ⟨sheet, hsheet, hsame⟩ := Option.map_eq_some_iff.1 h
      obtain ⟨rfl, -⟩ := List.cons.inj hsame
      exact bare_of_read? hsheet (Option.some.inj hfirst)
    have hrow : ∀ f ∈ field :: fields, Bare lenient f := List.forall_mem_cons.2 ⟨hfield, hrest⟩
    rw [rows?_written_cons hrow hrows] at h
    obtain ⟨below, hread, hsame⟩ := Option.map_eq_some_iff.1 h
    obtain ⟨-, rfl⟩ := List.cons.inj hsame
    exact List.forall_mem_cons.2 ⟨hrow, ih hbelow (List.forall_mem_cons.1 hrows).2 hread hmore⟩

end Csv

end PageCache
