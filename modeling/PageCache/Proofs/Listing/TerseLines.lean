import PageCache.Proofs.Binary64.Fixed
import PageCache.Proofs.Instant.Seconds
import PageCache.Proofs.Listing.Terse
import PageCache.Proofs.Numeral
import PageCache.Proofs.Text.Split

/-! A listing in lines, read line by line. Nothing in it is quoted, but the six fields behind a name
hold neither a comma nor a line feed: a line is cut at its last six commas, whatever its name holds,
and a listing at its line feeds, if no name holds one. -/

namespace PageCache

namespace Listing.Terse

open Text

variable {r : Record} {rs others : List Record} {header header' : Bool}

lemma not_mem_of_mem_tail {f : List Char} (h : f ∈ (fields r).tail) : ',' ∉ f ∧ '\n' ∉ f := by
  have hbare : Csv.Bare true f := bare_of_mem_tail h
  refine ⟨fun hmem => ?_, fun hmem => ?_⟩
  · exact absurd (hbare.2 _ hmem) (by decide)
  · exact absurd (hbare.2 _ hmem) (by decide)

lemma seconds_eq (t : Option Instant) : seconds t = Numeral.chars (Instant.told t) := by
  rw [seconds, Instant.told_eq]

lemma splitLast_line (r : Record) : splitLast ',' 6 (line r) = fields r :=
  splitLast_joinWith r.name.toList fun _ hf => (not_mem_of_mem_tail hf).1

lemma newline_mem_line_iff : '\n' ∈ line r ↔ '\n' ∈ r.name.toList := by
  rw [line, mem_joinWith_iff (by decide)]
  refine ⟨?_, fun h => ⟨_, List.mem_cons_self, h⟩⟩
  rintro ⟨f, hf, hmem⟩
  obtain rfl | hf := List.mem_cons.1 hf
  · exact hmem
  · exact absurd hmem (not_mem_of_mem_tail hf).2

lemma newline_not_mem_lines_iff :
    (∀ l ∈ lines rs header, '\n' ∉ l) ↔ ∀ r ∈ rs, '\n' ∉ r.name.toList := by
  have htitles : ∀ l ∈ if header then [Terse.header] else [], '\n' ∉ l := by
    cases header <;> decide
  rw [lines, List.forall_mem_append, List.forall_mem_map, and_iff_right htitles]
  simp only [newline_mem_line_iff]

lemma length_lines (rs : List Record) (header : Bool) :
    (lines rs header).length = rs.length + header.toNat := by
  cases header <;> simp [lines]

lemma lines_ne_nil (h : rs ≠ []) : lines rs header ≠ [] := by
  intro hlines
  have hlength := congrArg List.length hlines
  rw [length_lines, List.length_nil] at hlength
  exact h (List.length_eq_zero_iff.1 (by omega))

lemma ne_nil_of_mem_lines {l : List Char} (h : l ∈ lines rs header) : l ≠ [] := by
  rw [lines, List.mem_append, List.mem_map] at h
  obtain h | ⟨r, -, rfl⟩ := h
  · cases header with
    | false => cases h
    | true =>
      rw [List.mem_singleton.1 h]
      decide
  · have hcomma : ',' ∈ line r := by
      simp [line, fields, joinWith]
    exact List.ne_nil_of_mem hcomma

lemma lines_ne_singleton_nil (rs : List Record) (header : Bool) : lines rs header ≠ [[]] := by
  intro h
  have hmem : [] ∈ lines rs header := h ▸ List.mem_singleton_self _
  exact ne_nil_of_mem_lines hmem rfl

lemma splitOn_text (h : ∀ r ∈ rs, '\n' ∉ r.name.toList) (header : Bool) :
    (text rs header).splitOn '\n' = if lines rs header = [] then [[]] else lines rs header := by
  split
  · rename_i hnil
    rw [text, hnil]
    rfl
  · exact splitOn_joinWith_of_not_mem ‹_› (newline_not_mem_lines_iff.2 h)

/-- Without line feeds in names the text tells the lines, even no line at all from an empty one. -/
lemma lines_of_text_eq (hrs : ∀ r ∈ rs, '\n' ∉ r.name.toList)
    (hothers : ∀ r ∈ others, '\n' ∉ r.name.toList) (h : text others header' = text rs header) :
    lines others header' = lines rs header := by
  have hsplit := splitOn_text hothers header'
  rw [h, splitOn_text hrs header] at hsplit
  split at hsplit <;> split at hsplit
  · rw [‹lines others header' = []›, ‹lines rs header = []›]
  · exact absurd hsplit.symm (lines_ne_singleton_nil _ _)
  · exact absurd hsplit (lines_ne_singleton_nil _ _)
  · exact hsplit.symm

lemma size_field (r : Record) : (fields r)[1]? = some (Numeral.chars r.size) := rfl

/-- The titles are no line of a record. -/
lemma line_ne_header (r : Record) : line r ≠ Terse.header := by
  intro h
  have hfields := splitLast_line r
  rw [h] at hfields
  have hsize : some (Numeral.chars r.size) = some "size".toList := by
    rw [← size_field, ← hfields]
    decide
  have hmem : 's' ∈ Numeral.chars r.size := Option.some.inj hsize ▸ by decide
  exact absurd (isNumberChar_of_mem_chars hmem) (by decide)

lemma lines_of_lines_eq (h : lines others header' = lines rs header) :
    others.map line = rs.map line := by
  cases header <;> cases header'
  · exact h
  · cases rs with
    | nil => cases h
    | cons r rs => exact absurd (List.cons.inj h).1.symm (line_ne_header r)
  · cases others with
    | nil => cases h
    | cons r others => exact absurd (List.cons.inj h).1 (line_ne_header r)
  · exact (List.cons.inj h).2

/-- What the fields of a record tell of it for sure. -/
lemma facts_of_fields {r s : Record} (h : fields r = fields s) :
    (r.name, r.size, r.pages, r.cached) = (s.name, s.size, s.pages, s.cached) := by
  simp only [fields, List.cons.injEq, and_true] at h
  obtain ⟨hname, hsize, -, -, hpages, hcached, -⟩ := h
  rw [String.toList_inj.1 hname, Numeral.chars_inj hsize, Numeral.chars_inj hpages,
    Numeral.chars_inj hcached]

lemma facts_of_lines (h : others.map line = rs.map line) :
    others.map (fun r => (r.name, r.size, r.pages, r.cached)) =
      rs.map fun r => (r.name, r.size, r.pages, r.cached) := by
  rw [← List.forall₂_eq_eq_eq, List.forall₂_map_left_iff, List.forall₂_map_right_iff] at h ⊢
  refine h.imp fun r s hline => facts_of_fields ?_
  rw [← splitLast_line r, hline, splitLast_line]

/-- The fields behind the last six commas of a line, in full. -/
lemma splitLast_line_eq (r : Record) : splitLast ',' 6 (line r) =
    [r.name.toList, Numeral.chars r.size, Numeral.chars (Instant.told r.timestamp),
      Numeral.chars (Instant.told r.mtime), Numeral.chars r.pages, Numeral.chars r.cached,
      r.percent.fixed 0] := by
  rw [splitLast_line, fields, seconds_eq, seconds_eq]

/-- Each record has a line of its own just if no name holds a line feed, and then the last six
commas of a line stand between what is written of its record: its name, whole numbers, and the
percentage to the thousandth. So names, sizes and counts of records are told by their listing. -/
theorem splitLast_lines (rs : List Record) (header : Bool)
    (hintegers : ∀ r ∈ rs, ∀ n ∈ Listing.integers .terse r, Numeral.Writable n) :
    ∃ rendered, Listing.render .terse rs header = .ok rendered ∧
      (rs ≠ [] →
        ((rendered.toList.splitOn '\n').length = rs.length + header.toNat ↔
          ∀ r ∈ rs, '\n' ∉ r.name.toList) ∧
        ((∀ r ∈ rs, '\n' ∉ r.name.toList) →
          ∃ written, rendered.toList.splitOn '\n' =
              (if header then ["name,size,timestamp,mtime,pages,cached,percent".toList] else []) ++
                written ∧
            written.map (splitLast ',' 6) = rs.map fun r => [r.name.toList, Numeral.chars r.size,
              Numeral.chars (Instant.told r.timestamp), Numeral.chars (Instant.told r.mtime),
              Numeral.chars r.pages, Numeral.chars r.cached, r.percent.fixed 0])) ∧
      (∀ r ∈ rs, ∀ v, r.percent.value? = some v → Binary64.TellsThousandths (r.percent.fixed 0) v) ∧
      ((∀ r ∈ rs, '\n' ∉ r.name.toList) →
        ∀ others header', (∀ r ∈ others, '\n' ∉ r.name.toList) →
          Listing.render .terse others header' = .ok rendered →
            others.length = rs.length ∧
              others.map (fun r => (r.name, r.size, r.pages, r.cached)) =
                rs.map fun r => (r.name, r.size, r.pages, r.cached)) := by
  have hrender : Listing.render .terse rs header = .ok (String.ofList (text rs header)) :=
    if_pos hintegers
  refine ⟨_, hrender, ?_, fun r _ v hv => Binary64.tellsThousandths_fixed hv 0, ?_⟩
  · rw [String.toList_ofList]
    refine fun hne => ⟨?_, fun hnames => ⟨rs.map line, ?_, ?_⟩⟩
    · rw [← length_lines, ← @newline_not_mem_lines_iff rs header]
      exact length_splitOn_joinWith_iff (lines_ne_nil hne)
    · rw [splitOn_text hnames, if_neg (lines_ne_nil hne)]
      rfl
    · rw [List.map_map]
      exact List.map_congr_left fun r _ => splitLast_line_eq r
  · intro hnames others header' hothers hsame
    have htext := (Listing.render_eq_ok_iff.1 hsame).2
    rw [String.toList_ofList] at htext
    have hfacts := facts_of_lines (lines_of_lines_eq (lines_of_text_eq hnames hothers htext.symm))
    exact ⟨by simpa using congrArg List.length hfacts, hfacts⟩

/-- A name that looks like a whole record, times on either side of 1970, and counts beside an infinite
percentage. -/
theorem splitLast_lines_commas :
    let later : Instant := ⟨951825600000001, by decide, by decide⟩
    let earlier : Instant := ⟨-1500000, by decide, by decide⟩
    let rs : List Record :=
      [{ name := "a,1,0,0,1,1,100.000", size := -5, timestamp := some later, mtime := some earlier, pages := 7 },
        { name := "", percent := .infinite true }]
    (∀ r ∈ rs, ∀ n ∈ Listing.integers .terse r, Numeral.Writable n) ∧ rs ≠ [] ∧
      (∀ r ∈ rs, '\n' ∉ r.name.toList) ∧
      ∃ rendered written, Listing.render .terse rs false = .ok rendered ∧
        rendered.toList.splitOn '\n' = written ∧ written.length = 2 ∧
        written.map (splitLast ',' 6) =
          [["a,1,0,0,1,1,100.000", "-5", "951825600", "-1", "7", "0", "0.000"].map String.toList,
            ["", "0", "0", "0", "0", "0", "-inf"].map String.toList] := by
  intro later earlier rs
  have hintegers : ∀ r ∈ rs, ∀ n ∈ Listing.integers .terse r, Numeral.Writable n := by
    decide +kernel
  have hne : rs ≠ [] := List.cons_ne_nil _ _
  have hnames : ∀ r ∈ rs, '\n' ∉ r.name.toList := by
    decide +kernel
  obtain ⟨rendered, hrender, hlines, -⟩ := splitLast_lines rs false hintegers
  obtain ⟨hlength, hwritten⟩ := hlines hne
  obtain ⟨written, hsplit, hfields⟩ := hwritten hnames
  have hsame : rendered.toList.splitOn '\n' = written := hsplit
  refine ⟨hintegers, hne, hnames, rendered, written, hrender, hsame, ?_, hfields.trans ?_⟩
  · rw [← hsame]
    exact hlength.2 hnames
  · decide +kernel

end Listing.Terse

end PageCache
