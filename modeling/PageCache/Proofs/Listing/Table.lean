import PageCache.Proofs.Listing.Terse
import PageCache.Proofs.Text.Split

/-! Tables. Whatever the records are, all lines of a table put their bars at the same places, and a
column is as wide as the longest text in it; only a line feed in a name breaks a line. -/

namespace PageCache

namespace Listing.Table

open Text Terse

/-- The texts of a column, from its title on. -/
def column (rs : List Record) (i : Nat) : List (List Char) :=
  (titles :: rs.map cells).filterMap (·[i]?)

/-- Where the bar before a column stands, or the last bar. -/
def offset : List Nat → Nat → Nat
  | w :: ws, i + 1 => w + 3 + offset ws i
  | _, _ => 0

/-- A bar before each body, and an edge behind the last one. -/
def framed (bars : List Char) (bodies : List (List Char)) (edge : Char) : List Char :=
  (List.zipWith List.cons bars bodies).flatten ++ [edge]

def spaced (s : List Char) : List Char := ' ' :: (s ++ [' '])

variable {ws : List Nat} {bars : List Char} {bodies : List (List Char)} {edge : Char}

@[simp] lemma offset_zero (ws : List Nat) : offset ws 0 = 0 := by cases ws <;> rfl

@[simp] lemma offset_cons (w : Nat) (ws : List Nat) (i : Nat) :
    offset (w :: ws) (i + 1) = w + 3 + offset ws i := rfl

@[simp] lemma framed_nil (bars : List Char) (edge : Char) : framed bars [] edge = [edge] := by
  simp [framed]

@[simp] lemma framed_cons (bar : Char) (body : List Char) :
    framed (bar :: bars) (body :: bodies) edge = bar :: (body ++ framed bars bodies edge) := by
  simp [framed]

lemma length_framed (hbars : bars.length = bodies.length)
    (hbodies : bodies.map List.length = ws.map (· + 2)) :
    (framed bars bodies edge).length = offset ws ws.length + 1 := by
  induction bodies generalizing bars ws with
  | nil =>
    obtain rfl : ws = [] := by simpa using hbodies.symm
    simp
  | cons body bodies ih =>
    obtain ⟨bar, bars, rfl⟩ := List.exists_cons_of_length_eq_add_one hbars
    cases ws with
    | nil => simp at hbodies
    | cons w ws =>
      obtain ⟨hbody, hbodies⟩ := List.cons.inj hbodies
      simp [ih (Nat.succ.inj hbars) hbodies, hbody]
      omega

lemma drop_framed (hbars : bars.length = bodies.length)
    (hbodies : bodies.map List.length = ws.map (· + 2)) {i : Nat} (hi : i ≤ ws.length) :
    (framed bars bodies edge).drop (offset ws i) = framed (bars.drop i) (bodies.drop i) edge := by
  induction i generalizing bars bodies ws with
  | zero => rw [offset_zero, List.drop_zero, List.drop_zero, List.drop_zero]
  | succ i ih =>
    cases ws with
    | nil => simp at hi
    | cons w ws =>
      cases bodies with
      | nil => simp at hbodies
      | cons body bodies =>
        obtain ⟨bar, bars, rfl⟩ := List.exists_cons_of_length_eq_add_one hbars
        obtain ⟨hbody, hbodies⟩ := List.cons.inj hbodies
        have hfirst : w + 3 = (bar :: body).length := by simp [hbody]
        rw [offset_cons, framed_cons, ← List.cons_append, hfirst, ← List.drop_drop, List.drop_left,
          List.drop_succ_cons, List.drop_succ_cons]
        exact ih (Nat.succ.inj hbars) hbodies (Nat.le_of_succ_le_succ hi)

lemma head?_framed (hbars : bars.length = bodies.length) :
    ∃ c ∈ bars ++ [edge], (framed bars bodies edge).head? = some c := by
  cases bodies with
  | nil => exact ⟨edge, by simp, by simp⟩
  | cons body bodies =>
    obtain ⟨bar, bars, rfl⟩ := List.exists_cons_of_length_eq_add_one hbars
    exact ⟨bar, by simp, by simp⟩

lemma bar_framed (edge : Char) (hbars : bars.length = bodies.length)
    (hbodies : bodies.map List.length = ws.map (· + 2)) {i : Nat} (hi : i ≤ ws.length) :
    ∃ c ∈ bars ++ [edge], (framed bars bodies edge)[offset ws i]? = some c := by
  rw [← List.head?_drop, drop_framed hbars hbodies hi]
  obtain ⟨c, hc, hhead⟩ := head?_framed (show (bars.drop i).length = (bodies.drop i).length by simp [hbars])
  refine ⟨c, ?_, hhead⟩
  rw [List.mem_append] at hc ⊢
  exact hc.imp_left List.mem_of_mem_drop

lemma body_framed (edge : Char) (hbars : bars.length = bodies.length)
    (hbodies : bodies.map List.length = ws.map (· + 2)) {i : Nat} {body : List Char}
    (hbody : bodies[i]? = some body) :
    ((framed bars bodies edge).drop (offset ws i + 1)).take body.length = body := by
  obtain ⟨hi, hget⟩ := List.getElem?_eq_some_iff.1 hbody
  have hlength : bodies.length = ws.length := by simpa using congrArg List.length hbodies
  rw [← List.drop_drop, drop_framed hbars hbodies (by omega), List.drop_eq_getElem_cons hi,
    List.drop_eq_getElem_cons (by omega : i < bars.length), framed_cons, hget]
  simp

lemma framed_joinWith (bar sep edge : Char) (body : List Char) (bodies : List (List Char)) :
    bar :: joinWith [sep] (body :: bodies) ++ [edge] =
      framed (bar :: List.replicate bodies.length sep) (body :: bodies) edge := by
  induction bodies generalizing bar body with
  | nil => simp [joinWith]
  | cons next bodies ih =>
    rw [joinWith, List.length_cons, List.replicate_succ, framed_cons, ← ih]
    simp

lemma joinWith_spaced (x : List Char) (xs : List (List Char)) :
    ' ' :: joinWith " | ".toList (x :: xs) ++ [' '] = joinWith ['|'] ((x :: xs).map spaced) := by
  induction xs generalizing x with
  | nil => rfl
  | cons y xs ih =>
    rw [joinWith, List.map_cons, List.map_cons, joinWith, ← List.map_cons, ← ih]
    simp [spaced]

lemma rule_eq (edge : Char) (h : ws ≠ []) :
    rule edge ws = framed (edge :: List.replicate (ws.length - 1) '+')
      (ws.map fun w => List.replicate (w + 2) '-') edge := by
  obtain ⟨w, ws, rfl⟩ := List.exists_cons_of_ne_nil h
  rw [rule, List.map_cons, framed_joinWith, List.length_map, List.length_cons, Nat.add_sub_cancel]

lemma line_eq {row : List (List Char)} (hlength : row.length = ws.length) (h : ws ≠ []) :
    line ws row =
      framed (List.replicate ws.length '|') ((List.zipWith padRight ws row).map spaced) '|' := by
  obtain ⟨w, ws, rfl⟩ := List.exists_cons_of_ne_nil h
  obtain ⟨cell, row, rfl⟩ := List.exists_cons_of_length_eq_add_one hlength
  have hspaced := joinWith_spaced (padRight w cell) (List.zipWith padRight ws row)
  have hbodies : ((List.zipWith padRight ws row).map spaced).length = ws.length := by
    simp [Nat.succ.inj hlength]
  rw [line, List.zipWith_cons_cons, List.map_cons, List.length_cons, List.replicate_succ, ← hbodies,
    ← framed_joinWith, ← List.map_cons, ← hspaced]
  simp

/-- A line of the table's length with a bar wherever the columns meet. -/
structure Aligned (ws : List Nat) (l : List Char) : Prop where
  length_eq : l.length = offset ws ws.length + 1
  bar : ∀ i ≤ ws.length, ∃ c ∈ ['|', '+'], l[offset ws i]? = some c

/-- A line that shows the texts of a row, each with spaces around it. -/
structure Shows (ws : List Nat) (row : List (List Char)) (l : List Char) : Prop where
  bar : ∀ i ≤ ws.length, l[offset ws i]? = some '|'
  cell : ∀ (i w : Nat) (s : List Char), ws[i]? = some w → row[i]? = some s →
    (l.drop (offset ws i + 1)).take (w + 2) = ' ' :: s ++ List.replicate (w + 1 - s.length) ' '

/-- A row whose texts have room in their columns. -/
structure Fits (ws : List Nat) (row : List (List Char)) : Prop where
  length_eq : row.length = ws.length
  length_le : ∀ (i w : Nat) (s : List Char), ws[i]? = some w → row[i]? = some s → s.length ≤ w

lemma length_spaced (s : List Char) : (spaced s).length = s.length + 2 := by simp [spaced]

lemma aligned_rule (hedge : edge ∈ ['|', '+']) (h : ws ≠ []) : Aligned ws (rule edge ws) := by
  have hpos : 0 < ws.length := List.length_pos_iff.2 h
  have hbars : (edge :: List.replicate (ws.length - 1) '+').length =
      (ws.map fun w => List.replicate (w + 2) '-').length := by
    simp
    omega
  have hbodies : (ws.map fun w => List.replicate (w + 2) '-').map List.length = ws.map (· + 2) := by
    simp
  rw [rule_eq edge h]
  refine ⟨length_framed hbars hbodies, fun i hi => ?_⟩
  obtain ⟨c, hc, hget⟩ := bar_framed edge hbars hbodies hi
  refine ⟨c, ?_, hget⟩
  simp only [List.cons_append, List.mem_cons, List.mem_append, List.mem_replicate, List.not_mem_nil,
    or_false] at hc
  obtain rfl | ⟨-, rfl⟩ | rfl := hc
  · exact hedge
  · simp
  · exact hedge

variable {row : List (List Char)}

lemma Fits.map_length_bodies (h : Fits ws row) :
    ((List.zipWith padRight ws row).map spaced).map List.length = ws.map (· + 2) := by
  apply List.ext_getElem
  · simp [h.length_eq]
  · intro i hi hi'
    have hw : i < ws.length := by simpa using hi'
    have hrow : i < row.length := h.length_eq ▸ hw
    have hle := h.length_le i _ _ (List.getElem?_eq_getElem hw) (List.getElem?_eq_getElem hrow)
    simp [length_spaced, length_padRight, hle]

lemma Fits.length_bars (h : Fits ws row) : (List.replicate ws.length '|').length =
    ((List.zipWith padRight ws row).map spaced).length := by
  simp [h.length_eq]

lemma Fits.shows_line (h : Fits ws row) (hne : ws ≠ []) : Shows ws row (line ws row) := by
  rw [line_eq h.length_eq hne]
  constructor
  · intro i hi
    obtain ⟨c, hc, hget⟩ := bar_framed '|' h.length_bars h.map_length_bodies hi
    obtain rfl : c = '|' := by
      rw [← List.replicate_succ'] at hc
      exact List.eq_of_mem_replicate hc
    exact hget
  · intro i w s hw hs
    have hle := h.length_le i w s hw hs
    have hbody : ((List.zipWith padRight ws row).map spaced)[i]? = some (spaced (padRight w s)) := by
      simp [List.getElem?_zipWith, hw, hs]
    have hlength : (spaced (padRight w s)).length = w + 2 := by
      rw [length_spaced, length_padRight, Nat.max_eq_left hle]
    have htext := body_framed '|' h.length_bars h.map_length_bodies hbody
    rw [hlength] at htext
    rw [htext, Nat.succ_sub hle, List.replicate_succ', spaced, padRight]
    simp

lemma Fits.aligned_line (h : Fits ws row) (hne : ws ≠ []) : Aligned ws (line ws row) := by
  refine ⟨?_, fun i hi => ⟨'|', List.mem_cons_self, (h.shows_line hne).bar i hi⟩⟩
  rw [line_eq h.length_eq hne]
  exact length_framed h.length_bars h.map_length_bodies

lemma length_zipWith_lengths {row : List (List Char)} (h : row.length = ws.length) :
    (List.zipWith max ws (lengths row)).length = ws.length := by
  simp [lengths, h]

/-- A column starts as wide as given and gets as wide as the longest text below. -/
lemma getElem?_foldl_widths {rows : List (List (List Char))}
    (hrows : ∀ row ∈ rows, row.length = ws.length) (i : Nat) :
    (rows.foldl (fun ws row => List.zipWith max ws (lengths row)) ws)[i]? =
      (ws[i]?.toList ++ rows.filterMap fun row => row[i]?.map List.length).max? := by
  induction rows generalizing ws with
  | nil => cases h : ws[i]? <;> simp [h]
  | cons row rows ih =>
    obtain ⟨hrow, hrows⟩ := List.forall_mem_cons.1 hrows
    rw [List.foldl_cons, ih fun r hr => (hrows r hr).trans (length_zipWith_lengths hrow).symm]
    rw [List.getElem?_zipWith, lengths, List.getElem?_map, List.filterMap_cons]
    by_cases hi : i < ws.length
    · rw [List.getElem?_eq_getElem hi, List.getElem?_eq_getElem (hrow ▸ hi)]
      exact List.max?_cons'.trans List.max?_cons'.symm
    · rw [List.getElem?_eq_none (Nat.not_lt.1 hi), List.getElem?_eq_none (Nat.not_lt.1 (hrow ▸ hi))]
      rfl

lemma length_foldl_widths {rows : List (List (List Char))}
    (hrows : ∀ row ∈ rows, row.length = ws.length) :
    (rows.foldl (fun ws row => List.zipWith max ws (lengths row)) ws).length = ws.length := by
  induction rows generalizing ws with
  | nil => rfl
  | cons row rows ih =>
    obtain ⟨hrow, hrows⟩ := List.forall_mem_cons.1 hrows
    have hlength := length_zipWith_lengths hrow
    rw [List.foldl_cons, ih fun r hr => (hrows r hr).trans hlength.symm, hlength]

variable {rs : List Record} {r : Record} {header : Bool}

lemma length_of_mem_cells {row : List (List Char)} (h : row ∈ rs.map cells) :
    row.length = (lengths titles).length := by
  obtain ⟨r, -, rfl⟩ := List.mem_map.1 h
  rfl

lemma length_widths (rs : List Record) : (widths (rs.map cells)).length = 5 :=
  length_foldl_widths fun _ => length_of_mem_cells

lemma getElem?_widths (rs : List Record) (i : Nat) :
    (widths (rs.map cells))[i]? = ((column rs i).map List.length).max? := by
  have hmap : ∀ rows : List (List (List Char)),
      (rows.filterMap (·[i]?)).map List.length = rows.filterMap (·[i]?.map List.length) :=
    fun rows => List.map_filterMap
  rw [widths, getElem?_foldl_widths fun _ => length_of_mem_cells, column, hmap, List.filterMap_cons]
  simp only [lengths, List.getElem?_map]
  cases titles[i]? <;> rfl

lemma fits_widths {row : List (List Char)} (h : row ∈ titles :: rs.map cells) :
    Fits (widths (rs.map cells)) row := by
  constructor
  · obtain rfl | h := List.mem_cons.1 h
    · exact (length_widths rs).symm
    · exact (length_of_mem_cells h).trans (length_widths rs).symm
  · intro i w s hw hs
    rw [getElem?_widths, List.max?_eq_some_iff] at hw
    exact hw.2 _ (List.mem_map_of_mem (List.mem_filterMap.2 ⟨row, h, hs⟩))

lemma widths_ne_nil (rs : List Record) : widths (rs.map cells) ≠ [] := by
  rw [← List.length_pos_iff, length_widths]
  decide

lemma newline_mem_line_iff {row : List (List Char)} (h : row.length = ws.length) :
    '\n' ∈ line ws row ↔ ∃ s ∈ row, '\n' ∈ s := by
  have hpadded : (∃ s ∈ List.zipWith padRight ws row, '\n' ∈ s) ↔ ∃ s ∈ row, '\n' ∈ s := by
    induction row generalizing ws with
    | nil => simp
    | cons cell row ih =>
      obtain ⟨w, ws, rfl⟩ := List.exists_cons_of_length_eq_add_one h.symm
      rw [List.zipWith_cons_cons, List.exists_mem_cons_iff, List.exists_mem_cons_iff,
        ih (Nat.succ.inj h)]
      simp [padRight]
  have hjoined : '\n' ∈ joinWith " | ".toList (List.zipWith padRight ws row) ↔
      ∃ s ∈ List.zipWith padRight ws row, '\n' ∈ s := mem_joinWith_iff (by decide)
  rw [← hpadded, ← hjoined]
  simp [line]

lemma mem_rule {c : Char} (h : c ∈ rule edge ws) : c = edge ∨ c = '+' ∨ c = '-' := by
  rw [rule, List.mem_append, List.mem_cons, List.mem_singleton] at h
  obtain (hc | hc) | hc := h
  · exact .inl hc
  · by_cases hplus : c = '+'
    · exact .inr (.inl hplus)
    · rw [mem_joinWith_iff (by simpa using hplus)] at hc
      obtain ⟨_, hmem, hc⟩ := hc
      obtain ⟨w, -, rfl⟩ := List.mem_map.1 hmem
      exact .inr (.inr (List.eq_of_mem_replicate hc))
  · exact .inl hc

lemma newline_not_mem_rule (hedge : edge ≠ '\n') : '\n' ∉ rule edge ws := by
  intro h
  obtain rfl | h | h := mem_rule h
  · exact hedge rfl
  · cases h
  · cases h

lemma newline_mem_cells_iff : (∃ s ∈ cells r, '\n' ∈ s) ↔ '\n' ∈ r.name.toList := by
  have hnumber : ∀ {s : List Char}, (∀ c ∈ s, isNumberChar c = true) → '\n' ∉ s :=
    fun hs hmem => absurd (hs _ hmem) (by decide)
  have hchars : ∀ n, '\n' ∉ Numeral.chars n := fun n => hnumber fun _ => isNumberChar_of_mem_chars
  have hpercent : '\n' ∉ r.percent.fixed 7 := hnumber (isNumberChar_of_mem_fixed _ _)
  simp [cells, hchars, hpercent]

lemma forall_mem_lines {P : List Char → Prop} :
    (∀ l ∈ lines rs header, P l) ↔
      P (border (widths (rs.map cells))) ∧
        (header = true →
          P (line (widths (rs.map cells)) titles) ∧ P (rule '|' (widths (rs.map cells)))) ∧
        ∀ r ∈ rs, P (line (widths (rs.map cells)) (cells r)) := by
  simp only [lines, List.forall_mem_append, List.forall_mem_cons, List.forall_mem_map]
  cases header
  · simp [and_comm]
  · simp only [if_true, List.forall_mem_cons, List.not_mem_nil, false_imp_iff, implies_true, and_true,
      true_imp_iff]
    exact ⟨fun h => ⟨h.2, h.1.1.2, h.1.2⟩, fun h => ⟨⟨⟨h.1, h.2.1⟩, h.2.2⟩, h.1⟩⟩

lemma newline_not_mem_lines_iff :
    (∀ l ∈ lines rs header, '\n' ∉ l) ↔ ∀ r ∈ rs, '\n' ∉ r.name.toList := by
  have hfits : ∀ {row}, row ∈ titles :: rs.map cells → row.length = (widths (rs.map cells)).length :=
    fun h => (fits_widths h).length_eq
  have hrow : ∀ r ∈ rs, '\n' ∉ line (widths (rs.map cells)) (cells r) ↔ '\n' ∉ r.name.toList := by
    intro r hr
    rw [newline_mem_line_iff (hfits (List.mem_cons_of_mem _ (List.mem_map_of_mem hr))),
      newline_mem_cells_iff]
  rw [forall_mem_lines, forall₂_congr hrow]
  refine ⟨fun h => h.2.2, fun h => ⟨newline_not_mem_rule (by decide), fun _ => ⟨?_, ?_⟩, h⟩⟩
  · rw [newline_mem_line_iff (hfits List.mem_cons_self)]
    decide
  · exact newline_not_mem_rule (by decide)

lemma length_lines (rs : List Record) (header : Bool) :
    (lines rs header).length = rs.length + if header then 4 else 2 := by
  cases header <;> simp [lines]

lemma aligned_of_mem_lines : ∀ l ∈ lines rs header, Aligned (widths (rs.map cells)) l := by
  have hne := widths_ne_nil rs
  refine forall_mem_lines.2 ⟨aligned_rule (by decide) hne, fun _ => ⟨?_, ?_⟩, fun r hr => ?_⟩
  · exact (fits_widths List.mem_cons_self).aligned_line hne
  · exact aligned_rule (by decide) hne
  · exact (fits_widths (List.mem_cons_of_mem _ (List.mem_map_of_mem hr))).aligned_line hne

lemma getElem?_lines {k : Nat} (h : rs[k]? = some r) :
    (lines rs header)[k + if header then 3 else 1]? =
      some (line (widths (rs.map cells)) (cells r)) := by
  obtain ⟨hk, rfl⟩ := List.getElem?_eq_some_iff.1 h
  cases header <;> simp [lines, List.getElem?_append, hk]

lemma head?_lines (rs : List Record) (header : Bool) :
    (lines rs header).head? = some (border (widths (rs.map cells))) := by
  simp [lines]

lemma getLast?_lines (rs : List Record) (header : Bool) :
    (lines rs header).getLast? = some (border (widths (rs.map cells))) :=
  List.getLast?_concat

lemma lines_ne_nil (rs : List Record) (header : Bool) : lines rs header ≠ [] := by simp [lines]

lemma splitOn_text (h : ∀ r ∈ rs, '\n' ∉ r.name.toList) :
    (text rs header).splitOn '\n' = lines rs header :=
  splitOn_joinWith_of_not_mem (lines_ne_nil rs header) (newline_not_mem_lines_iff.2 h)

lemma shows_line (h : r ∈ rs) :
    Shows (widths (rs.map cells)) (cells r) (line (widths (rs.map cells)) (cells r)) :=
  (fits_widths (List.mem_cons_of_mem _ (List.mem_map_of_mem h))).shows_line (widths_ne_nil rs)

/-- Whatever a table lists, it has a line for each record and two or four more just if no name holds
a line feed. Then its bars stand one below the other, between columns as wide as the longest of
their titles and texts. -/
theorem aligned_lines (rs : List Record) (header : Bool)
    (hintegers : ∀ r ∈ rs, ∀ n ∈ Listing.integers .table r, Numeral.Writable n) :
    ∃ rendered, Listing.render .table rs header = .ok rendered ∧
      ((rendered.toList.splitOn '\n').length = rs.length + (if header then 4 else 2) ↔
        ∀ r ∈ rs, '\n' ∉ r.name.toList) ∧
      ((∀ r ∈ rs, '\n' ∉ r.name.toList) → ∃ ws : List Nat,
        ws.length = 5 ∧
        (∀ i < 5, ws[i]? = ((column rs i).map List.length).max?) ∧
        (∀ l ∈ rendered.toList.splitOn '\n', Aligned ws l) ∧
        (rendered.toList.splitOn '\n').head? = some (border ws) ∧
        (rendered.toList.splitOn '\n').getLast? = some (border ws) ∧
        ∀ (k : Nat) (r : Record), rs[k]? = some r →
          ∃ l, (rendered.toList.splitOn '\n')[k + if header then 3 else 1]? = some l ∧
            Shows ws [r.name.toList, Numeral.chars r.size, Numeral.chars r.pages,
              Numeral.chars r.cached, r.percent.fixed 7] l) := by
  have hrender : Listing.render .table rs header = .ok (String.ofList (text rs header)) :=
    if_pos hintegers
  refine ⟨_, hrender, ?_, fun hnames => ?_⟩
  · rw [String.toList_ofList, text, joinLines, ← length_lines,
      length_splitOn_joinWith_iff (lines_ne_nil rs header)]
    exact newline_not_mem_lines_iff
  · rw [String.toList_ofList, splitOn_text hnames]
    refine ⟨widths (rs.map cells), length_widths rs, fun i _ => getElem?_widths rs i,
      aligned_of_mem_lines, head?_lines rs header, getLast?_lines rs header, fun k r hk => ?_⟩
    exact ⟨_, getElem?_lines hk, shows_line (List.mem_of_getElem? hk)⟩

theorem aligned_lines_bar :
    let rs : List Record := [{ name := "/srv/a|b", size := 123456789012345, pages := 3 }, { name := "" }]
    (∀ r ∈ rs, ∀ n ∈ Listing.integers .table r, Numeral.Writable n) ∧
      (∀ r ∈ rs, '\n' ∉ r.name.toList) ∧
      ∃ rendered ws, Listing.render .table rs true = .ok rendered ∧
        (rendered.toList.splitOn '\n').length = 6 ∧ ws = [8, 15, 5, 6, 7] ∧
        (∀ l ∈ rendered.toList.splitOn '\n', Aligned ws l) ∧
        ∃ l, (rendered.toList.splitOn '\n')[3]? = some l ∧
          Shows ws (["/srv/a|b", "123456789012345", "3", "0", "000.000"].map String.toList) l := by
  intro rs
  have hintegers : ∀ r ∈ rs, ∀ n ∈ Listing.integers .table r, Numeral.Writable n := by
    decide +kernel
  have hnames : ∀ r ∈ rs, '\n' ∉ r.name.toList := by
    decide +kernel
  obtain ⟨rendered, hrender, hlength, htable⟩ := aligned_lines rs true hintegers
  obtain ⟨ws, hws, hwidths, haligned, -, -, hrows⟩ := htable hnames
  obtain ⟨l, hl, hshows⟩ := hrows 0 _ rfl
  refine ⟨hintegers, hnames, rendered, ws, hrender, hlength.2 hnames, ?_, haligned, l, hl, ?_⟩
  · have hcolumns : ∀ i < 5, ((column rs i).map List.length).max? = [8, 15, 5, 6, 7][i]? := by
      decide +kernel
    apply List.ext_getElem?
    intro i
    obtain hi | hi := Nat.lt_or_ge i 5
    · rw [hwidths i hi, hcolumns i hi]
    · rw [List.getElem?_eq_none (hws ▸ hi), List.getElem?_eq_none (by exact hi)]
  · have hcells : cells { name := "/srv/a|b", size := 123456789012345, pages := 3 } =
        ["/srv/a|b", "123456789012345", "3", "0", "000.000"].map String.toList := by
      decide +kernel
    exact hcells ▸ hshows

end Listing.Table

end PageCache
