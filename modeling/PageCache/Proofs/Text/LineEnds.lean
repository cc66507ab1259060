import PageCache.Proofs.Text.Line

/-! The lines of a text, told by where they stand in it: what holds no end of a line, behind the
start or an end and before an end or the end of the text, is a line. -/

namespace PageCache.Text

/-- The characters that end a line. A carriage return and a line feed behind it are one end. -/
def lineEnds : List Char :=
  ['\n', '\x0b', '\x0c', '\r', '\x1c', '\x1d', '\x1e', '\u0085', '\u2028', '\u2029']

/-- A line of a text. At the end of the text, behind an end of a line, there is no empty one. -/
def IsLine (text line : List Char) : Prop :=
  ∃ before after, text = before ++ (line ++ after) ∧ (∀ c ∈ line, c ∉ lineEnds) ∧
    (∀ c ∈ before.getLast?, c ∈ lineEnds ∧ (c = '\r' → (line ++ after).head? ≠ some '\n')) ∧
    (∀ c ∈ after.head?, c ∈ lineEnds) ∧ (after = [] → line ≠ [])

lemma mem_lineEnds_iff {c : Char} : c ∈ lineEnds ↔ isLineEnd c = true := by
  have heq : ∀ d : Char, c = d ↔ c.toNat = d.toNat := fun d => Char.toNat_inj.symm
  simp only [lineEnds, List.mem_cons, List.not_mem_nil, or_false, heq, isLineEnd, Bool.or_eq_true,
    Bool.and_eq_true, decide_eq_true_eq, beq_iff_eq, Char.reduceToNat]
  omega

/-- An end of a line, before what follows it. -/
inductive Ends : (ending rest : List Char) → Prop
  | crlf (rest : List Char) : Ends ['\r', '\n'] rest
  | single {c : Char} {rest : List Char} (hc : isLineEnd c = true)
    (h : c = '\r' → rest.head? ≠ some '\n') : Ends [c] rest

variable {line ending rest s l : List Char}

lemma lines_of_not_isLineEnd (hne : s ≠ []) (h : ∀ c ∈ s, isLineEnd c = false) : lines s = [s] := by
  induction s with
  | nil => exact absurd rfl hne
  | cons c s ih =>
    rw [List.forall_mem_cons] at h
    cases s with
    | nil => rw [lines, if_neg (Bool.eq_false_iff.1 h.1)]; rfl; rintro _ _ ⟨⟩
    | cons d s => exact lines_cons_of_ne_nil h.1 (ih (List.cons_ne_nil d s) h.2)

lemma lines_append_ending (hline : ∀ c ∈ line, isLineEnd c = false) (h : Ends ending rest) :
    lines (line ++ (ending ++ rest)) = line :: lines rest := by
  induction line with
  | nil =>
    cases h with
    | crlf rest => exact lines_crlf rest
    | single hc h => exact lines_cons_of_isLineEnd hc h
  | cons c line ih =>
    rw [List.forall_mem_cons] at hline
    exact lines_cons_of_ne_nil hline.1 (ih hline.2)

lemma exists_ending (h : ∃ c ∈ s, isLineEnd c = true) :
    ∃ line ending rest, s = line ++ (ending ++ rest) ∧ (∀ c ∈ line, isLineEnd c = false) ∧
      Ends ending rest := by
  obtain ⟨c, hfind⟩ := Option.isSome_iff_exists.1 (List.find?_isSome.2 h)
  obtain ⟨hc, line, rest, hs, hline⟩ := List.find?_eq_some_iff_append.1 hfind
  simp only [Bool.not_eq_true'] at hline
  by_cases hcrlf : c = '\r' ∧ rest.head? = some '\n'
  · obtain ⟨rfl, hhead⟩ := hcrlf
    obtain ⟨rest, rfl⟩ := List.head?_eq_some_iff.1 hhead
    exact ⟨line, _, rest, hs, hline, .crlf rest⟩
  · exact ⟨line, [c], rest, hs, hline, .single hc fun hr hhead => hcrlf ⟨hr, hhead⟩⟩

lemma Ends.length_lt (h : Ends ending rest) (line : List Char) :
    rest.length < (line ++ (ending ++ rest)).length := by
  cases h <;> simp <;> omega

/-- Induction along a text, line by line. -/
@[elab_as_elim]
lemma lines_induction {motive : List Char → Prop}
    (last : ∀ s, (∀ c ∈ s, isLineEnd c = false) → motive s)
    (ended : ∀ line ending rest, (∀ c ∈ line, isLineEnd c = false) → Ends ending rest →
      motive rest → motive (line ++ (ending ++ rest)))
    (s : List Char) : motive s := by
  by_cases h : ∃ c ∈ s, isLineEnd c = true
  · obtain ⟨line, ending, rest, hs, hline, hends⟩ := exists_ending h
    have hlength : rest.length < s.length := hs ▸ hends.length_lt line
    rw [hs]
    exact ended line ending rest hline hends (lines_induction last ended rest)
  · refine last s fun c hc => ?_
    by_contra hend
    exact h ⟨c, hc, Bool.not_eq_false _ ▸ hend⟩
termination_by s.length

lemma not_isLineEnd_of_not_mem (h : ∀ c ∈ l, c ∉ lineEnds) : ∀ c ∈ l, isLineEnd c = false :=
  fun c hc => Bool.eq_false_iff.2 fun hend => h c hc (mem_lineEnds_iff.2 hend)

lemma isLine_self_iff (h : ∀ c ∈ s, isLineEnd c = false) : IsLine s l ↔ s ≠ [] ∧ l = s := by
  have hnone : ∀ c ∈ s, c ∉ lineEnds := fun c hc hend => by simp [h c hc, mem_lineEnds_iff] at hend
  constructor
  · rintro ⟨before, after, rfl, -, hbefore, hafter, hempty⟩
    obtain rfl : before = [] := by
      by_contra hne
      have hlast := List.getLast?_eq_some_getLast hne
      exact hnone _ (List.mem_append_left _ (List.mem_of_getLast? hlast)) (hbefore _ hlast).1
    obtain rfl : after = [] := by
      by_contra hne
      have hhead := List.head?_eq_some_head hne
      exact hnone _ (by simp [List.mem_of_head? hhead]) (hafter _ hhead)
    rw [List.nil_append, List.append_nil]
    exact ⟨hempty rfl, rfl⟩
  · rintro ⟨hne, rfl⟩
    exact ⟨[], [], by simp, hnone, by simp, by simp, fun _ => hne⟩

/-- What stands before the first end of a line is told by the text. -/
lemma eq_of_append_ending {after : List Char} (hline : ∀ c ∈ line, isLineEnd c = false)
    (hl : ∀ c ∈ l, isLineEnd c = false) (h : Ends ending rest)
    (hafter : ∀ c ∈ after.head?, isLineEnd c = true) (hs : line ++ (ending ++ rest) = l ++ after) :
    l = line := by
  have hfirst : ∀ t : List Char, (∀ c ∈ t.head?, isLineEnd c = true) → firstLine t = [] := by
    intro t ht
    cases t with
    | nil => rfl
    | cons c t => rw [firstLine_cons, if_pos (ht c rfl)]
  have hending : ∀ c ∈ (ending ++ rest).head?, isLineEnd c = true := by
    cases h with
    | crlf => exact fun c hc => Option.some.inj hc ▸ rfl
    | single hend => exact fun c hc => Option.some.inj hc ▸ hend
  have hsame := congrArg firstLine hs
  rw [firstLine_append hline, firstLine_append hl, hfirst _ hending, hfirst _ hafter, List.append_nil,
    List.append_nil] at hsame
  exact hsame.symm

lemma Ends.getLast? (h : Ends ending rest) :
    ∀ c ∈ ending.getLast?, c ∈ lineEnds ∧ (c = '\r' → rest.head? ≠ some '\n') := by
  cases h with
  | crlf => exact fun c hc => Option.some.inj hc ▸ ⟨by decide, fun h => absurd h (by decide)⟩
  | single hc h => exact fun d hd => Option.some.inj hd ▸ ⟨mem_lineEnds_iff.2 hc, h⟩

/-- Where a line ends inside of what stands before another line, this one is of the text behind. -/
lemma Ends.exists_suffix {before tail : List Char} (h : Ends ending rest)
    (hline : ∀ c ∈ line, isLineEnd c = false) (hne : before ≠ [])
    (hbefore : ∀ c ∈ before.getLast?, c ∈ lineEnds ∧ (c = '\r' → tail.head? ≠ some '\n'))
    (hs : line ++ (ending ++ rest) = before ++ tail) :
    ∃ front later, before = front ++ later ∧ rest = later ++ tail := by
  have hlast := hbefore _ (List.getLast?_eq_some_getLast hne)
  have hnot : before.getLast hne ∉ line := fun hmem => by
    simp [hline _ hmem, mem_lineEnds_iff] at hlast
  obtain ⟨later, rfl, hlater⟩ | ⟨more, rfl, -⟩ := List.append_eq_append_iff.1 hs
  · cases later with
    | nil => exact absurd (by simp) hnot
    | cons c later =>
      rw [List.cons_append] at hlater
      cases h with
      | single hc h => exact ⟨line ++ [c], later, by simp, (List.cons.inj hlater).2⟩
      | crlf =>
        obtain ⟨rfl, hmore⟩ := List.cons.inj hlater
        cases later with
        | nil =>
          have hhead : tail.head? = some '\n' := congrArg List.head? hmore.symm
          exact absurd hhead (hlast.2 (by simp))
        | cons d later => exact ⟨line ++ ['\r', d], later, by simp, (List.cons.inj hmore).2⟩
  · exact absurd (List.mem_append_left _ (List.getLast_mem hne)) hnot

lemma isLine_append_ending (hline : ∀ c ∈ line, isLineEnd c = false) (h : Ends ending rest) :
    IsLine (line ++ (ending ++ rest)) l ↔ l = line ∨ IsLine rest l := by
  constructor
  · rintro ⟨before, after, hs, hl, hbefore, hafter, hempty⟩
    by_cases hne : before = []
    · subst hne
      exact .inl (eq_of_append_ending hline (not_isLineEnd_of_not_mem hl) h
        (fun c hc => mem_lineEnds_iff.1 (hafter c hc)) hs)
    · obtain ⟨front, later, rfl, hrest⟩ := h.exists_suffix hline hne hbefore hs
      refine .inr ⟨later, after, hrest, hl, fun c hc => hbefore c ?_, hafter, hempty⟩
      rw [Option.mem_def, List.getLast?_append, hc, Option.some_or]
  · rintro (rfl | ⟨before, after, rfl, hl, hbefore, hafter, hempty⟩)
    · have hends : ∀ c ∈ (ending ++ rest).head?, c ∈ lineEnds := by
        cases h with
        | crlf => exact fun c hc => Option.some.inj hc ▸ by decide
        | single hc => exact fun d hd => Option.some.inj hd ▸ mem_lineEnds_iff.2 hc
      refine ⟨[], ending ++ rest, rfl, fun c hc hend => ?_, by simp, hends, fun hnil => ?_⟩
      · simp [hline c hc, mem_lineEnds_iff] at hend
      · cases h <;> cases hnil
    · refine ⟨line ++ (ending ++ before), after, by simp, hl, fun c hc => ?_, hafter, hempty⟩
      rw [Option.mem_def, List.getLast?_append, List.getLast?_append] at hc
      cases before with
      | nil =>
        refine h.getLast? c ?_
        cases h <;> exact hc
      | cons d before =>
        refine hbefore c ?_
        rwa [List.getLast?_eq_some_getLast (List.cons_ne_nil d before)] at hc ⊢

theorem mem_lines_iff : l ∈ lines s ↔ IsLine s l := by
  induction s using lines_induction with
  | last s h =>
    rw [isLine_self_iff h]
    by_cases hs : s = []
    · subst hs
      exact iff_of_false List.not_mem_nil fun h => h.1 rfl
    · rw [lines_of_not_isLineEnd hs h, List.mem_singleton, and_iff_right hs]
  | ended line ending rest hline hends ih =>
    rw [lines_append_ending hline hends, List.mem_cons, isLine_append_ending hline hends, ih]

end PageCache.Text
