import PageCache.Listing.Basic
import PageCache.Proofs.Text.Csv

/-! A listing in lines, read as comma-separated values. Names are written as they are, so it gives
the records back as long as no name holds a comma, a quotation mark or an end of a line. -/

namespace PageCache

namespace Listing.Terse

open Csv

def titles : List (List Char) :=
  ["name", "size", "timestamp", "mtime", "pages", "cached", "percent"].map String.toList

lemma text_eq (rs : List Record) : text rs true = written (titles :: rs.map fields) := by
  have hheader : header = Text.joinWith [','] titles := by decide
  rw [text, lines, if_pos rfl, hheader, written, List.map_cons, List.map_map]
  rfl

/-- The digits and letters of numbers, with a sign and a point. -/
def isNumberChar (c : Char) : Bool := c.isDigit || "-.nainf".toList.contains c

lemma bare_of_number {lenient : Bool} {s : List Char} (h : ∀ c ∈ s, isNumberChar c = true) :
    Bare lenient s := by
  have hne : ∀ {c d}, c ∈ s → isNumberChar d = false → c ≠ d := by
    rintro c d hc hd rfl
    exact absurd (h c hc) (by rw [hd]; decide)
  refine ⟨fun hhead => ?_, fun c hc => ?_⟩
  · exact hne (List.mem_of_head? hhead) (by decide : isNumberChar Text.doubleQuote = false) rfl
  have hcomma : c ≠ ',' := hne hc (by decide)
  have hfeed : c ≠ '\n' := hne hc (by decide)
  have hreturn : c ≠ '\r' := hne hc (by decide)
  have hmark : c ≠ Text.doubleQuote := hne hc (by decide)
  simp [isInner, isBreak, hcomma, hfeed, hreturn, hmark]

lemma isNumberChar_of_isDigit {c : Char} (h : c.isDigit = true) : isNumberChar c = true := by
  rw [isNumberChar, h, Bool.true_or]

lemma isNumberChar_of_mem_chars {n : Int} {c : Char} (h : c ∈ Numeral.chars n) :
    isNumberChar c = true := by
  obtain rfl | hdigit := Numeral.mem_chars h
  · decide
  · exact isNumberChar_of_isDigit hdigit

lemma isNumberChar_of_mem_toDigits {n : Nat} {c : Char} (h : c ∈ Nat.toDigits 10 n) :
    isNumberChar c = true :=
  isNumberChar_of_isDigit (Numeral.isDigit_of_mem_toDigits h)

lemma forall_mem_zeroFill {s : List Char} (h : ∀ c ∈ s, isNumberChar c = true) (width : Nat) :
    ∀ c ∈ Text.zeroFill width s, isNumberChar c = true := by
  refine List.forall_mem_append.2 ⟨fun c hc => ?_, h⟩
  rw [List.eq_of_mem_replicate hc]
  decide

lemma forall_mem_signed {s : List Char} (h : ∀ c ∈ s, isNumberChar c = true) (negative : Bool) :
    ∀ c ∈ Binary64.signed negative s, isNumberChar c = true := by
  cases negative with
  | false => exact h
  | true => exact List.forall_mem_cons.2 ⟨by decide, h⟩

lemma isNumberChar_of_mem_fixed (x : Binary64) (width : Nat) :
    ∀ c ∈ x.fixed width, isNumberChar c = true := by
  cases x with
  | nan => exact forall_mem_zeroFill (List.all_eq_true.1 rfl) width
  | infinite negative =>
    exact forall_mem_signed (forall_mem_zeroFill (List.all_eq_true.1 rfl) _) negative
  | finite negative rank =>
    refine forall_mem_signed (forall_mem_zeroFill ?_ _) negative
    refine List.forall_mem_append.2 ⟨fun c hc => isNumberChar_of_mem_toDigits hc, ?_⟩
    refine List.forall_mem_cons.2 ⟨by decide, forall_mem_zeroFill (fun c hc => ?_) 3⟩
    exact isNumberChar_of_mem_toDigits hc

lemma bare_of_mem_tail {lenient : Bool} {r : Record} {f : List Char} (h : f ∈ (fields r).tail) :
    Bare lenient f := by
  refine bare_of_number fun c hc => ?_
  simp only [fields, List.tail_cons, List.mem_cons, List.not_mem_nil, or_false] at h
  obtain rfl | rfl | rfl | rfl | rfl | rfl := h
  iterate 5 exact isNumberChar_of_mem_chars hc
  exact isNumberChar_of_mem_fixed _ _ c hc

lemma bare_of_mem_titles {lenient : Bool} : ∀ f ∈ titles, Bare lenient f := by
  cases lenient <;> decide

lemma forall_bare_iff {lenient : Bool} {rs : List Record} :
    (∀ row ∈ titles :: rs.map fields, ∀ f ∈ row, Bare lenient f) ↔
      ∀ r ∈ rs, Bare lenient r.name.toList := by
  rw [List.forall_mem_cons, List.forall_mem_map]
  refine ⟨fun h r hr => h.2 r hr _ List.mem_cons_self, fun h => ⟨bare_of_mem_titles, ?_⟩⟩
  exact fun r hr => List.forall_mem_cons.2 ⟨h r hr, fun f hf => bare_of_mem_tail hf⟩

/-- A row that tells of a record, as far as its name goes. -/
def Tells (row : List (List Char)) (r : Record) : Prop :=
  row.length = 7 ∧ row.head? = some r.name.toList

lemma two_le_length (rs : List Record) : ∀ row ∈ titles :: rs.map fields, 2 ≤ row.length :=
  List.forall_mem_cons.2 ⟨by decide, List.forall_mem_map.2 fun _ _ => (by decide : 2 ≤ 7)⟩

lemma bare_of_tells {lenient : Bool} {rs : List Record} {found : List (List (List Char))}
    (h : rows? lenient (text rs true) = some (titles :: found))
    (htells : List.Forall₂ Tells found rs) :
    ∀ r ∈ rs, Bare lenient r.name.toList := by
  rw [text_eq] at h
  refine forall_bare_iff.1 (bare_of_rows? ?_ (two_le_length rs) h ?_)
  · refine List.forall_mem_cons.2 ⟨fun f hf => ?_, ?_⟩
    · exact bare_of_mem_titles f (List.mem_of_mem_tail hf)
    · exact List.forall_mem_map.2 fun _ _ _ => bare_of_mem_tail
  · exact .cons rfl (List.forall₂_map_right_iff.2 (htells.imp fun _ _ hrow => hrow.2))

/-- Read as comma-separated values, a listing has the titles and then one row for each record just
if every name can stand without quotation marks, and every number can be written. -/
theorem rows?_text_iff (lenient : Bool) (rs : List Record) :
    ((∃ text found, Listing.render .terse rs true = .ok text ∧
        rows? lenient text.toList = some (titles :: found) ∧ List.Forall₂ Tells found rs) ↔
      (∀ r ∈ rs, Bare lenient r.name.toList) ∧
        ∀ r ∈ rs, ∀ n ∈ [r.size, r.pages, r.cached], Numeral.Writable n) ∧
    ((∀ r ∈ rs, Bare lenient r.name.toList) →
      rows? lenient (text rs true) = some (titles :: rs.map fields)) := by
  have hread : (∀ r ∈ rs, Bare lenient r.name.toList) →
      rows? lenient (text rs true) = some (titles :: rs.map fields) := by
    intro hbare
    rw [text_eq, rows?_written (forall_bare_iff.2 hbare) (two_le_length rs)]
  refine ⟨⟨?_, ?_⟩, hread⟩
  · rintro ⟨rendered, found, hrender, hfound, htells⟩
    rw [Listing.render] at hrender
    split at hrender
    · rename_i hwritable
      obtain rfl := Except.ok.inj hrender
      rw [String.toList_ofList] at hfound
      exact ⟨bare_of_tells hfound htells, hwritable⟩
    · cases hrender
  · rintro ⟨hbare, hwritable⟩
    refine ⟨String.ofList (text rs true), rs.map fields, if_pos hwritable, ?_, ?_⟩
    · rw [String.toList_ofList, hread hbare]
    · exact List.forall₂_map_left_iff.2 (List.forall₂_same.2 fun r _ => ⟨rfl, rfl⟩)

theorem rows?_text_spaces :
    let rs : List Record :=
      [{ name := "/srv/with 'space'", size := 5000, pages := 2 }, { name := "" }]
    (∀ r ∈ rs, Bare false r.name.toList) ∧
      rows? false (text rs true) = some [titles,
        ["/srv/with 'space'", "5000", "0", "0", "2", "0", "0.000"].map String.toList,
        ["", "0", "0", "0", "0", "0", "0.000"].map String.toList] := by
  intro rs
  have hbare : ∀ r ∈ rs, Bare false r.name.toList := by
    decide +kernel
  refine ⟨hbare, ((rows?_text_iff false rs).2 hbare).trans ?_⟩
  decide +kernel

/-- A comma in a name starts another field. -/
theorem rows?_text_comma :
    let rs : List Record := [{ name := "a,b" }]
    ∀ lenient, rows? lenient (text rs true) =
        some [titles, ["a", "b", "0", "0", "0", "0", "0", "0.000"].map String.toList] ∧
      ¬∃ found, rows? lenient (text rs true) = some (titles :: found) ∧
        List.Forall₂ Tells found rs := by
  intro rs lenient
  have hread : rows? lenient (text rs true) =
      some [titles, ["a", "b", "0", "0", "0", "0", "0", "0.000"].map String.toList] := by
    cases lenient <;> decide +kernel
  refine ⟨hread, ?_⟩
  rintro ⟨found, hfound, htells⟩
  have hbare := bare_of_tells hfound htells _ List.mem_cons_self
  exact absurd hbare (by cases lenient <;> decide +kernel)

end Listing.Terse

end PageCache
