import Mathlib.Algebra.Order.BigOperators.Group.List
import PageCache.Listing.Basic
import PageCache.Proofs.Json.Writing

/-! Listings as JSON that show the last components of names only. They say the same as those with
the full names just if no name has a slash in it, for a name that is cut is written shorter. -/

namespace PageCache

namespace Path

variable {path : List Char}

lemma basenameChars_suffix (path : List Char) : basenameChars path <:+ path := by
  have hprefix : path.reverse.takeWhile (· != '/') <+: path.reverse := List.takeWhile_prefix _
  rwa [← List.reverse_suffix, List.reverse_reverse] at hprefix

/-- The last component of a path: what stands behind its last slash, or all of it. -/
def IsLast (path last : List Char) : Prop :=
  '/' ∉ last ∧ (last = path ∨ ∃ front, path = front ++ '/' :: last)

lemma isLast_basenameChars (path : List Char) : IsLast path (basenameChars path) := by
  refine ⟨basenameChars_no_slash path, ?_⟩
  cases hrest : path.reverse.dropWhile (· != '/') with
  | nil =>
    have hwhole := List.takeWhile_append_dropWhile (p := (· != '/')) (l := path.reverse)
    rw [hrest, List.append_nil] at hwhole
    rw [basenameChars, hwhole, List.reverse_reverse]
    exact .inl rfl
  | cons c rest =>
    have hslash : c = '/' := by
      simpa [hrest] using List.head?_dropWhile_not (· != '/') path.reverse
    have hwhole := List.takeWhile_append_dropWhile (p := (· != '/')) (l := path.reverse)
    refine .inr ⟨rest.reverse, ?_⟩
    rw [← List.reverse_inj, ← hwhole, hrest, hslash, basenameChars]
    simp

lemma basenameChars_eq_self_iff : basenameChars path = path ↔ '/' ∉ path := by
  refine ⟨fun h => h ▸ basenameChars_no_slash path, fun h => ?_⟩
  have hwhole : path.reverse.takeWhile (· != '/') = path.reverse := by
    rw [List.takeWhile_eq_self_iff]
    intro c hc
    rw [bne_iff_ne]
    rintro rfl
    exact h (List.mem_reverse.1 hc)
  rw [basenameChars, hwhole, List.reverse_reverse]

end Path

/-- A record as it is shown: under its name, or the last component of it, with all else as it is. -/
def Record.ShownAs (bname : Bool) (r shown : Record) : Prop :=
  shown = { r with name := shown.name } ∧
    if bname then Path.IsLast r.name.toList shown.name.toList else shown.name = r.name

lemma Record.shownAs_withBasename (r : Record) : r.ShownAs true r.withBasename := by
  have hname : r.withBasename.name.toList = Path.basenameChars r.name.toList := String.toList_ofList
  refine ⟨rfl, ?_⟩
  rw [if_pos rfl, hname]
  exact Path.isLast_basenameChars _

lemma Record.withBasename_eq_self_iff {r : Record} :
    r.withBasename = r ↔ '/' ∉ r.name.toList := by
  rw [← Path.basenameChars_eq_self_iff, withBasename, Path.basename]
  constructor
  · intro h
    have hname := congrArg (·.name.toList) h
    rwa [String.toList_ofList] at hname
  · intro h
    rw [h, String.ofList_toList]

namespace Json.Quoted

lemma Form.ne_nil {c : Char} {s : List Char} (h : Form c s) : s ≠ [] := by
  cases h <;> exact List.cons_ne_nil _ _

lemma length_encode_append (s t : List Char) :
    (encode (s ++ t)).length = (s.flatMap encodeChar).length + (encode t).length := by
  simp only [encode, List.flatMap_append, List.length_append, List.length_cons]
  omega

lemma length_encode_le {s t : List Char} (h : s <:+ t) : (encode s).length ≤ (encode t).length := by
  obtain ⟨front, rfl⟩ := h
  rw [length_encode_append]
  exact Nat.le_add_left _ _

lemma length_encode_lt {s t : List Char} (h : s <:+ t) (hne : s ≠ t) :
    (encode s).length < (encode t).length := by
  obtain ⟨front, rfl⟩ := h
  rw [length_encode_append]
  refine Nat.lt_add_of_pos_left (List.length_pos_iff.2 fun hnil => ?_)
  cases front with
  | nil => exact hne rfl
  | cons c front => exact (form_encodeChar c).ne_nil (List.flatMap_eq_nil_iff.1 hnil c List.mem_cons_self)

end Json.Quoted

lemma Text.length_joinWith (separator : List Char) (ls : List (List Char)) :
    (joinWith separator ls).length =
      (ls.map List.length).sum + (ls.length - 1) * separator.length := by
  fun_induction joinWith separator ls with
  | case1 => simp
  | case2 s => simp
  | case3 s t rest ih =>
    simp only [List.length_append, ih, List.map_cons, List.sum_cons, List.length_cons,
      Nat.add_sub_cancel, Nat.add_mul, Nat.one_mul]
    omega

namespace Listing.Object

open Json

/-- What is written of a record behind its name. -/
def fieldsBehind (r : Record) : List (String × Json) :=
  [("size", .integer r.size), ("timestamp", ofTime r.timestamp), ("mtime", ofTime r.mtime),
    ("pages", .integer r.pages), ("cached", .integer r.cached), ("uncached", .integer r.uncached),
    ("percent", .decimal (number r.percent))]

lemma ofRecord_eq_cons (r : Record) :
    ofRecord r = .object (("filename", .text r.name) :: fieldsBehind r) := rfl

lemma fieldsBehind_withBasename (r : Record) : fieldsBehind r.withBasename = fieldsBehind r := rfl

lemma chars_ofRecord (r : Record) :
    (ofRecord r).chars = '\x7b' :: Quoted.encode "filename".toList ++ ": ".toList ++
      Quoted.encode r.name.toList ++ ", ".toList ++
        Text.joinWith ", ".toList (fieldChars (fieldsBehind r)) ++ ['\x7d'] := by
  have hbehind : fieldChars (fieldsBehind r) ≠ [] := List.cons_ne_nil _ _
  rw [ofRecord_eq_cons, Json.chars, fieldChars, Text.joinWith_cons_of_ne_nil _ _ hbehind, Json.chars]
  simp only [List.append_assoc, List.cons_append]

lemma length_chars_withBasename (r : Record) :
    (ofRecord r.withBasename).chars.length + (Quoted.encode r.name.toList).length =
      (ofRecord r).chars.length + (Quoted.encode (Path.basenameChars r.name.toList)).length := by
  have hname : r.withBasename.name.toList = Path.basenameChars r.name.toList :=
    String.toList_ofList
  rw [chars_ofRecord, chars_ofRecord, fieldsBehind_withBasename, hname]
  simp only [List.length_append]
  omega

lemma length_chars_withBasename_le (r : Record) :
    (ofRecord r.withBasename).chars.length ≤ (ofRecord r).chars.length := by
  have hname := Quoted.length_encode_le (Path.basenameChars_suffix r.name.toList)
  have hlength := length_chars_withBasename r
  omega

lemma length_chars_withBasename_lt {r : Record} (h : '/' ∈ r.name.toList) :
    (ofRecord r.withBasename).chars.length < (ofRecord r).chars.length := by
  have hcut := mt Path.basenameChars_eq_self_iff.1 (not_not_intro h)
  have hname := Quoted.length_encode_lt (Path.basenameChars_suffix r.name.toList) hcut
  have hlength := length_chars_withBasename r
  omega

lemma length_text (rs : List Record) :
    (text rs).length = (rs.map fun r => (ofRecord r).chars.length).sum + (rs.length - 1) * 2 + 2 := by
  rw [text, Json.chars, itemChars_eq_map, List.length_append, List.length_cons,
    Text.length_joinWith, List.map_map, List.map_map, List.length_map, List.length_map]
  rfl

theorem text_map_withBasename_eq_iff {rs : List Record} :
    text (rs.map Record.withBasename) = text rs ↔ ∀ r ∈ rs, '/' ∉ r.name.toList := by
  refine ⟨fun h r hr hslash => ?_, fun h => ?_⟩
  · have hlt : (rs.map fun r => (ofRecord r.withBasename).chars.length).sum <
        (rs.map fun r => (ofRecord r).chars.length).sum :=
      List.sum_lt_sum _ _ (fun r _ => length_chars_withBasename_le r)
        ⟨r, hr, length_chars_withBasename_lt hslash⟩
    have hlength := congrArg List.length h
    rw [length_text, length_text, List.map_map, List.length_map] at hlength
    simp only [Function.comp_def] at hlength
    omega
  · have hsame : rs.map Record.withBasename = rs.map id :=
      List.map_congr_left fun r hr => Record.withBasename_eq_self_iff.2 (h r hr)
    rw [hsame, List.map_id]

end Listing.Object

end PageCache
