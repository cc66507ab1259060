import PageCache.Proofs.Listing.Basenames
import PageCache.Proofs.Listing.Object
import PageCache.Proofs.Listing.Table
import PageCache.Proofs.Listing.TerseLines

/-! Listings in all formats, by what is read back from them. -/

namespace PageCache.Listing

/-- A text of some lines. It is joined of them, and cut into them where no name holds a line feed. -/
structure Lined (rs : List Record) (s : List Char) (ls : List (List Char)) : Prop where
  eq_intercalate : s = ['\n'].intercalate ls
  splitOn_eq (h : ∀ r ∈ rs, '\n' ∉ r.name.toList) : s.splitOn '\n' = ls

/-- The lines at the top of a table: the frame, and the titles of the columns if there is a header. -/
inductive Heads (ws : List Nat) : (header : Bool) → List (List Char) → Prop
  | frame {top : List Char} (htop : ∀ c ∈ top, c ∈ ['+', '-', '|']) : Heads ws false [top]
  | titles {top titles rule : List Char} (htop : ∀ c ∈ top, c ∈ ['+', '-', '|'])
    (htitles : Table.Shows ws (["Name", "Size (bytes)", "Pages", "Cached", "Percent"].map String.toList)
      titles) (hrule : ∀ c ∈ rule, c ∈ ['+', '-', '|']) :
    Heads ws true [top, titles, rule]

/-- A text that tells of some records and of nothing else: in an array, each by an object; in lines
of fields, each by the fields around the last commas of a line; in a table, each by the cells of a
line inside the frame. -/
inductive Tells (header : Bool) (rs : List Record) (s : List Char) : Format → Prop
  | json
    (h : Json.parse s = .ok (.array (rs.map fun r => .object [
      ("filename", .text r.name), ("size", .integer r.size),
      ("timestamp", r.timestamp.elim .null fun t => .text (String.ofList t.iso)),
      ("mtime", r.mtime.elim .null fun t => .text (String.ofList t.iso)),
      ("pages", .integer r.pages), ("cached", .integer r.cached),
      ("uncached", .integer r.uncached), ("percent", .decimal (Object.number r.percent))]))) :
    Tells header rs s .json
  | terse {ls : List (List Char)}
    (hlined : Lined rs s
      ((if header then ["name,size,timestamp,mtime,pages,cached,percent".toList] else []) ++ ls))
    (h : ls.map (Text.splitLast ',' 6) = rs.map fun r => [r.name.toList, Numeral.chars r.size,
      Numeral.chars (Instant.told r.timestamp), Numeral.chars (Instant.told r.mtime),
      Numeral.chars r.pages, Numeral.chars r.cached, r.percent.fixed 0]) :
    Tells header rs s .terse
  | table {ws : List Nat} {front ls : List (List Char)} {last : List Char}
    (hlined : Lined rs s (front ++ ls ++ [last])) (hfront : Heads ws header front)
    (hlast : ∀ c ∈ last, c ∈ ['+', '-', '|'])
    (h : List.Forall₂ (fun r l => Table.Shows ws [r.name.toList, Numeral.chars r.size,
      Numeral.chars r.pages, Numeral.chars r.cached, r.percent.fixed 7] l) rs ls) :
    Tells header rs s .table

variable {rs : List Record} {header : Bool}

end PageCache.Listing
