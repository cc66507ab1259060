import PageCache.Binary64.Decimal
import PageCache.Record
import PageCache.Text.Line
/-!
Records as a table in a box. A column is as wide as the longest of its title and its cells.
-/

namespace PageCache.Listing.Table

def titles : List (List Char) :=
  ["Name".toList, "Size (bytes)".toList, "Pages".toList, "Cached".toList, "Percent".toList]

def cells (r : Record) : List (List Char) :=
  [r.name.toList, Numeral.chars r.size, Numeral.chars r.pages, Numeral.chars r.cached, r.percent.fixed 7]

def lengths (row : List (List Char)) : List Nat := row.map List.length

def widths (rows : List (List (List Char))) : List Nat :=
  rows.foldl (fun ws row => List.zipWith max ws (lengths row)) (lengths titles)

def rule (edge : Char) (ws : List Nat) : List Char :=
  edge :: Text.joinWith ['+'] (ws.map fun w => List.replicate (w + 2) '-') ++ [edge]

def border (ws : List Nat) : List Char := rule '+' ws

def line (ws : List Nat) (row : List (List Char)) : List Char :=
  "| ".toList ++ Text.joinWith " | ".toList (List.zipWith Text.padRight ws row) ++ " |".toList

def lines (rs : List Record) (header : Bool) : List (List Char) :=
  let rows := rs.map cells
  let ws := widths rows
  border ws :: (if header then [line ws titles, rule '|' ws] else []) ++ rows.map (line ws) ++ [border ws]

def text (rs : List Record) (header : Bool) : List Char := Text.joinLines (lines rs header)

end PageCache.Listing.Table
