import PageCache.Binary64.Decimal
import PageCache.Json.Basic
import PageCache.Record
/-!
Records as JSON objects, with times in ISO form.
-/

namespace PageCache.Listing.Object

def ofTime (t : Option Instant) : Json := t.elim .null fun i => .text (String.ofList i.iso)

def number : Binary64 → String
  | .nan => "NaN"
  | .infinite negative => if negative then "-Infinity" else "Infinity"
  | x => String.ofList x.text

def ofRecord (r : Record) : Json :=
  .object [("filename", .text r.name), ("size", .integer r.size), ("timestamp", ofTime r.timestamp),
    ("mtime", ofTime r.mtime), ("pages", .integer r.pages), ("cached", .integer r.cached),
    ("uncached", .integer r.uncached), ("percent", .decimal (number r.percent))]

def text (rs : List Record) : List Char := (Json.array (rs.map ofRecord)).chars

end PageCache.Listing.Object
