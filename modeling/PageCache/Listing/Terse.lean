import PageCache.Binary64.Decimal
import PageCache.Record
import PageCache.Text.Line
/-!
Records as lines of fields between commas, with times in seconds since 1970. Names are written as they are.
-/

namespace PageCache.Listing.Terse

def header : List Char := "name,size,timestamp,mtime,pages,cached,percent".toList

/-- Zero for a time that was never taken. -/
def seconds (t : Option Instant) : List Char := Numeral.chars (t.elim 0 Instant.epochSeconds)

def fields (r : Record) : List (List Char) :=
  [r.name.toList, Numeral.chars r.size, seconds r.timestamp, seconds r.mtime, Numeral.chars r.pages,
    Numeral.chars r.cached, r.percent.fixed 0]

def line (r : Record) : List Char := Text.joinWith [','] (fields r)

def lines (rs : List Record) (withHeader : Bool) : List (List Char) :=
  (if withHeader then [header] else []) ++ rs.map line

def text (rs : List Record) (withHeader : Bool) : List Char := Text.joinLines (lines rs withHeader)

end PageCache.Listing.Terse
