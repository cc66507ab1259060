import PageCache.Fault
import PageCache.Instant.Iso
/-!
Records of how much of a file the page cache holds, and the reports that fill them in.
-/

namespace PageCache

/-- Pages in the cache, and pages missing from it. -/
structure Report where
  cached : Int
  missing : Int
  deriving DecidableEq

structure Record where
  name : String
  size : Int := 0
  timestamp : Option Instant := none
  mtime : Option Instant := none
  pages : Int := 0
  cached : Int := 0
  uncached : Int := 0
  percent : Binary64 := .zero
  deriving DecidableEq

/-- The cached share of all pages in percent, zero of none: one rounded quotient, times one hundred. -/
def percentage? (cached pages : Int) : Option Binary64 :=
  if 0 < pages then (Binary64.quotient? cached pages).map (·.mul (.ofInt 100)) else some .zero

namespace Record

/-- Fills in the counts. Without a report there was nothing to count. -/
def merge (r : Record) : Option Report → Except Fault Record
  | none => .ok r
  | some report =>
    let pages := report.cached + report.missing
    match percentage? report.cached pages with
    | none => .error .quotientTooLarge
    | some percent =>
      .ok { r with pages := pages, cached := report.cached, uncached := report.missing, percent := percent }

theorem merge_none (r : Record) : r.merge none = .ok r := rfl

end PageCache.Record
