import PageCache.Binary64.Rounding
import PageCache.Instant.Date
/-!
Instants: microseconds since the start of 1970, within the years one to 9999.
-/

namespace PageCache

namespace Instant

/-- The number of the day on which the count of seconds starts. -/
def epochDay : Int := 719162

def firstMicros : Int := -62135596800000000

def lastMicros : Int := 253402300799999999

end Instant

structure Instant where
  micros : Int
  first_le : Instant.firstMicros ≤ micros
  le_last : micros ≤ Instant.lastMicros
  deriving DecidableEq

namespace Instant

def ofMicros? (n : Int) : Option Instant :=
  if h : firstMicros ≤ n ∧ n ≤ lastMicros then some ⟨n, h.1, h.2⟩ else none

def epoch : Instant := ⟨0, by decide, by decide⟩

instance : Inhabited Instant := ⟨epoch⟩

def second (t : Instant) : Int := t.micros / 1000000

def fraction (t : Instant) : Nat := (t.micros % 1000000).toNat

def day (t : Instant) : Int := t.second / 86400 + epochDay

def secondOfDay (t : Instant) : Nat := (t.second % 86400).toNat

def truncated : Binary64 → Int
  | .finite negative rank =>
    let whole : Int := (Binary64.units rank / Binary64.one : Nat)
    if negative then -whole else whole
  | _ => 0

/-- Seconds since 1970 as a double, cut off towards zero. -/
def epochSeconds (t : Instant) : Int := ((Binary64.quotient? t.micros 1000000).map truncated).getD 0

theorem fraction_lt (t : Instant) : t.fraction < 1000000 := by
  unfold fraction
  omega

theorem secondOfDay_lt (t : Instant) : t.secondOfDay < 86400 := by
  unfold secondOfDay
  omega

end PageCache.Instant
