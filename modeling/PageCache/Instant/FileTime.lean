import PageCache.Instant.Basic
/-!
File times. A file system counts seconds and nanoseconds; the pair is read as one double of seconds, and the
double is rounded to microseconds, half to even.
-/

namespace PageCache

structure FileTime where
  seconds : Int
  nanoseconds : Int
  deriving DecidableEq

inductive TimeFault where
  | notANumber
  | secondsTooLarge
  | yearTooLarge
  | yearOutOfRange (year : Int)
  deriving DecidableEq

namespace FileTime

def nano : Binary64 := .ofRatio false 1 1000000000

def toDouble (t : FileTime) : Binary64 := (Binary64.ofInt t.seconds).add (nano.mul (.ofInt t.nanoseconds))

/-- The microseconds of a fraction of a second, given in units: a million times it as a double, rounded. -/
def roundMicros (units : Nat) : Nat :=
  Binary64.roundDiv (Binary64.units (Binary64.roundRank (units * 1000000) 1)) Binary64.one

def split (negative : Bool) (units : Nat) : Int × Int :=
  let whole : Int := (units / Binary64.one : Nat)
  let micros : Int := roundMicros (units % Binary64.one)
  let total := if negative then -(whole * 1000000 + micros) else whole * 1000000 + micros
  (total / 1000000, total % 1000000)

/-- The year that a calendar of 32-bit years tells. -/
def year? (second : Int) : Option Int :=
  let year := Date.yearOf (second / 86400 + Instant.epochDay)
  if -0x80000000 ≤ year - 1900 ∧ year - 1900 < 0x80000000 then some (year.bmod 0x100000000) else none

/-- The instant some microseconds after a second. The last count of seconds is the double next to the greatest
word, not the word itself. That is the range in the datetime of 3.11.7; later releases stop below that double. -/
def instantAt (second micros : Int) : Except TimeFault Instant :=
  if second < -0x8000000000000000 ∨ 0x8000000000000000 < second then .error .secondsTooLarge
  else match year? second with
    | none => .error .yearTooLarge
    | some year =>
      match Instant.ofMicros? (second * 1000000 + micros) with
      | some t => .ok t
      | none => .error (.yearOutOfRange year)

def ofDouble : Binary64 → Except TimeFault Instant
  | .nan => .error .notANumber
  | .infinite _ => .error .secondsTooLarge
  | .finite negative rank =>
    let (second, micros) := split negative (Binary64.units rank)
    instantAt second micros

def toInstant (t : FileTime) : Except TimeFault Instant := ofDouble t.toDouble

end PageCache.FileTime
