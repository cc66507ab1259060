import PageCache.Instant.Basic
import PageCache.Text.Padding
/-!
The text of an instant: date and time of day to the microsecond, in UTC. A fraction of zero is left out.
-/

namespace PageCache.Instant

def digits (width n : Nat) : List Char := Text.zeroFill width (Nat.toDigits 10 n)

def dateText (d : Date) : List Char :=
  digits 4 d.year.toNat ++ '-' :: digits 2 d.month ++ '-' :: digits 2 d.day

def timeText (second : Nat) : List Char :=
  digits 2 (second / 3600) ++ ':' :: digits 2 (second / 60 % 60) ++ ':' :: digits 2 (second % 60)

def fractionText (micros : Nat) : List Char := if micros = 0 then [] else '.' :: digits 6 micros

def iso (t : Instant) : List Char :=
  dateText (Date.ofDay t.day) ++ 'T' :: timeText t.secondOfDay ++ fractionText t.fraction ++ "+00:00".toList

end PageCache.Instant
