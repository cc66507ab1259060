import PageCache.Binary64.Rounding
import PageCache.Text.Padding
/-!
Decimal text of doubles: the fewest digits that read back, and a fixed number of places.
-/

namespace PageCache.Binary64

/-- `coefficient * 10 ^ (shift - 400)`. Below the last of 400 places no double has its first digit. -/
structure Decimal where
  coefficient : Nat
  shift : Nat
  deriving DecidableEq

namespace Decimal

def places : Nat := 400

def rank (d : Decimal) : Nat := roundRank (d.coefficient * Nat.pow 10 d.shift * one) (Nat.pow 10 places)

/-- The distance between a decimal and `u` units, in parts of which `10 ^ 400` make a unit. -/
def distance (d : Decimal) (u : Nat) : Nat :=
  let a := d.coefficient * Nat.pow 10 d.shift * one
  let b := u * Nat.pow 10 places
  (a - b) + (b - a)

end Decimal

/-- How many digits stand before the last place of `u` units, cut off. -/
def digitCount (u : Nat) : Nat := (Nat.toDigits 10 (u * Nat.pow 10 Decimal.places / one)).length

/-- The decimals with their last digit at the same place just below and just above `u` units. -/
def neighbours (u shift : Nat) : Decimal × Decimal :=
  let c := u * Nat.pow 10 Decimal.places / (one * Nat.pow 10 shift)
  (⟨c, shift⟩, ⟨c + 1, shift⟩)

/-- The nearer of two neighbours that read back as `rank`; of two as near, the even one. -/
def candidate? (rank shift : Nat) : Option Decimal :=
  let u := units rank
  let (low, high) := neighbours u shift
  match low.rank == rank, high.rank == rank with
  | false, false => none
  | true, false => some low
  | false, true => some high
  | true, true =>
    if low.distance u < high.distance u ∨ low.distance u = high.distance u ∧ low.coefficient % 2 = 0 then some low
    else some high

/-- Seventeen digits always suffice. -/
def shortest (rank : Nat) : Decimal :=
  let count := digitCount (units rank)
  ((List.range 17).findSome? fun n => candidate? rank (count - (n + 1))).getD (neighbours (units rank) (count - 17)).1

/-- Digits without zeros at the end, and the power of ten that the first of them counts. -/
structure Scientific where
  digits : List Char
  exponent : Int

def Decimal.scientific (d : Decimal) : Scientific :=
  let digits := Nat.toDigits 10 d.coefficient
  ⟨(digits.reverse.dropWhile (· == '0')).reverse, (digits.length : Int) - 1 + d.shift - places⟩

def exponentText (e : Nat) : List Char := if e < 10 then '0' :: Nat.toDigits 10 e else Nat.toDigits 10 e

/-- Positional from `0.0001` up to sixteen digits before the point, else with an exponent. -/
def Scientific.text (s : Scientific) : List Char :=
  if s.exponent < -4 ∨ 16 ≤ s.exponent then
    let mantissa := match s.digits with
      | [] => ['0']
      | [d] => [d]
      | d :: more => d :: '.' :: more
    mantissa ++ 'e' :: (if s.exponent < 0 then '-' else '+') :: exponentText s.exponent.natAbs
  else if s.exponent < 0 then
    '0' :: '.' :: List.replicate (s.exponent.natAbs - 1) '0' ++ s.digits
  else
    let point := s.exponent.natAbs + 1
    let whole := s.digits.take point ++ List.replicate (point - s.digits.length) '0'
    let fraction := s.digits.drop point
    whole ++ '.' :: (if fraction = [] then ['0'] else fraction)

def signed (negative : Bool) (s : List Char) : List Char := if negative then '-' :: s else s

/-- The shortest text that reads back as the same double. -/
def text : Binary64 → List Char
  | .nan => "nan".toList
  | .infinite negative => signed negative "inf".toList
  | .finite negative rank =>
    signed negative (if rank.val = 0 then "0.0".toList else (shortest rank).scientific.text)

/-- Three places, the exact value rounded half to even, in at least `width` characters. -/
def fixed (width : Nat) : Binary64 → List Char
  | .nan => Text.zeroFill width "nan".toList
  | .infinite negative => signed negative (Text.zeroFill (width - negative.toNat) "inf".toList)
  | .finite negative rank =>
    let thousandths := roundDiv (units rank * 1000) one
    let body := Nat.toDigits 10 (thousandths / 1000) ++ '.' :: Text.zeroFill 3 (Nat.toDigits 10 (thousandths % 1000))
    signed negative (Text.zeroFill (width - negative.toNat) body)

end PageCache.Binary64
