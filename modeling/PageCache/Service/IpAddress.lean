import PageCache.Numeral
import PageCache.Text.Hex
import PageCache.Text.Piece
/-!
How network addresses are written: four numbers between points, or eight groups of hexadecimal digits between
colons, of which one run may be left out where two colons meet.
-/

namespace PageCache.Service.IpAddress

def isOctet (s : List Char) : Bool :=
  s.all Char.isDigit && s.length ≤ 3 && (s.length = 1 || s.head? != some '0') &&
    (Numeral.natural? s).any (· < 256)

def isV4 (s : List Char) : Bool :=
  let octets := Text.pieces '.' s
  octets.length = 4 && octets.all isOctet

def isGroup (s : List Char) : Bool := s != [] && s.length ≤ 4 && s.all fun c => (Text.hexValue? c).isSome

/-- The number of groups, if every piece is one. The last piece may be four numbers, which count as two groups. -/
def groupCount? : List (List Char) → Option Nat
  | [] => some 0
  | [last] => if isGroup last then some 1 else if isV4 last then some 2 else none
  | piece :: rest => if isGroup piece then (groupCount? rest).map (· + 1) else none

def groups (s : List Char) : List (List Char) := if s = [] then [] else Text.pieces ':' s

def cutGap : List Char → Option (List Char × List Char)
  | [] => none
  | ':' :: ':' :: rest => some ([], rest)
  | c :: rest => (cutGap rest).map fun (before, behind) => (c :: before, behind)

/-- A gap stands for one group at least. -/
def isV6 (s : List Char) : Bool :=
  match cutGap s with
  | none => groupCount? (groups s) == some 8
  | some (before, behind) =>
    (groups before).all isGroup &&
      (groupCount? (groups behind)).any fun count => (groups before).length + count < 8

/-- A zone may stand behind a percent sign. -/
def isScopedV6 (s : List Char) : Bool :=
  let (address, zone) := Text.cut '%' s
  isV6 address && zone.all fun z => z != [] && !z.contains '%'

end PageCache.Service.IpAddress
