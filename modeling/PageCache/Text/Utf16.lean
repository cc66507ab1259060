/-!
UTF-16. A character above the first 65536 has two units, a high and a low one.
-/

namespace PageCache.Text.Utf16

def highUnit (n : Nat) : Nat := 0xd800 + (n - 0x10000) / 0x400

def lowUnit (n : Nat) : Nat := 0xdc00 + (n - 0x10000) % 0x400

def isHigh (unit : Nat) : Bool := 0xd800 ≤ unit && unit < 0xdc00

def isLow (unit : Nat) : Bool := 0xdc00 ≤ unit && unit < 0xe000

/-- The character of a unit. Half of a pair alone is no character, so it is replaced; where texts are made of units, it
would stay as it is. -/
def ofUnit (unit : Nat) : Char := if isHigh unit || isLow unit then '\ufffd' else Char.ofNat unit

def ofPair (high low : Nat) : Char := Char.ofNat (0x10000 + (high - 0xd800) * 0x400 + (low - 0xdc00))

def decode : List Nat → List Char
  | [] => []
  | [unit] => [ofUnit unit]
  | first :: second :: rest =>
    if isHigh first && isLow second then ofPair first second :: decode rest
    else ofUnit first :: decode (second :: rest)

end PageCache.Text.Utf16
