import PageCache.Text.Utf8
/-!
Percent signs in addresses: a percent sign and two hexadecimal digits stand for a byte of UTF-8. Any other
percent sign stands for itself.
-/

namespace PageCache.Text.Percent

def bytes : List Char → List UInt8
  | [] => []
  | '%' :: a :: b :: rest =>
    match hexValue? a, hexValue? b with
    | some high, some low => UInt8.ofNat (high * 16 + low) :: bytes rest
    | _, _ => 0x25 :: bytes (a :: b :: rest)
  | c :: rest => String.utf8EncodeChar c ++ bytes rest

def escape (b : UInt8) : List Char := '%' :: (hexDigits 2 b.toNat).map Char.toUpper

/-- Bytes of no character stay escaped. -/
def decode (s : List Char) : List Char := Utf8.decodeLossy escape (bytes s)

end PageCache.Text.Percent
