import PageCache.Text.Utf16
import PageCache.Text.Utf8
/-!
The encodings of JSON text. A text starts with ASCII, so the zeros among its first bytes tell the encoding.
-/

namespace PageCache.Json

inductive Encoding where
  | utf8
  | utf16 (bigEndian : Bool)
  | utf32 (bigEndian : Bool)
  deriving DecidableEq

namespace Encoding

def ofBytes : List UInt8 → Encoding
  | a :: b :: c :: d :: _ =>
    if a = 0 then if b = 0 then .utf32 true else .utf16 true
    else if b = 0 then if c = 0 ∧ d = 0 then .utf32 false else .utf16 false
    else .utf8
  | _ => .utf8

def number (bigEndian : Bool) (bytes : List UInt8) : Nat :=
  (if bigEndian then bytes else bytes.reverse).foldl (fun n b => n * 256 + b.toNat) 0

/-- The numbers of two bytes each, if none is left over. -/
def units? (bigEndian : Bool) : List UInt8 → Option (List Nat)
  | [] => some []
  | a :: b :: rest => (units? bigEndian rest).map (number bigEndian [a, b] :: ·)
  | _ => none

def codePoints? (bigEndian : Bool) : List UInt8 → Option (List Char)
  | [] => some []
  | a :: b :: c :: d :: rest =>
    let n := number bigEndian [a, b, c, d]
    if n < 0x110000 then (codePoints? bigEndian rest).map (Text.Utf16.ofUnit n :: ·) else none
  | _ => none

def dropMark : List Char → List Char
  | '\ufeff' :: rest => rest
  | s => s

/-- A byte order mark in front of UTF-8 is dropped. -/
def decode? (bytes : List UInt8) : Option (List Char) :=
  match ofBytes bytes with
  | .utf8 => (Text.Utf8.decode bytes).toOption.map dropMark
  | .utf16 bigEndian => (units? bigEndian bytes).map Text.Utf16.decode
  | .utf32 bigEndian => codePoints? bigEndian bytes

end Encoding

end PageCache.Json
