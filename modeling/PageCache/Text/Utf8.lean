import PageCache.Text.Quoted
/-!
Strict decoding of UTF-8. A sequence that is not well formed is reported with its longest beginning that
some character could still have.
-/

namespace PageCache.Text.Utf8

inductive Flaw where
  | start
  | continuation
  | truncation
  deriving DecidableEq

/-- What is wrong, and the bytes it is wrong with: where they start, the first one, and how many they are. -/
structure Malformed where
  flaw : Flaw
  position : Nat
  first : UInt8
  length : Nat
  deriving DecidableEq

def Flaw.message : Flaw → String
  | .start => "invalid start byte"
  | .continuation => "invalid continuation byte"
  | .truncation => "unexpected end of data"

def Malformed.message (m : Malformed) : String :=
  let bytes :=
    if m.length = 1 then
      "byte 0x" ++ String.ofList (hexDigits 2 m.first.toNat) ++ " in position " ++ Nat.repr m.position
    else
      "bytes in position " ++ Nat.repr m.position ++ "-" ++ Nat.repr (m.position + m.length - 1)
  "'utf-8' codec can't decode " ++ bytes ++ ": " ++ m.flaw.message

def isContinuation (b : UInt8) : Bool := 0x80 ≤ b && b ≤ 0xbf

/-- Whether `b` may follow the first byte `a` of a longer sequence: no overlong form, no surrogate, and
nothing above the last code point. -/
def follows (a b : UInt8) : Bool :=
  isContinuation b && !(a == 0xe0 && b < 0xa0) && !(a == 0xed && 0xa0 ≤ b) && !(a == 0xf0 && b < 0x90) &&
    !(a == 0xf4 && 0x90 ≤ b)

def codePoint (bits : Nat) (a : UInt8) (rest : List UInt8) : Char :=
  Char.ofNat (rest.foldl (fun n b => n * 64 + b.toNat % 64) (a.toNat % 1 <<< bits))

def decodeFrom (position : Nat) : List UInt8 → Except Malformed (List Char)
  | [] => .ok []
  | a :: s =>
    if a < 0x80 then (decodeFrom (position + 1) s).map (codePoint 7 a [] :: ·)
    else if a < 0xc2 || 0xf4 < a then .error ⟨.start, position, a, 1⟩
    else match s with
      | [] => .error ⟨.truncation, position, a, 1⟩
      | b :: s =>
        if !follows a b then .error ⟨.continuation, position, a, 1⟩
        else if a < 0xe0 then (decodeFrom (position + 2) s).map (codePoint 5 a [b] :: ·)
        else match s with
          | [] => .error ⟨.truncation, position, a, 2⟩
          | c :: s =>
            if !isContinuation c then .error ⟨.continuation, position, a, 2⟩
            else if a < 0xf0 then (decodeFrom (position + 3) s).map (codePoint 4 a [b, c] :: ·)
            else match s with
              | [] => .error ⟨.truncation, position, a, 3⟩
              | d :: s =>
                if !isContinuation d then .error ⟨.continuation, position, a, 3⟩
                else (decodeFrom (position + 4) s).map (codePoint 3 a [b, c, d] :: ·)

def decode (bytes : List UInt8) : Except Malformed (List Char) := decodeFrom 0 bytes

def first? (bytes : List UInt8) : Option (Char × Nat) :=
  (List.range 4).findSome? fun n =>
    match decode (bytes.take (n + 1)) with
    | .ok [c] => some (c, n)
    | _ => none

/-- Decodes behind the next `skip` bytes. A byte that starts no character becomes what `replace` makes of it. -/
def decodeBehind (replace : UInt8 → List Char) : (skip : Nat) → List UInt8 → List Char
  | _, [] => []
  | skip + 1, _ :: s => decodeBehind replace skip s
  | 0, a :: s =>
    match first? (a :: s) with
    | some (c, further) => c :: decodeBehind replace further s
    | none => replace a ++ decodeBehind replace 0 s

def decodeLossy (replace : UInt8 → List Char) (bytes : List UInt8) : List Char := decodeBehind replace 0 bytes

end PageCache.Text.Utf8
