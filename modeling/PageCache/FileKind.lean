/-!
Kinds of files. The kind of a file is told by its mode, a word of 32 bits; a mode that is no such word tells
none.
-/

namespace PageCache

inductive FileKind where
  | regular
  | directory
  | block
  | other
  deriving DecidableEq

inductive ModeFault where
  | negative
  /-- More than 32 bits, and at most 64. -/
  | wide
  /-- More than 64 bits. -/
  | huge
  deriving DecidableEq

namespace FileKind

def ofNumber : Nat → FileKind
  | 4 => .directory
  | 6 => .block
  | 8 => .regular
  | _ => .other

def modeWord (mode : Int) : Except ModeFault Nat :=
  if mode < 0 then .error .negative
  else if 0x10000000000000000 ≤ mode then .error .huge
  else if 0x100000000 ≤ mode then .error .wide
  else .ok mode.toNat

/-- The number of the kind stands in the four bits above the lowest twelve of the mode. -/
def ofMode (mode : Int) : Except ModeFault FileKind :=
  (modeWord mode).map fun word => ofNumber (word / 4096 % 16)

end FileKind

end PageCache
