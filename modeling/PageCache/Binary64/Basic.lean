/-!
The double-precision numbers, told apart by sign and rank: the finite magnitudes are numbered in ascending
order from zero on, so that a larger rank is a larger magnitude.
-/

namespace PageCache

/-- How many finite magnitudes there are, and the rank that infinity would have. -/
def Binary64.topRank : Nat := 2047 <<< 52

inductive Binary64 where
  | nan
  | infinite (negative : Bool)
  | finite (negative : Bool) (rank : Fin Binary64.topRank)
  deriving DecidableEq

namespace Binary64

def zero : Binary64 := .finite false ⟨0, by decide⟩

instance : Inhabited Binary64 := ⟨zero⟩

def unitExponent : Nat := 1074

def one : Nat := 1 <<< unitExponent

def units (rank : Nat) : Nat :=
  if rank >>> 52 = 0 then rank else (1 <<< 52 + rank % 1 <<< 52) <<< (rank >>> 52 - 1)

/-- Reads the interchange encoding: the sign, then the rank. -/
def ofBits (bits : Nat) : Binary64 :=
  let negative := bits >>> 63 % 2 == 1
  let rank := bits % 1 <<< 63
  if h : rank < topRank then .finite negative ⟨rank, h⟩
  else if rank = topRank then .infinite negative
  else .nan

end PageCache.Binary64
