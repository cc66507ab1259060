import PageCache.Binary64.Basic
/-!
Rounding to the nearest double, ties to the even one. Every operation is its exact result, rounded once.
-/

namespace PageCache.Binary64

/-- The natural number nearest to `num / den`, the even one of two. -/
def roundDiv (num den : Nat) : Nat :=
  let q := num / den
  let r := num % den
  if 2 * r < den ∨ 2 * r = den ∧ q % 2 = 0 then q else q + 1

/-- The rank of the magnitude nearest to `num / den` units. Above the first `2 ^ 53` units only multiples of
a power of two are magnitudes, and each such step continues the numbering of the one before. -/
def roundRank (num den : Nat) : Nat :=
  let step := Nat.log2 (num / den) - 52
  step <<< 52 + roundDiv num (den <<< step)

def ofUnits (negative : Bool) (num den : Nat) : Binary64 :=
  if h : roundRank num den < topRank then .finite negative ⟨roundRank num den, h⟩ else .infinite negative

def ofRatio (negative : Bool) (num den : Nat) : Binary64 := ofUnits negative (num * one) den

def ofInt (n : Int) : Binary64 := ofRatio (n < 0) n.natAbs 1

def finite? : Binary64 → Option Binary64
  | .finite negative rank => some (.finite negative rank)
  | _ => none

/-- The quotient of two integers, if no finite double is too small for it. -/
def quotient? (a b : Int) : Option Binary64 :=
  (ofRatio (decide (a < 0) != decide (b < 0)) a.natAbs b.natAbs).finite?

def mul : Binary64 → Binary64 → Binary64
  | .nan, _ => .nan
  | _, .nan => .nan
  | .infinite s, .infinite t => .infinite (s != t)
  | .infinite s, .finite t rank => if rank.val = 0 then .nan else .infinite (s != t)
  | .finite s rank, .infinite t => if rank.val = 0 then .nan else .infinite (s != t)
  | .finite s a, .finite t b => ofUnits (s != t) (units a * units b) one

def signedUnits (negative : Bool) (rank : Nat) : Int := if negative then -(units rank : Int) else units rank

def add : Binary64 → Binary64 → Binary64
  | .nan, _ => .nan
  | _, .nan => .nan
  | .infinite s, .infinite t => if s = t then .infinite s else .nan
  | .infinite s, .finite _ _ => .infinite s
  | .finite _ _, .infinite t => .infinite t
  | .finite s a, .finite t b =>
    let sum := signedUnits s a + signedUnits t b
    ofUnits (if sum = 0 then s && t else sum < 0) sum.natAbs 1

theorem roundDiv_bounds (num den : Nat) : num / den ≤ roundDiv num den ∧ roundDiv num den ≤ num / den + 1 := by
  unfold roundDiv
  dsimp only
  split <;> omega

end PageCache.Binary64
