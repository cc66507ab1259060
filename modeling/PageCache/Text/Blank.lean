/-!
White space: what is stripped from the ends of a text, and what separates the columns of a line.
-/

namespace PageCache.Text

/-- The separators among the controls, the spaces of every width, and the line and paragraph separators. -/
def isBlank (c : Char) : Bool :=
  let n := c.toNat
  (0x09 ≤ n && n ≤ 0x0d) || (0x1c ≤ n && n ≤ 0x20) || n == 0x85 || n == 0xa0 || n == 0x1680 ||
    (0x2000 ≤ n && n ≤ 0x200a) || n == 0x2028 || n == 0x2029 || n == 0x202f || n == 0x205f || n == 0x3000

def dropBlanks (s : List Char) : List Char := s.dropWhile isBlank

def dropColumn (s : List Char) : List Char := (dropBlanks s).dropWhile fun c => !isBlank c

def trim (p : Char → Bool) (s : List Char) : List Char := ((s.dropWhile p).reverse.dropWhile p).reverse

def strip (s : List Char) : List Char := trim isBlank s

/-- What is left of a line behind its first `n` columns, from the next column to the end of the line. -/
def fromColumn : Nat → List Char → List Char
  | 0, s => dropBlanks s
  | n + 1, s => fromColumn n (dropColumn s)

theorem fromColumn_dropBlanks (n : Nat) (s : List Char) : fromColumn n (dropBlanks s) = fromColumn n s := by
  have h : dropBlanks (dropBlanks s) = dropBlanks s := by
    induction s with
    | nil => rfl
    | cons c s ih =>
      by_cases hc : isBlank c <;> simp_all [dropBlanks]
  cases n <;> simp [fromColumn, dropColumn, h]

end PageCache.Text
