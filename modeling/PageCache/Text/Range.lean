/-!
Sets of code points, given by their maximal runs in ascending order.
-/

namespace PageCache.Text

/-- The first and the last code point of a run. -/
abbrev Run := Nat × Nat

/-- Membership; the search stops at the first run that starts behind the code point. -/
def inRuns (n : Nat) : List Run → Bool
  | [] => false
  | r :: rest => if n < r.1 then false else n ≤ r.2 || inRuns n rest

end PageCache.Text
