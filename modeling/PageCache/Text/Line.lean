/-!
The lines of a text. A carriage return and the line feed behind it end one line together.
-/

namespace PageCache.Text

def isLineEnd (c : Char) : Bool :=
  let n := c.toNat
  (0x0a ≤ n && n ≤ 0x0d) || (0x1c ≤ n && n ≤ 0x1e) || n == 0x85 || n == 0x2028 || n == 0x2029

/-- The lines without their ends; an end of line at the end of the text opens no further line. -/
def lines : List Char → List (List Char)
  | [] => []
  | '\r' :: '\n' :: rest => [] :: lines rest
  | c :: rest =>
    if isLineEnd c then [] :: lines rest
    else match lines rest with
      | [] => [[c]]
      | line :: more => (c :: line) :: more

def joinWith (separator : List Char) : List (List Char) → List Char
  | [] => []
  | [s] => s
  | s :: t :: rest => s ++ separator ++ joinWith separator (t :: rest)

def joinLines (ls : List (List Char)) : List Char := joinWith ['\n'] ls

theorem joinWith_cons_of_ne_nil (separator s : List Char) {rest : List (List Char)} (h : rest ≠ []) :
    joinWith separator (s :: rest) = s ++ separator ++ joinWith separator rest := by
  cases rest with
  | nil => exact absurd rfl h
  | cons t rest => rfl

end PageCache.Text
