import PageCache.Text.Piece
/-!
File paths: the last component, and the one spelling of a joined path.
-/

namespace PageCache.Path

def basenameChars (path : List Char) : List Char := (path.reverse.takeWhile (· != '/')).reverse

def basename (path : String) : String := String.ofList (basenameChars path.toList)

/-- The slashes at the start that count: two if there are just two, else at most one. -/
def root (path : List Char) : List Char :=
  match (path.takeWhile (· == '/')).length with
  | 0 => []
  | 2 => ['/', '/']
  | _ => ['/']

/-- The components: the pieces but for empty ones and those that name the directory itself. -/
def components (path : List Char) : List (List Char) := (Text.pieces '/' path).filter fun p => p != [] && p != ['.']

/-- The components of `path` and then `more`, below the same root. -/
def join (path : String) (more : List String) : String :=
  let parts := (components path.toList).map String.ofList ++ more
  String.ofList (root path.toList) ++ "/".intercalate parts

theorem basenameChars_no_slash (path : List Char) : '/' ∉ basenameChars path := by
  intro h
  have := List.all_eq_true.1 List.all_takeWhile _ (List.mem_reverse.1 h)
  simp at this

end PageCache.Path
