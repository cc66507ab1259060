/-!
Text taken apart at a separator.
-/

namespace PageCache.Text

def pieces (separator : Char) : List Char → List (List Char)
  | [] => [[]]
  | c :: rest =>
    if c = separator then [] :: pieces separator rest
    else match pieces separator rest with
      | [] => [[c]]
      | piece :: more => (c :: piece) :: more

/-- What stands before the first separator, and what stands behind it, if there is one. -/
def cut (separator : Char) (s : List Char) : List Char × Option (List Char) :=
  match s.dropWhile (· != separator) with
  | [] => (s, none)
  | _ :: rest => (s.takeWhile (· != separator), some rest)

end PageCache.Text
