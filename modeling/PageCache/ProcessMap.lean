import PageCache.Machine.Calls
import PageCache.Path
import PageCache.Text.Line
/-!
The memory map of a process: one mapping per line, five columns and then, for a mapped file, its path. A path
runs to the end of its line; a file that was deleted since is told by a mark behind its path.
-/

namespace PageCache.ProcessMap

/-- The column in which paths start, counted from zero. -/
def pathColumn : Nat := 5

def deletedMark : List Char := " (deleted)".toList

/-- Absolute, and not deleted. -/
def isLivePath (path : List Char) : Bool := ['/'].isPrefixOf path && !deletedMark.isSuffixOf path

/-- The files of a map, each once, in the order in which they first appear. -/
def livePaths (text : List Char) : List (List Char) :=
  (((Text.lines text).map (Text.fromColumn pathColumn)).filter isLivePath).eraseDups

def paths (text : String) : List String := (livePaths text.toList).map String.ofList

def defaultRoot : String := "/proc"

def location (root : String) (p : Process) : String := Path.join root [p.name, "maps"]

/-- A system error is that of an unreadable map; no other fault is. -/
def unreadable (p : Process) : Fault → Fault
  | .system e => .unreadableMap p e
  | f => f

def filesOf (root : String) (p : Process) : ExceptT Fault (StateM Machine) (List String) := do
  if ¬p.Nameable then throw .numeralTooLong
  let bytes ← (Machine.readText (location root p)).adapt (unreadable p)
  let text ← liftExcept ((Text.Utf8.decode bytes).mapError Fault.malformed)
  return (livePaths text).map String.ofList

end PageCache.ProcessMap
