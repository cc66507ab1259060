import PageCache.Numeral
import PageCache.Text.Piece
import PageCache.Text.Quoted
/-!
The arguments of the command line: which of them are options, and in what spelling.
-/

namespace PageCache.CommandLine

inductive Switch where
  | help
  | json
  | terse
  | nohdr
  | bname
  | pid
  | maxSize
  | regularOnly
  | verbose
  deriving DecidableEq

namespace Switch

def all : List Switch := [.help, .json, .terse, .nohdr, .bname, .pid, .maxSize, .regularOnly, .verbose]

def spellings : Switch → List String
  | .help => ["-h", "--help"]
  | .json => ["--json"]
  | .terse => ["--terse"]
  | .nohdr => ["--nohdr"]
  | .bname => ["--bname"]
  | .pid => ["--pid"]
  | .maxSize => ["--max-size"]
  | .regularOnly => ["--regular-only"]
  | .verbose => ["-v", "--verbose"]

def takesValue : Switch → Bool
  | .pid | .maxSize => true
  | _ => false

def label (s : Switch) : String := "/".intercalate s.spellings

def table : List (List Char × Switch) := all.flatMap fun s => s.spellings.map fun name => (name.toList, s)

def ofSpelling? (name : List Char) : Option Switch := table.lookup name

def startingWith (start : List Char) : List (List Char × Switch) := table.filter fun e => start.isPrefixOf e.1

end Switch

inductive Argument where
  | operand (text : List Char)
  /-- The first pair of dashes, behind which nothing is an option. -/
  | separator
  /-- What is attached stands behind an equals sign, or right behind a short option. -/
  | option (switch : Switch) (short : Bool) (attached : Option (List Char))
  | unknown (text : List Char)
  deriving DecidableEq

inductive UsageError where
  | ambiguous (argument : List Char) (candidates : List (List Char))
  | ignoredValue (switch : Switch) (value : List Char)
  | missingValue (switch : Switch)
  | invalidValue (switch : Switch) (value : List Char)
  | conflict (switch other : Switch)
  | unrecognized (arguments : List (List Char))
  deriving DecidableEq

namespace Argument

def isDigits (s : List Char) : Bool := s != [] && s.all Text.isDigit

/-- Looks like a negative number: digits, or a fraction whose whole part may be missing. -/
def isNegativeNumber : List Char → Bool
  | '-' :: rest =>
    let body := if rest.getLast? = some '\n' then rest.dropLast else rest
    isDigits body || match body.dropWhile Text.isDigit with
      | '.' :: fraction => isDigits fraction
      | _ => false
  | _ => false

/-- An argument with a dash in front that spells no option in full. A long option may be cut short as long as it
stays the only one. -/
def abbreviated (s : List Char) : Except UsageError Argument :=
  let other := if isNegativeNumber s || s.contains ' ' then Argument.operand s else .unknown s
  if "--".toList.isPrefixOf s then
    let (start, value) := Text.cut '=' s
    match Switch.startingWith start with
    | [] => .ok other
    | [(_, switch)] => .ok (.option switch false value)
    | candidates => .error (.ambiguous s (candidates.map (·.1)))
  else match Switch.ofSpelling? (s.take 2) with
    | some switch => .ok (.option switch true (some (s.drop 2)))
    | none => .ok other

def isShort (name : List Char) : Bool := !"--".toList.isPrefixOf name

def classify (s : List Char) : Except UsageError Argument :=
  if s.head? != some '-' then .ok (.operand s)
  else match Switch.ofSpelling? s with
    | some switch => .ok (.option switch (isShort s) none)
    | none =>
      if s.length = 1 then .ok (.operand s)
      else match Text.cut '=' s with
        | (name, some value) =>
          match Switch.ofSpelling? name with
          | some switch => .ok (.option switch (isShort name) (some value))
          | none => abbreviated s
        | (_, none) => abbreviated s

/-- Classifies up to the separator; what is behind it are operands. -/
def classifyAll : List (List Char) → Except UsageError (List Argument)
  | [] => .ok []
  | s :: rest =>
    if s = "--".toList then .ok (.separator :: rest.map .operand)
    else do return (← classify s) :: (← classifyAll rest)

end Argument

end PageCache.CommandLine
