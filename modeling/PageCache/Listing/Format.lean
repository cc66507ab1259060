import PageCache.Fault
/-!
The formats in which records are listed.
-/

namespace PageCache.Listing

inductive Format where
  | table
  | terse
  | json
  deriving DecidableEq

namespace Format

def name : Format → String
  | .table => "table"
  | .terse => "terse"
  | .json => "json"

def all : List Format := [.table, .terse, .json]

def ofName? (s : String) : Option Format := all.find? (·.name == s)

def ofName (s : String) : Except Fault Format :=
  match ofName? s with
  | some format => .ok format
  | none => .error (.unknownFormat s)

theorem ofName?_name (f : Format) : ofName? f.name = some f := by cases f <;> decide

end PageCache.Listing.Format
