/-!
The log of a prober: one entry for each stage that a probe reaches.
-/

namespace PageCache

inductive Level where
  | debug
  | info
  | warning
  | error
  deriving DecidableEq

namespace Level

def rank : Level → Nat
  | .debug => 0
  | .info => 1
  | .warning => 2
  | .error => 3

def name : Level → String
  | .debug => "DEBUG"
  | .info => "INFO"
  | .warning => "WARNING"
  | .error => "ERROR"

def all : List Level := [.debug, .info, .warning, .error]

def ofName? (s : String) : Option Level := all.find? (·.name == s)

instance : LE Level := ⟨fun a b => a.rank ≤ b.rank⟩

instance (a b : Level) : Decidable (a ≤ b) := inferInstanceAs (Decidable (a.rank ≤ b.rank))

theorem ofName?_name (l : Level) : ofName? l.name = some l := by cases l <;> decide

end Level

namespace Log

/-- `path` is empty for an event that is about no file. -/
structure Entry where
  level : Level
  message : String
  source : String
  path : String := ""
  deriving DecidableEq

def Entry.text (e : Entry) : String :=
  "[" ++ e.level.name ++ "] " ++ e.source ++ ": " ++ (if e.path = "" then "" else e.path ++ ": ") ++ e.message

/-- What entries are asked for; a criterion left out admits all. -/
structure Query where
  level : Option Level := none
  source : Option String := none
  path : Option String := none

def Query.admits (q : Query) (e : Entry) : Bool :=
  q.level.all (· ≤ e.level) && q.source.all (e.source == ·) && q.path.all (e.path == ·)

end Log

/-- Entries, oldest first. -/
structure Log where
  entries : List Log.Entry := []

namespace Log

def add (log : Log) (e : Entry) : Log := ⟨log.entries ++ [e]⟩

/-- What is done to a log, or to a list of its entries that was handed out. -/
inductive Change where
  | add (e : Entry)
  | clear
  | editCopy (edit : List Entry → List Entry)

/-- Lists are handed out as copies, so the log does not change with them. -/
def apply (log : Log) : Change → Log
  | .add e => log.add e
  | .clear => {}
  | .editCopy _ => log

def select (log : Log) (q : Query) : List Entry := log.entries.filter q.admits

end PageCache.Log
