import PageCache.CommandLine.Argument
/-!
The options that a command line asks for, as the argparse of 3.11.7 reads them. Later releases differ where a value
is attached to a short option that takes none, and where a pair of dashes is attached to one that takes a value.
-/

namespace PageCache.CommandLine

/-- The value of an option. A pair of dashes in its place leaves it blank. -/
inductive Value where
  | blank
  | integer (n : Int)
  deriving DecidableEq

def Value.ofText? (text : List Char) : Option Value :=
  if text = "--".toList then some .blank else (Numeral.integer? text).map .integer

structure Options where
  files : List String := []
  json : Bool := false
  terse : Bool := false
  nohdr : Bool := false
  bname : Bool := false
  regularOnly : Bool := false
  verbosity : Nat := 0
  pid : Option Value := none
  maxSize : Option Value := none
  deriving DecidableEq

inductive Stop where
  | help
  | usage (error : UsageError)
  deriving DecidableEq

namespace Options

/-- Sets an option that takes no value. The two formats exclude each other. -/
def enable (o : Options) : Switch → Except Stop Options
  | .help => .error .help
  | .json => if o.terse then .error (.usage (.conflict .json .terse)) else .ok { o with json := true }
  | .terse => if o.json then .error (.usage (.conflict .terse .json)) else .ok { o with terse := true }
  | .nohdr => .ok { o with nohdr := true }
  | .bname => .ok { o with bname := true }
  | .regularOnly => .ok { o with regularOnly := true }
  | .verbose => .ok { o with verbosity := o.verbosity + 1 }
  | .pid | .maxSize => .ok o

def assign (o : Options) (s : Switch) (text : List Char) : Except Stop Options :=
  match Value.ofText? text with
  | none => .error (.usage (.invalidValue s text))
  | some value => .ok (if s = .pid then { o with pid := some value } else { o with maxSize := some value })

end Options

/-- Where the reading stands with the files: they have to be given in one piece. -/
inductive FileRun where
  | before
  | within
  | after
  deriving DecidableEq

structure Progress where
  options : Options := {}
  run : FileRun := .before
  extras : List (List Char) := []

namespace Progress

def interrupt (p : Progress) : Progress := if p.run = .within then { p with run := .after } else p

def extra (p : Progress) (s : List Char) : Progress := { p with extras := p.extras ++ [s] }

def operand (p : Progress) (s : List Char) : Progress :=
  if p.run = .after then p.extra s
  else { p with run := .within, options.files := p.options.files ++ [String.ofList s] }

def separator (p : Progress) : Progress :=
  if p.run = .after then p.extra "--".toList else { p with run := .within }

def enable (p : Progress) (s : Switch) : Except Stop Progress := do
  return { p with options := ← p.options.enable s }

def assign (p : Progress) (s : Switch) (value : List Char) : Except Stop Progress := do
  return { p with options := ← p.options.assign s value }

def cluster (s : Switch) : List Char → Except Stop (List Switch)
  | [] => .error (.usage (.ignoredValue s []))
  | c :: rest =>
    match Switch.ofSpelling? ['-', c] with
    | none => .error (.usage (.ignoredValue s (c :: rest)))
    | some next => if rest = [] then .ok [s, next] else do return s :: (← cluster next rest)

def attached (p : Progress) (s : Switch) (short : Bool) (value : List Char) : Except Stop Progress :=
  if s.takesValue then p.assign s value
  else if short then do (← cluster s value).foldlM enable p
  else .error (.usage (.ignoredValue s value))

/-- Reads arguments from left to right. The value of an option is the operand behind it. -/
def read (p : Progress) : List Argument → Except Stop Progress
  | [] => .ok p
  | .operand s :: rest => read (p.operand s) rest
  | .separator :: rest => read p.separator rest
  | .unknown s :: rest => read (p.interrupt.extra s) rest
  | .option s short (some value) :: rest => do read (← p.interrupt.attached s short value) rest
  | .option s _ none :: .operand value :: rest =>
    if s.takesValue then do read (← p.interrupt.assign s value) rest
    else do read ((← p.interrupt.enable s).operand value) rest
  | .option s _ none :: rest =>
    if s.takesValue then .error (.usage (.missingValue s))
    else do read (← p.interrupt.enable s) rest

end Progress

/-- Reads a command line. An argument that belongs to nothing is reported last. -/
def Options.ofArguments (args : List String) : Except Stop Options := do
  let arguments ← (Argument.classifyAll (args.map String.toList)).mapError Stop.usage
  let p ← Progress.read {} arguments
  if p.extras = [] then return p.options
  else throw (.usage (.unrecognized p.extras))

end PageCache.CommandLine
