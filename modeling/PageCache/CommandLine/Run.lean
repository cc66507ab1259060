import PageCache.CommandLine.Usage
import PageCache.Listing.Basic
import PageCache.Probe.Basic
import PageCache.ProcessMap
import PageCache.Settings
/-!
A run of the command line: probe each file in turn, say which were skipped and why, and list the rest.
-/

namespace PageCache.CommandLine

inductive Ending where
  | returned (status : Nat)
  | exited (status : Nat)
  | escaped (fault : Fault)
  deriving DecidableEq

structure Transcript where
  stdout : String := ""
  stderr : String := ""
  ending : Ending
  deriving DecidableEq

def statusOk : Nat := 0

def statusSkipped : Nat := 1

def statusUsage : Nat := 2

def Stop.transcript : Stop → Transcript
  | .help => { stdout := CommandLine.help, ending := .exited statusOk }
  | .usage e => { stderr := refusal e, ending := .exited statusUsage }

def Value.process : Value → Process
  | .blank => .blank
  | .integer n => .numbered n

def pathsOf (o : Options) : ExceptT Fault (StateM Machine) (List String) :=
  match o.pid with
  | none => return o.files
  | some pid => return o.files ++ (← ProcessMap.filesOf ProcessMap.defaultRoot pid.process)

/-- What the probes of some paths came to, up to a fault that ends the run. -/
structure Findings where
  outcomes : List (String × Except Failure Record) := []
  fault : Option Fault := none

namespace Findings

def add (f : Findings) (path : String) (outcome : Except Failure Record) : Findings :=
  { f with outcomes := (path, outcome) :: f.outcomes }

def records (f : Findings) : List Record := f.outcomes.filterMap fun o => o.2.toOption

def skipLine (path : String) (failure : Failure) : String :=
  "skipping " ++ Text.quote path ++ ": " ++ failure.message ++ "\n"

def skipLines (f : Findings) : List String :=
  f.outcomes.filterMap fun o =>
    match o.2 with
    | .error failure => some (skipLine o.1 failure)
    | .ok _ => none

end Findings

def probeAll (filter : Filter) : List String → StateM Session Findings
  | [] => return {}
  | path :: rest => do
    match ← (Session.probe filter path).run with
    | .ok record => return (← probeAll filter rest).add path (.ok record)
    | .error (.failure failure) => return (← probeAll filter rest).add path (.error failure)
    | .error (.fault fault) => return { fault := some fault }

def levelOf : (verbosity : Nat) → Option Level
  | 0 => none
  | 1 => some .info
  | _ => some .debug

def logLines (verbosity : Nat) (log : Option Log) : List String :=
  match levelOf verbosity, log with
  | some level, some log => (log.select { level := some level }).map fun e => e.text ++ "\n"
  | _, _ => []

def formatOf (o : Options) (s : Settings) : Listing.Format :=
  if o.json then .json else if o.terse then .terse else s.format

/-- The option wins over the setting. -/
def limitOf (o : Options) (s : Settings) : Option Value := o.maxSize.or (s.maxSize.map fun n => .integer n)

def filterOf (o : Options) (s : Settings) : Except Fault Filter :=
  match limitOf o s with
  | none => Filter.ofOptions o.regularOnly none
  | some (.integer limit) => Filter.ofOptions o.regularOnly (some limit)
  | some .blank => .error .blankLimit

/-- What is listed: nothing if there are no records, unless an array has to be. -/
def listing (o : Options) (format : Listing.Format) (records : List Record) : Except Fault String := do
  let shown := if o.bname then records.map Record.withBasename else records
  if shown = [] ∧ format ≠ .json then return ""
  return (← Listing.render format shown !o.nohdr) ++ "\n"

def report (o : Options) (format : Listing.Format) (log : Option Log) (f : Findings) : Transcript :=
  let skipped := String.join f.skipLines
  match f.fault with
  | some fault => { stderr := skipped, ending := .escaped fault }
  | none =>
    let stderr := skipped ++ String.join (logLines o.verbosity log)
    match listing o format f.records with
    | .error fault => { stderr := stderr, ending := .escaped fault }
    | .ok stdout =>
      { stdout, stderr, ending := .returned (if f.skipLines = [] then statusOk else statusSkipped) }

def probeFiles (o : Options) (settings : Settings) (paths : List String) : StateM Session Transcript := do
  match filterOf o settings with
  | .error .blankLimit => return { ending := .escaped .blankLimit }
  | .error fault => return { stderr := complaint fault.message, ending := .returned statusUsage }
  | .ok filter =>
    let findings ← probeAll filter paths
    return report o (formatOf o settings) (← get).prober.log findings

def runOptions (o : Options) : StateM Session Transcript := do
  match Settings.ofEnvironment (← get).machine.environment with
  | .error e => return { stderr := complaint e.message, ending := .returned statusUsage }
  | .ok settings =>
    match ← Session.onMachine (pathsOf o).run with
    | .error (.unreadableMap process e) =>
      return { stderr := complaint (Fault.unreadableMap process e).message, ending := .returned statusSkipped }
    | .error fault => return { ending := .escaped fault }
    | .ok [] => return { stderr := usage ++ complaint "no files to probe", ending := .returned statusUsage }
    | .ok paths => probeFiles o settings paths

def run (args : List String) : StateM Session Transcript :=
  match Options.ofArguments args with
  | .error stop => return stop.transcript
  | .ok options => runOptions options

end PageCache.CommandLine
