import PageCache.Record
/-!
Failures of a probe. A problem is what stopped a stage; a failure reports it with the record as far as it
was built.
-/

namespace PageCache

/-- The stages that can fail, by the names the log has for them. -/
inductive Stage where
  | opening
  | filter
  | stat
  | size
  | residency
  deriving DecidableEq

def Stage.name : Stage → String
  | .opening => "open"
  | .filter => "filter"
  | .stat => "stat"
  | .size => "size"
  | .residency => "residency"

/-- The kinds of failure, by the names that callers see; `general` is the one that covers them all. -/
inductive FailureKind where
  | general
  | opening
  | rejection
  | stat
  | directory
  | deviceSize
  | residency
  deriving DecidableEq

namespace FailureKind

def name : FailureKind → String
  | .general => "ProbeError"
  | .opening => "OpenError"
  | .rejection => "FilterRejection"
  | .stat => "StatError"
  | .directory => "DirectoryError"
  | .deviceSize => "DeviceSizeError"
  | .residency => "ResidencyProbeError"

def all : List FailureKind := [.general, .opening, .rejection, .stat, .directory, .deviceSize, .residency]

def ofName? (s : String) : Option FailureKind := all.find? (·.name == s)

/-- The kinds as which a failure of this kind can be handled, its own first. -/
def kinds : FailureKind → List FailureKind
  | .general => [.general]
  | kind => [kind, .general]

end FailureKind

inductive Problem where
  | cannotOpen (cause : SystemError)
  | rejected (reason : Fault)
  | cannotStat (cause : SystemError)
  | isDirectory
  | cannotInspect (cause : SystemError)
  | cannotSize (cause : SystemError)
  | cannotQuery (cause : SystemError)
  deriving DecidableEq

namespace Problem

def stage : Problem → Stage
  | .cannotOpen _ => .opening
  | .rejected _ => .filter
  | .cannotStat _ | .isDirectory => .stat
  | .cannotInspect _ | .cannotSize _ => .size
  | .cannotQuery _ => .residency

def kind : Problem → FailureKind
  | .cannotOpen _ => .opening
  | .rejected _ => .rejection
  | .cannotStat _ | .cannotInspect _ => .stat
  | .isDirectory => .directory
  | .cannotSize _ => .deviceSize
  | .cannotQuery _ => .residency

def cause : Problem → Option Fault
  | .rejected reason => some reason
  | .isDirectory => none
  | .cannotOpen e | .cannotStat e | .cannotInspect e | .cannotSize e | .cannotQuery e => some (.system e)

def reason : Problem → Option Fault
  | .rejected reason => some reason
  | _ => none

def message (path : String) : Problem → String
  | .cannotOpen e => "could not open file for read: " ++ e.message
  | .rejected reason => "rejected by filter: " ++ reason.message
  | .cannotStat e => "could not stat file: " ++ e.message
  | .isDirectory => "file is a directory"
  | .cannotInspect e => "could not inspect " ++ Text.quote path ++ ": " ++ e.message
  | .cannotSize e => "could not query block device size of " ++ Text.quote path ++ ": " ++ e.message
  | .cannotQuery e => "residency query failed: " ++ e.message

end Problem

structure Failure where
  kind : FailureKind
  message : String
  path : String
  status : Option Record := none
  reason : Option Fault := none
  cause : Option Fault := none
  deriving DecidableEq

namespace Failure

def ofProblem (p : Problem) (record : Record) : Failure where
  kind := p.kind
  message := p.message record.name
  path := record.name
  status := some record
  reason := p.reason
  cause := p.cause

end Failure

end PageCache
