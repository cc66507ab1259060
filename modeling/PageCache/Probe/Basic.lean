import PageCache.Binary64.Decimal
import PageCache.DeviceSize
import PageCache.Filter
import PageCache.Log
import PageCache.Probe.Failure
import PageCache.Residency
/-!
The probe: open the file, run the filter, resolve the size, take the time, ask for the resident pages, and
fill in the record. The first stage that fails ends it, and the descriptor is closed in any case.
-/

namespace PageCache

structure Prober where
  residency : Residency
  deviceSize : DeviceSize
  log : Option Log

def Prober.ofPlatform (p : Platform) (logging : Bool) : Prober where
  residency := .ofPlatform p
  deviceSize := .ofPlatform p
  log := if logging then some {} else none

structure Session where
  machine : Machine
  prober : Prober

/-- How a probe ends without a record: a stage failed, or a fault that no stage answers for. -/
inductive Abort where
  | failure (f : Failure)
  | fault (f : Fault)
  deriving DecidableEq

abbrev Probing := ExceptT Abort (StateM Session)

namespace Session

def onMachine {α : Type} (x : StateM Machine α) : StateM Session α :=
  modifyGet fun s => let (a, m) := x.run s.machine; (a, { s with machine := m })

def logSource : String := "probe"

def write (level : Level) (message path : String) : StateM Session Unit :=
  modify fun s => { s with prober.log := s.prober.log.map (·.add ⟨level, message, logSource, path⟩) }

def fail {α : Type} (record : Record) (p : Problem) : Probing α := do
  let failure := Failure.ofProblem p record
  write .warning (p.stage.name ++ " failed: " ++ failure.message) record.name
  throw (.failure failure)

/-- A system error becomes the problem of its stage; no stage answers for other faults. -/
def failWith {α : Type} (record : Record) (problem : SystemError → Problem) : Fault → Probing α
  | .system e => fail record (problem e)
  | f => throw (.fault f)

def stage {α ε : Type} (x : ExceptT ε (StateM Machine) α) (onError : ε → Probing α) : Probing α := do
  match ← (onMachine x.run : StateM Session (Except ε α)) with
  | .ok a => return a
  | .error e => onError e

def require {α : Type} (x : Except Fault α) : Probing α := liftExcept (x.mapError Abort.fault)

def queryDeviceSize (number : Nat) (record : Record) : Probing Int := do
  let deviceSize := (← get).prober.deviceSize
  modify fun s => { s with prober.deviceSize := deviceSize.next }
  stage (deviceSize.query number) (failWith record .cannotSize)

def queryResidency (number : Nat) (record : Record) : Probing (Option Report) := do
  let residency := (← get).prober.residency
  modify fun s => { s with prober.residency := residency.next }
  stage (residency.query number record.size) (failWith record .cannotQuery)

def accept (number : Nat) (filter : Filter) (record : Record) : Probing Unit :=
  stage (filter.run number) fun f => fail record (.rejected f)

def describe (number : Nat) (record : Record) : Probing Metadata :=
  stage (Machine.fstat number) fun e => fail record (.cannotStat e)

def refuseDirectory (metadata : Metadata) (record : Record) : Probing Unit := do
  if (← require metadata.kind) = .directory then fail record .isDirectory

def lookUpKind (record : Record) : Probing FileKind := do
  let named ← stage (Machine.stat record.name) (failWith record .cannotInspect)
  require named.kind

/-- The number of bytes to probe: a block device is asked, any other file has its own size. -/
def resolveSize (number : Nat) (metadata : Metadata) (kind : FileKind) (record : Record) : Probing Int :=
  if kind = .block then queryDeviceSize number record else return metadata.size

def measure (number : Nat) (metadata : Metadata) (kind : FileKind) (record : Record) : Probing Record := do
  let size ← resolveSize number metadata kind record
  require (Numeral.checkWritable size)
  write .debug ("size resolved to " ++ Numeral.text size ++ " bytes") record.name
  return { record with size := size }

def stamp (metadata : Metadata) (record : Record) : Probing Record := do
  let timestamp ← (onMachine Machine.now : StateM Session (Option Instant))
  let mtime ← require (metadata.mtime.toInstant.mapError Fault.ofTime)
  return { record with timestamp := timestamp, mtime := some mtime }

def inspect (number : Nat) (record : Record) : Probing (Option Report) := do
  let report ← queryResidency number record
  if report.isNone then write .debug "nothing to probe" record.name
  return report

def conclude (record : Record) (report : Option Report) : Probing Record := do
  let record ← require (record.merge report)
  require (Numeral.checkWritable record.cached)
  require (Numeral.checkWritable record.pages)
  write .info (Numeral.text record.cached ++ "/" ++ Numeral.text record.pages ++ " pages cached (" ++
    String.ofList (record.percent.fixed 0) ++ "%)") record.name
  return record

def probeOpen (number : Nat) (filter : Filter) (record : Record) : Probing Record := do
  write .debug "opened" record.name
  accept number filter record
  let metadata ← describe number record
  refuseDirectory metadata record
  let kind ← lookUpKind record
  let record ← measure number metadata kind record
  let record ← stamp metadata record
  let report ← inspect number record
  conclude record report

/-- Closes the descriptor behind `x`; an error of closing stands in for what came of `x`. -/
def closing {α : Type} (number : Nat) (x : Probing α) : Probing α := ExceptT.mk do
  let outcome ← x.run
  match ← onMachine (Machine.close number).run with
  | .error e => return .error (.fault (.system e))
  | .ok () => return outcome

def probe (filter : Filter) (path : String) : Probing Record := do
  let record : Record := { name := path }
  let number ← stage (Machine.openFile path .nonblocking) (failWith record .cannotOpen)
  closing number (probeOpen number filter record)

end Session

end PageCache
