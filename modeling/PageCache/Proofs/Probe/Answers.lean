import Mathlib.Data.List.TakeWhile
import PageCache.Probe.Basic
import PageCache.Proofs.DeviceSize
import PageCache.Proofs.Filter
import PageCache.Proofs.Residency

/-! The course of a probe, read off the answers that the machine, the filter and the prober have for
it. Each step is answered on its own; the first step that goes wrong is the last one that is
taken. -/

namespace PageCache

open Sequencing

inductive Step where
  | opening
  | filter
  | description
  | directory
  | inspection
  | size
  | stamp
  | residency
  | conclusion
  deriving DecidableEq

def Step.all : List Step :=
  [.opening, .filter, .description, .directory, .inspection, .size, .stamp, .residency, .conclusion]

inductive Mishap where
  | raised (fault : Fault)
  | directory
  deriving DecidableEq

def Mishap.exception : Mishap → Option Fault
  | .raised fault => some fault
  | .directory => none

def raisedBy {α : Type} : Except Fault α → Option Mishap
  | .error fault => some (.raised fault)
  | .ok _ => none

lemma raisedBy_map {α β : Type} (f : α → β) (x : Except Fault α) :
    raisedBy (x.map f) = raisedBy x := by
  cases x <;> rfl

/-- The problem that a step makes of what went wrong, or the fault that it lets through. -/
def Step.handle : Step → Mishap → Except Fault Problem
  | _, .directory => .ok .isDirectory
  | .filter, .raised fault => .ok (.rejected fault)
  | .opening, .raised (.system e) => .ok (.cannotOpen e)
  | .description, .raised (.system e) => .ok (.cannotStat e)
  | .inspection, .raised (.system e) => .ok (.cannotInspect e)
  | .size, .raised (.system e) => .ok (.cannotSize e)
  | .residency, .raised (.system e) => .ok (.cannotQuery e)
  | _, .raised fault => .error fault

structure Answers where
  path : String
  number : Nat
  opening : Option Fault
  trial : Trial
  inspection : Except ErrorCode Metadata
  capacity : Except Fault Int
  capacityCalls : List Call
  timestamp : Option Instant
  residency : Int → Except Fault (Option Report)
  residencyCalls : Int → List Call
  closing : Option ErrorCode

def Session.answers (s : Session) (filter : Filter) (path : String) : Answers :=
  let node := s.machine.fileAt path
  { path
    number := s.machine.nextDescriptor
    opening := s.machine.openingFault path
    trial := filter.trial s.machine.nextDescriptor node.described
    inspection := node.named
    capacity := s.prober.deviceSize.answer s.machine
    capacityCalls := s.prober.deviceSize.calls s.machine s.machine.nextDescriptor
    timestamp := s.machine.clock.head
    residency := s.prober.residency.answer s.machine.memory node.core s.machine.platform.name
    residencyCalls := s.prober.residency.calls s.machine.memory node.core s.machine.nextDescriptor
    closing := node.closeFault }

namespace Answers

variable (a : Answers)

def metadata : Except Fault Metadata := Filter.described a.trial.left

def kind : Except Fault FileKind := a.metadata >>= Metadata.kind

def namedKind : Except Fault FileKind :=
  (a.inspection.mapError fun code => .system (.onPath code a.path)) >>= Metadata.kind

def size : Except Fault Int := do
  let metadata ← a.metadata
  if (← a.namedKind) = .block then a.capacity else return metadata.size

def mtime : Except Fault Instant := do (← a.metadata).mtime.toInstant.mapError Fault.ofTime

def report : Except Fault (Option Report) := a.size >>= a.residency

def draft : Record := { name := a.path }

def measured : Except Fault Record := do
  let size ← a.size
  Numeral.checkWritable size
  return { a.draft with size := size }

def stamped : Except Fault Record := do
  return { ← a.measured with timestamp := a.timestamp, mtime := some (← a.mtime) }

def record : Except Fault Record := do
  let record ← (← a.stamped).merge (← a.report)
  Numeral.checkWritable record.cached
  Numeral.checkWritable record.pages
  return record

/-- What goes wrong at a step. Behind a step that goes wrong this means nothing: there is no such
step then. -/
def mishap : Step → Option Mishap
  | .opening => a.opening.map .raised
  | .filter => raisedBy a.trial.verdict
  | .description => raisedBy a.metadata
  | .directory => if a.kind.toOption = some .directory then some .directory else raisedBy a.kind
  | .inspection => raisedBy a.namedKind
  | .size => raisedBy a.measured
  | .stamp => raisedBy a.mtime
  | .residency => raisedBy a.report
  | .conclusion => raisedBy a.record

def stepCalls : Step → List Call
  -- A path that is refused never gets as far as a call.
  | .opening => if a.opening = some .embeddedNull then [] else [.open a.path .nonblocking]
  | .filter => a.trial.calls
  | .description => [.fstat a.number]
  | .inspection => [.stat a.path]
  | .size => if a.namedKind.toOption = some .block then a.capacityCalls else []
  | .stamp => [.now]
  | .residency =>
    match a.size with
    | .ok length => a.residencyCalls length
    | .error _ => []
  | .directory | .conclusion => []

def entry (level : Level) (message : String) : Log.Entry :=
  ⟨level, message, Session.logSource, a.path⟩

def stepEntries : Step → List Log.Entry
  | .opening => [a.entry .debug "opened"]
  | .size =>
    match a.size with
    | .ok size => [a.entry .debug ("size resolved to " ++ Numeral.text size ++ " bytes")]
    | .error _ => []
  | .residency => if a.report.toOption = some none then [a.entry .debug "nothing to probe"] else []
  | .conclusion =>
    match a.record with
    | .ok r =>
      [a.entry .info (Numeral.text r.cached ++ "/" ++ Numeral.text r.pages ++ " pages cached (" ++
        String.ofList (r.percent.fixed 0) ++ "%)")]
    | .error _ => []
  | _ => []

/-- The record as far as it is built when a step goes wrong. -/
def built : Step → Record
  | .residency => a.stamped.toOption.getD a.draft
  | _ => a.draft

def abort (k : Step) (x : Mishap) : Abort :=
  match k.handle x with
  | .ok p => .failure (.ofProblem p (a.built k))
  | .error f => .fault f

def warning (k : Step) (x : Mishap) : List Log.Entry :=
  match k.handle x with
  | .ok p => [a.entry .warning (p.stage.name ++ " failed: " ++ p.message a.path)]
  | .error _ => []

def passed : List Step := Step.all.takeWhile fun k => (a.mishap k).isNone

def failing? : Option (Step × Mishap) :=
  Step.all.findSome? fun k => (a.mishap k).map fun x => (k, x)

def taken : List Step := a.passed ++ (a.failing?.map Prod.fst).toList

/-- What came of a probe when its descriptor is about to be closed. -/
def ended : Except Abort Record :=
  match a.failing? with
  | some (k, x) => .error (a.abort k x)
  | none => a.record.mapError .fault

def outcome : Except Abort Record :=
  match a.opening, a.closing with
  | none, some code => .error (.fault (.system (.plain code)))
  | _, _ => a.ended

def calls : List Call :=
  a.taken.flatMap a.stepCalls ++ if a.opening = none then [.close a.number] else []

def entries : List Log.Entry :=
  a.passed.flatMap a.stepEntries ++ (a.failing?.map fun (k, x) => a.warning k x).getD []

lemma measured_eq : a.measured = a.size >>= fun size => Numeral.checkWritable size >>= fun _ =>
    .ok { a.draft with size := size } := rfl

lemma stamped_eq : a.stamped = a.measured >>= fun record => a.mtime >>= fun mtime =>
    .ok { record with timestamp := a.timestamp, mtime := some mtime } := rfl

lemma measured_ok {record : Record} (h : a.measured = .ok record) :
    a.size = .ok record.size ∧ record = { a.draft with size := record.size } := by
  rw [measured_eq] at h
  cases hsize : a.size with
  | error f => simp [hsize, error_bind] at h
  | ok size =>
    rw [hsize, ok_bind] at h
    cases hwritable : Numeral.checkWritable size with
    | error f => simp [hwritable, error_bind] at h
    | ok _ =>
      rw [hwritable, ok_bind, Except.ok.injEq] at h
      subst h
      exact ⟨rfl, rfl⟩

lemma stamped_ok {record : Record} (h : a.stamped = .ok record) :
    a.size = .ok record.size ∧ ∃ mtime, a.mtime = .ok mtime ∧
      record =
        { a.draft with size := record.size, timestamp := a.timestamp, mtime := some mtime } := by
  rw [stamped_eq] at h
  cases hmeasured : a.measured with
  | error f => simp [hmeasured, error_bind] at h
  | ok measured =>
    rw [hmeasured, ok_bind] at h
    obtain ⟨hsize, hrecord⟩ := a.measured_ok hmeasured
    cases hmtime : a.mtime with
    | error f => simp [hmtime, error_bind] at h
    | ok mtime =>
      rw [hmtime, ok_bind, Except.ok.injEq] at h
      subst h
      refine ⟨hsize, mtime, rfl, ?_⟩
      rw [hrecord]

lemma mtime_eq {metadata : Metadata} (h : a.metadata = .ok metadata) :
    a.mtime = metadata.mtime.toInstant.mapError Fault.ofTime := by
  rw [mtime, h, ok_bind]

lemma record_eq {record : Record} {report : Option Report} (hstamped : a.stamped = .ok record)
    (hreport : a.report = .ok report) :
    a.record = record.merge report >>= fun r => Numeral.checkWritable r.cached >>= fun _ =>
      Numeral.checkWritable r.pages >>= fun _ => .ok r := by
  rw [Answers.record, hstamped, hreport]
  rfl

lemma stamped_name {record : Record} (h : a.stamped = .ok record) : record.name = a.path := by
  obtain ⟨_, mtime, _, hrecord⟩ := a.stamped_ok h
  rw [hrecord]
  rfl

lemma built_of_stamped {record : Record} (h : a.stamped = .ok record) :
    a.built .residency = record := by
  rw [built, h]
  rfl

lemma built_name (k : Step) : (a.built k).name = a.path := by
  cases k with
  | residency =>
    simp only [built]
    cases h : a.stamped with
    | error _ => rfl
    | ok record => exact a.stamped_name h
  | _ => rfl

def Clears (ks : List Step) : Prop := ∀ k ∈ ks, a.mishap k = none

lemma Clears.concat {a : Answers} {ks : List Step} {k : Step} (hks : a.Clears ks)
    (hk : a.mishap k = none) :
    a.Clears (ks ++ [k]) := by
  intro j hj
  rcases List.mem_append.1 hj with hj | hj
  · exact hks j hj
  · rw [List.mem_singleton.1 hj, hk]

lemma failing?_eq {before behind : List Step} {k : Step} {x : Mishap}
    (hall : Step.all = before ++ k :: behind)
    (hbefore : a.Clears before) (hk : a.mishap k = some x) :
    a.failing? = some (k, x) ∧ a.passed = before := by
  have skipped : before.findSome? (fun j => (a.mishap j).map fun x => (j, x)) = none := by
    rw [List.findSome?_eq_none_iff]
    intro j hj
    rw [hbefore j hj, Option.map_none]
  constructor
  · rw [failing?, hall, List.findSome?_append, skipped, List.findSome?_cons, hk]
    rfl
  · rw [passed, hall, List.takeWhile_append_of_pos, List.takeWhile_cons_of_neg, List.append_nil]
    · simp [hk]
    · intro j hj
      rw [hbefore j hj]
      rfl

lemma failing?_eq_none (h : a.Clears Step.all) : a.failing? = none ∧ a.passed = Step.all := by
  constructor
  · rw [failing?, List.findSome?_eq_none_iff]
    intro k hk
    rw [h k hk, Option.map_none]
  · rw [passed, List.takeWhile_eq_self_iff]
    intro k hk
    rw [h k hk]
    rfl

lemma ended_of_outcome {r : Except Abort Record} (h : a.outcome = r)
    (hr : ∀ f, r ≠ .error (.fault f)) : a.ended = r := by
  rw [outcome] at h
  split at h
  · exact absurd h.symm (hr _)
  · exact h

lemma failing?_of_refused {f : Fault} (h : a.opening = some f) :
    a.failing? = some (.opening, .raised f) ∧ a.passed = [] := by
  apply a.failing?_eq rfl (fun _ hk => absurd hk List.not_mem_nil)
  rw [mishap, h]
  rfl

lemma calls_of_refused {f : Fault} (h : a.opening = some f) :
    a.calls = if f = .embeddedNull then [] else [.open a.path .nonblocking] := by
  obtain ⟨hfailing, hpassed⟩ := a.failing?_of_refused h
  rw [calls, taken, hfailing, hpassed, h, if_neg (by simp), List.append_nil]
  simp [stepCalls, h]

lemma stepCalls_opening (h : a.opening = none) : a.stepCalls .opening = [.open a.path .nonblocking] := by
  rw [stepCalls, h, if_neg (by simp)]

end Answers

namespace Session

/-- The calls that a step of a probe can make. -/
inductive Makes (s : Session) (filter : Filter) (path : String) : Step → Call → Prop
  | opening : Makes s filter path .opening (.open path .nonblocking)
  | test : Makes s filter path .filter (.fstat s.machine.nextDescriptor)
  | hook (label : String) : Makes s filter path .filter (.hook s.machine.nextDescriptor label)
  | description : Makes s filter path .description (.fstat s.machine.nextDescriptor)
  | inspection : Makes s filter path .inspection (.stat path)
  | request {request size : Nat} (h : (s.answers filter path).namedKind.toOption = some .block) :
      Makes s filter path .size (.ioctl s.machine.nextDescriptor request size)
  | capacity (h : (s.answers filter path).namedKind.toOption = some .block) :
      Makes s filter path .size (.capacity s.machine.nextDescriptor)
  | stamp : Makes s filter path .stamp .now
  | mmap {length : Int} (h : (s.answers filter path).size = .ok length) :
      Makes s filter path .residency (.mmap s.machine.nextDescriptor length)
  | mincore {length : Int} {pages : Nat} (h : (s.answers filter path).size = .ok length) :
      Makes s filter path .residency (.mincore length pages)
  | munmap {length : Int} (h : (s.answers filter path).size = .ok length) :
      Makes s filter path .residency (.munmap length)
  | residency {length : Int} (h : (s.answers filter path).size = .ok length) :
      Makes s filter path .residency (.residency s.machine.nextDescriptor length)

lemma makes_of_mem {s : Session} {filter : Filter} {path : String} {k : Step} {c : Call}
    (h : c ∈ (s.answers filter path).stepCalls k) : s.Makes filter path k c := by
  cases k with
  | opening =>
    rw [Answers.stepCalls] at h
    split at h
    · cases h
    · obtain rfl := List.mem_singleton.1 h
      exact .opening
  | filter =>
    obtain rfl | ⟨label, rfl⟩ := Filter.made_of_mem_trial _ filter _ c h
    · exact .test
    · exact .hook label
  | description =>
    obtain rfl := List.mem_singleton.1 h
    exact .description
  | inspection =>
    obtain rfl := List.mem_singleton.1 h
    exact .inspection
  | size =>
    rw [Answers.stepCalls] at h
    split at h
    · rename_i hblock
      obtain ⟨request, size, rfl⟩ | rfl := DeviceSize.mem_calls h
      · exact .request hblock
      · exact .capacity hblock
    · cases h
  | stamp =>
    obtain rfl := List.mem_singleton.1 h
    exact .stamp
  | residency =>
    rw [Answers.stepCalls] at h
    split at h
    · rename_i length hsize
      obtain rfl | ⟨pages, rfl⟩ | rfl | rfl := Residency.mem_calls h
      · exact .mmap hsize
      · exact .mincore hsize
      · exact .munmap hsize
      · exact .residency hsize
    · cases h
  | directory => cases h
  | conclusion => cases h

end Session

/-- A file that can be opened, and answers with the same metadata whenever it is asked. -/
def Node.holding (m : Metadata) : Node where
  openFault := none
  described := ⟨.ok m, []⟩
  named := .ok m
  closeFault := none
  core := {}

lemma Machine.number_lt_of_none : ∀ d ∈ ([] : List Descriptor), d.number < 3 := by simp

def Session.onFile (node : Node) : Session where
  machine :=
    { files := [("f", node)]
      platform := ⟨"linux", "posix"⟩
      clock := ⟨some .epoch, []⟩
      memory := 0x800000000
      number_lt := Machine.number_lt_of_none }
  prober := .ofPlatform ⟨"linux", "posix"⟩ true

end PageCache
