import PageCache.Proofs.Probe.Course

/-! Probes that do not see each other. Where providers and clock answer the same ever after, what a
probe comes to is told by the files alone: not by the probes before it, nor by the log. -/

namespace PageCache

open Sequencing

/-- The same call, if it is on a descriptor, on the one with this number. -/
def Call.onDescriptor (number : Nat) : Call → Call
  | .fstat _ => .fstat number
  | .close _ => .close number
  | .ioctl _ request size => .ioctl number request size
  | .mmap _ length => .mmap number length
  | .residency _ length => .residency number length
  | .capacity _ => .capacity number
  | .hook _ label => .hook number label
  | .open path access => .open path access
  | .stat path => .stat path
  | .now => .now
  | .mincore length pages => .mincore length pages
  | .munmap length => .munmap length
  | .read path => .read path

def Trial.onDescriptor (number : Nat) (t : Trial) : Trial :=
  { t with calls := t.calls.map (·.onDescriptor number) }

lemma Trial.followedBy_onDescriptor (number : Nat) (first : Trial)
    (next : Script (Except ErrorCode Metadata) → Trial) :
    (first.onDescriptor number).followedBy (fun left => (next left).onDescriptor number) =
      (first.followedBy next).onDescriptor number := by
  rcases first with ⟨calls, left, fault | ⟨⟩⟩
  · rfl
  · simp only [followedBy, onDescriptor, List.map_append]

namespace Filter

variable (number other : Nat)

mutual

theorem trial_eq : ∀ (f : Filter) (script : Script (Except ErrorCode Metadata)),
    f.trial other script = (f.trial number script).onDescriptor other
  | .allowAll, _ | .regularOnly, _ | .maxSize _, _ | .mark _, _ | .reject _, _ => rfl
  | .chain filters, script => by
    rw [trial, trial]
    exact trialAll_eq filters script

theorem trialAll_eq : ∀ (fs : List Filter) (script : Script (Except ErrorCode Metadata)),
    trialAll other fs script = (trialAll number fs script).onDescriptor other
  | [], _ => rfl
  | f :: rest, script => by
    rw [trialAll, trialAll, trial_eq f script, ← Trial.followedBy_onDescriptor]
    exact congrArg _ (funext (trialAll_eq rest))

end

end Filter

lemma DeviceSize.calls_onDescriptor (d : DeviceSize) (m : Machine) (number other : Nat) :
    d.calls m other = (d.calls m number).map (·.onDescriptor other) := by
  cases d with
  | darwin =>
    rw [calls, calls]
    split <;> rfl
  | _ => rfl

lemma Residency.calls_onDescriptor (r : Residency) (memory : Int) (core : Core)
    (number other : Nat) (length : Int) :
    r.calls memory core other length =
      (r.calls memory core number length).map (·.onDescriptor other) := by
  cases r with
  | mincore pageSize =>
    rw [calls, calls]
    split
    · rfl
    · split
      · rfl
      · rw [inspectionCalls]
        split <;> rfl
  | _ => rfl

namespace Answers

def onDescriptor (number : Nat) (a : Answers) : Answers :=
  { a with
    number
    trial := a.trial.onDescriptor number
    capacityCalls := a.capacityCalls.map (·.onDescriptor number)
    residencyCalls := fun length => (a.residencyCalls length).map (·.onDescriptor number) }

variable (a : Answers) (number : Nat)

lemma opening_onDescriptor : (a.onDescriptor number).opening = a.opening := rfl

lemma outcome_onDescriptor : (a.onDescriptor number).outcome = a.outcome := rfl

lemma namedKind_onDescriptor : (a.onDescriptor number).namedKind = a.namedKind := rfl

lemma size_onDescriptor : (a.onDescriptor number).size = a.size := rfl

lemma stepCalls_onDescriptor (k : Step) :
    (a.onDescriptor number).stepCalls k = (a.stepCalls k).map (·.onDescriptor number) := by
  cases k with
  | opening =>
    rw [stepCalls, stepCalls, opening_onDescriptor]
    split <;> rfl
  | size =>
    rw [stepCalls, stepCalls, namedKind_onDescriptor]
    split <;> rfl
  | residency =>
    rw [stepCalls, stepCalls, size_onDescriptor]
    cases a.size <;> rfl
  | _ => rfl

lemma calls_onDescriptor :
    (a.onDescriptor number).calls = a.calls.map (·.onDescriptor number) := by
  have hsteps : (a.onDescriptor number).taken.flatMap (a.onDescriptor number).stepCalls =
      (a.taken.flatMap a.stepCalls).map (·.onDescriptor number) := by
    rw [List.map_flatMap, funext (a.stepCalls_onDescriptor number)]
    rfl
  rw [calls, calls, List.map_append, hsteps, opening_onDescriptor]
  split <;> rfl

end Answers

namespace Session

/-- Sessions that show a probe the same files and devices, at the same time. They may differ in
their logs, in what is open and in what was called before. -/
structure Alike (s t : Session) : Prop where
  files : t.machine.files = s.machine.files
  platform : t.machine.platform = s.machine.platform
  devices : t.machine.devices = s.machine.devices
  clock : t.machine.clock = s.machine.clock
  memory : t.machine.memory = s.machine.memory
  nullEnded : t.machine.nullEnded = s.machine.nullEnded
  residency : t.prober.residency = s.prober.residency
  deviceSize : t.prober.deviceSize = s.prober.deviceSize

/-- Providers and clock that answer the same however often they are asked. -/
structure Steady (s : Session) : Prop where
  clock : s.machine.clock.advance = s.machine.clock
  residency : s.prober.residency.next = s.prober.residency
  deviceSize : s.prober.deviceSize.next = s.prober.deviceSize

def outcomes (s : Session) (filter : Filter) (paths : List String) : List (Except Abort Record) :=
  ((paths.mapM fun path => (probe filter path).run).run s).1

def behind (s : Session) (visits : List (Filter × String)) : Session :=
  ((visits.mapM fun visit => (probe visit.1 visit.2).run).run s).2

def loggingTo (s : Session) (log : Option Log) : Session :=
  { s with prober.log := log }

variable {s t u : Session} {filter : Filter} {path : String}

lemma Alike.refl (s : Session) : s.Alike s := ⟨rfl, rfl, rfl, rfl, rfl, rfl, rfl, rfl⟩

lemma Alike.trans (h : s.Alike t) (hu : t.Alike u) : s.Alike u where
  files := hu.files.trans h.files
  platform := hu.platform.trans h.platform
  devices := hu.devices.trans h.devices
  clock := hu.clock.trans h.clock
  memory := hu.memory.trans h.memory
  nullEnded := hu.nullEnded.trans h.nullEnded
  residency := hu.residency.trans h.residency
  deviceSize := hu.deviceSize.trans h.deviceSize

lemma Alike.steady (h : s.Alike t) (hs : s.Steady) : t.Steady where
  clock := by rw [h.clock, hs.clock]
  residency := by rw [h.residency, hs.residency]
  deviceSize := by rw [h.deviceSize, hs.deviceSize]

lemma Alike.answers_eq (h : s.Alike t) (filter : Filter) (path : String) :
    t.answers filter path =
      (s.answers filter path).onDescriptor t.machine.nextDescriptor := by
  have hfile : t.machine.fileAt path = s.machine.fileAt path := by
    rw [Machine.fileAt, Machine.fileAt, h.files]
  have hopening := Machine.openingFault_congr h.files h.nullEnded path
  have hdevice : ∀ request size,
      t.machine.deviceAnswer request size = s.machine.deviceAnswer request size := by
    intro request size
    rw [Machine.deviceAnswer, Machine.deviceAnswer, h.devices]
  have hcapacity : ∀ d : DeviceSize, d.answer t.machine = d.answer s.machine := by
    intro d
    cases d <;> simp only [DeviceSize.answer, hdevice, h.platform]
  have hcapacityCalls : ∀ (d : DeviceSize) number, d.calls t.machine number = d.calls s.machine number := by
    intro d number
    cases d <;> simp only [DeviceSize.calls, hdevice]
  simp only [answers, Answers.onDescriptor, hfile, hopening, hcapacity, hcapacityCalls, h.clock,
    h.platform, h.memory, h.residency, h.deviceSize]
  congr 1
  · exact Filter.trial_eq _ _ _ _
  · exact DeviceSize.calls_onDescriptor _ _ _ _
  · exact funext fun length => Residency.calls_onDescriptor _ _ _ _ _ length

lemma Alike.probe (h : s.Alike t) (filter : Filter) (path : String) :
    ((probe filter path).run.run t).1 = ((probe filter path).run.run s).1 ∧
      ∃ calls, ((probe filter path).run.run s).2.machine.calls = s.machine.calls ++ calls ∧
        ((probe filter path).run.run t).2.machine.calls =
          t.machine.calls ++ calls.map (·.onDescriptor t.machine.nextDescriptor) := by
  rw [run_probe, run_probe, h.answers_eq, Answers.outcome_onDescriptor]
  refine ⟨rfl, (s.answers filter path).calls, calls_after s _, ?_⟩
  rw [← h.answers_eq, calls_after, h.answers_eq, Answers.calls_onDescriptor]

namespace Steady

lemma ofPlatform {m : Machine} (hclock : m.clock.Constant) (p : Platform) (logging : Bool) :
    Steady ⟨m, .ofPlatform p logging⟩ where
  clock := Script.advance_of_constant hclock
  residency := by
    change (Residency.ofPlatform p).next = Residency.ofPlatform p
    rw [Residency.ofPlatform]
    split <;> rfl
  deviceSize := by
    change (DeviceSize.ofPlatform p).next = DeviceSize.ofPlatform p
    rw [DeviceSize.ofPlatform]
    split
    · rfl
    · split <;> rfl

lemma drawing_eq (hs : s.Steady) (a : Answers) (k : Step) : s.drawing a k = s := by
  cases k with
  | size =>
    rw [drawing, hs.deviceSize]
    exact ite_self s
  | stamp =>
    rw [drawing, Machine.ticked, hs.clock]
  | residency => rw [drawing, hs.residency]
  | _ => rfl

lemma alike_probe (hs : s.Steady) (filter : Filter) (path : String) :
    s.Alike ((probe filter path).run.run s).2 := by
  have hdrawn : ∀ a (ks : List Step), ks.foldl (·.drawing a ·) s = s := by
    intro a ks
    induction ks with
    | nil => rfl
    | cons k ks ih => rw [List.foldl_cons, hs.drawing_eq, ih]
  rw [run_probe, after, hdrawn]
  split <;> exact ⟨rfl, rfl, rfl, rfl, rfl, rfl, rfl, rfl⟩

lemma alike_behind (hs : s.Steady) (visits : List (Filter × String)) :
    s.Alike (s.behind visits) := by
  induction visits generalizing s with
  | nil => exact .refl s
  | cons visit visits ih =>
    have hfirst := hs.alike_probe visit.1 visit.2
    rw [behind, run_mapM_cons]
    exact hfirst.trans (ih (hfirst.steady hs))

lemma outcomes_eq (hs : s.Steady) (h : s.Alike t) (filter : Filter) (paths : List String) :
    t.outcomes filter paths = paths.map fun path => ((probe filter path).run.run s).1 := by
  -- Each probe leaves a session that shows the next one the same.
  induction paths generalizing t with
  | nil => rfl
  | cons path paths ih =>
    have hnext := h.trans ((h.steady hs).alike_probe filter path)
    rw [outcomes, run_mapM_cons, List.map_cons, ← ih hnext, (h.probe filter path).1]
    rfl

end Steady

theorem probe_independent (hs : s.Steady) :
    (∀ (filter : Filter) (paths later : List String), paths.Perm later →
      s.outcomes filter later = later.map (fun path => ((probe filter path).run.run s).1) ∧
        (paths.zip (s.outcomes filter paths)).Perm (later.zip (s.outcomes filter later))) ∧
      ∀ (visits : List (Filter × String)) (log : Option Log) (filter : Filter) (path : String),
        let t := (s.behind visits).loggingTo log
        ((probe filter path).run.run t).1 = ((probe filter path).run.run s).1 ∧
          ∃ calls, ((probe filter path).run.run s).2.machine.calls = s.machine.calls ++ calls ∧
            ((probe filter path).run.run t).2.machine.calls =
              t.machine.calls ++ calls.map (·.onDescriptor t.machine.nextDescriptor) := by
  constructor
  · intro filter paths later hperm
    have houtcomes := hs.outcomes_eq (.refl s) filter
    refine ⟨houtcomes later, ?_⟩
    rw [houtcomes, houtcomes, ← List.map_prod_left_eq_zip, ← List.map_prod_left_eq_zip]
    exact hperm.map _
  · intro visits log filter path t
    have halike : s.Alike t := { hs.alike_behind visits with }
    exact halike.probe filter path

theorem probe_independent_two_files :
    let s := onFile (.holding ⟨0o100644, 5000, ⟨0, 0⟩⟩)
    let t := (s.behind [(.regularOnly, "f")]).loggingTo none
    let alone : List Call :=
      [.open "f" .nonblocking, .fstat 3, .stat "f", .now, .mmap 3 5000, .mincore 5000 2,
        .munmap 5000, .close 3]
    s.Steady ∧ ["f", "g"].Perm ["g", "f"] ∧
      s.outcomes .allowAll ["g", "f"] = (outcomesOnFile.map (·.mapError .failure)).reverse ∧
      ((probe .allowAll "f").run.run t).2.machine.calls =
        t.machine.calls ++ alone.map (·.onDescriptor t.machine.nextDescriptor) := by
  intro s t alone
  have hclock : s.machine.clock.Constant := rfl
  have hs : s.Steady := .ofPlatform hclock ⟨"linux", "posix"⟩ true
  have hperm : ["f", "g"].Perm ["g", "f"] := .swap "g" "f" []
  have halone : ["g", "f"].map (fun path => ((probe .allowAll path).run.run s).1) =
      (outcomesOnFile.map (·.mapError .failure)).reverse := by
    simp only [run_probe]
    decide +kernel
  have hcalls : ((probe .allowAll "f").run.run s).2.machine.calls = alone := by
    rw [run_probe]
    decide +kernel
  obtain ⟨hlists, hlater⟩ := probe_independent hs
  obtain ⟨-, calls, hfirst, hsecond⟩ := hlater [(.regularOnly, "f")] none .allowAll "f"
  obtain rfl : alone = calls := hcalls.symm.trans hfirst
  refine ⟨hs, hperm, (hlists .allowAll ["f", "g"] ["g", "f"] hperm).1.trans halone, ?_⟩
  unfold t
  exact hsecond

end Session

end PageCache
