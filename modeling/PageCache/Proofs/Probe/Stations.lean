import PageCache.Proofs.Probe.Answers

/-! The machines between the calls of a probe, and what each call answers on the machine that the
one before left. -/

namespace PageCache

open Sequencing Machine

namespace Session

variable (s : Session) (filter : Filter) (path : String)

/-- The file as the filter leaves it to the probe. -/
def leftFile : Node :=
  { s.machine.fileAt path with described := (s.answers filter path).trial.left }

def opened : Machine :=
  (s.machine.attach (s.machine.fileAt path)).noting [.open path .nonblocking]

def accepted : Machine :=
  (s.machine.attach (s.leftFile filter path)).noting
    ([.open path .nonblocking] ++ (s.answers filter path).trial.calls)

def described : Machine :=
  (s.machine.attach (s.leftFile filter path).advance).noting
    ([.open path .nonblocking] ++ (s.answers filter path).trial.calls ++
      [.fstat s.machine.nextDescriptor])

def inspected : Machine := (s.described filter path).noting [.stat path]

def sized : Machine :=
  (s.inspected filter path).noting ((s.answers filter path).stepCalls .size)

def ready : Machine := (s.sized filter path).ticked.noting [.now]

def queried : Machine :=
  (s.ready filter path).noting ((s.answers filter path).stepCalls .residency)

lemma run_refused {f : Fault} (h : (s.answers filter path).opening = some f) :
    (openFile path .nonblocking).run.run s.machine =
      (.error f, s.machine.noting (if f = .embeddedNull then [] else [.open path .nonblocking])) :=
  run_openFile_error h

lemma run_opened (h : (s.answers filter path).opening = none) :
    (openFile path .nonblocking).run.run s.machine =
      (.ok s.machine.nextDescriptor, s.opened path) :=
  run_openFile h

lemma run_accepted :
    (filter.run s.machine.nextDescriptor).run.run (s.opened path) =
      ((s.answers filter path).trial.verdict, s.accepted filter path) :=
  Filter.run_trial s.machine filter (s.machine.fileAt path) [.open path .nonblocking]

lemma run_described :
    (fstat s.machine.nextDescriptor).run.run (s.accepted filter path) =
      ((s.answers filter path).trial.left.head.mapError .plain, s.described filter path) := by
  rw [run_fstat, accepted]
  simp only [descriptor?_noting, descriptor?_attach, advance_noting, advance_attach,
    noting_noting, Node.descriptor]
  rfl

lemma run_inspected (h : (s.answers filter path).opening = none) :
    (stat path).run.run (s.described filter path) =
      ((s.answers filter path).inspection.mapError fun code => .system (.onPath code path),
        s.inspected filter path) := by
  have htakes : (s.described filter path).Takes path := (takes_of_openingFault h).1
  rw [run_stat htakes, described, fileAt_noting, fileAt_attach]
  rfl

lemma run_sized (h : (s.answers filter path).namedKind = .ok .block) :
    (s.prober.deviceSize.query s.machine.nextDescriptor).run.run (s.inspected filter path) =
      ((s.answers filter path).capacity, s.sized filter path) := by
  have hcalls : (s.answers filter path).stepCalls .size =
      s.prober.deviceSize.calls s.machine s.machine.nextDescriptor := by
    rw [Answers.stepCalls, h]
    rfl
  rw [sized, hcalls, inspected, described, noting_noting, DeviceSize.run_query_attach,
    noting_noting]
  rfl

lemma sized_eq {kind : FileKind} (h : (s.answers filter path).namedKind = .ok kind)
    (hkind : kind ≠ .block) : s.sized filter path = s.inspected filter path := by
  have hcalls : (s.answers filter path).stepCalls .size = [] := by
    rw [Answers.stepCalls, h, Except.toOption, if_neg fun h => hkind (Option.some.inj h)]
  rw [sized, hcalls, noting_nil]

lemma run_ready :
    now.run (s.sized filter path) = ((s.answers filter path).timestamp, s.ready filter path) := rfl

lemma ready_eq : s.ready filter path =
    (s.machine.ticked.attach (s.leftFile filter path).advance).noting
      ([.open path .nonblocking] ++ (s.answers filter path).trial.calls ++
        [.fstat s.machine.nextDescriptor] ++ [.stat path] ++
          (s.answers filter path).stepCalls .size ++ [.now]) := by
  simp only [ready, sized, inspected, described, noting_noting, ticked_noting]
  rfl

lemma run_queried {size : Int} (h : (s.answers filter path).size = .ok size) :
    (s.prober.residency.query s.machine.nextDescriptor size).run.run (s.ready filter path) =
      ((s.answers filter path).report, s.queried filter path) := by
  have hcalls : (s.answers filter path).stepCalls .residency =
      s.prober.residency.calls s.machine.memory (s.machine.fileAt path).core s.machine.nextDescriptor size := by
    rw [Answers.stepCalls, h]
    rfl
  have hreport : (s.answers filter path).report =
      s.prober.residency.answer s.machine.memory (s.machine.fileAt path).core s.machine.platform.name size := by
    rw [Answers.report, h]
    rfl
  have hrun := Residency.run_query_attach s.machine.ticked size s.prober.residency
    (s.leftFile filter path).advance
  rw [queried, hcalls, hreport, ready_eq, noting_noting]
  exact hrun _

end Session

end PageCache
