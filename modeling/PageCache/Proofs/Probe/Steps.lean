import PageCache.Proofs.Probe.Answers
import PageCache.Proofs.Record

/-! What each step of a probe does to the session, by the answer that there is for it. -/

namespace PageCache

open Sequencing Machine

lemma Numeral.checkWritable_error {n : Int} {f : Fault} (h : checkWritable n = .error f) :
    f = .numeralTooLong := by
  rw [checkWritable] at h
  split at h
  · cases h
  · exact (Except.error.inj h).symm

def Log.adding (log : Log) (entries : List Log.Entry) : Log := ⟨log.entries ++ entries⟩

lemma Log.map_adding_nil (log : Option Log) : log.map (·.adding []) = log := by
  cases log <;> simp only [Option.map_none, Option.map_some, adding, List.append_nil]

namespace Session

def writing (s : Session) (entries : List Log.Entry) : Session :=
  { s with prober.log := s.prober.log.map (·.adding entries) }

/-- While a probe has its descriptor: the session with it, and what the probe has called and
written. -/
def during (s : Session) (node : Node) (calls : List Call) (entries : List Log.Entry) : Session :=
  { s with machine := (s.machine.attach node).noting calls }.writing entries

def past (s : Session) (a : Answers) (node : Node) (ks : List Step) : Session :=
  s.during node (ks.flatMap a.stepCalls) (ks.flatMap a.stepEntries)

def stopped (s : Session) (a : Answers) (node : Node) (ks : List Step) (k : Step) (x : Mishap) :
    Session :=
  s.during node ((ks ++ [k]).flatMap a.stepCalls) (ks.flatMap a.stepEntries ++ a.warning k x)

/-- What a call of a step comes to, before the step writes about it. -/
def answered {α : Type} (s : Session) (a : Answers) (node : Node) (calls : List Call)
    (entries : List Log.Entry)
    (k : Step) : Except Fault α → Except Abort α × Session
  | .ok v => (.ok v, s.during node calls entries)
  | .error f =>
    (.error (a.abort k (.raised f)), s.during node calls (entries ++ a.warning k (.raised f)))

/-- What a step comes to, by its answer. -/
def stepped {α : Type} (s : Session) (a : Answers) (node : Node) (ks : List Step) (k : Step) :
    Except Fault α → Except Abort α × Session
  | .ok v => (.ok v, s.past a node (ks ++ [k]))
  | .error f => (.error (a.abort k (.raised f)), s.stopped a node ks k (.raised f))

/-- The session when a step has its answer: scripts and the clock have moved on. -/
def drawing (s : Session) (a : Answers) : Step → Session
  | .size =>
    if a.namedKind.toOption = some .block then
      { s with prober.deviceSize := s.prober.deviceSize.next }
    else s
  | .stamp => { s with machine := s.machine.ticked }
  | .residency => { s with prober.residency := s.prober.residency.next }
  | _ => s

variable (s : Session) (a : Answers) (node : Node) (calls : List Call) (entries : List Log.Entry)

lemma machine_drawing_size : (s.drawing a .size).machine = s.machine := by
  rw [drawing]
  split <;> rfl

lemma residency_drawing_size : (s.drawing a .size).prober.residency = s.prober.residency := by
  rw [drawing]
  split <;> rfl

/-- Steps draw on the clock and on scripts of the prober; of the machine they leave all but its
clock. -/
lemma machine_drawn (ks : List Step) :
    ∃ clock, (ks.foldl (·.drawing a ·) s).machine = { s.machine with clock := clock } := by
  induction ks generalizing s with
  | nil => exact ⟨s.machine.clock, rfl⟩
  | cons k ks ih =>
    obtain ⟨clock, hclock⟩ := ih (s.drawing a k)
    refine ⟨clock, ?_⟩
    rw [List.foldl_cons, hclock]
    cases k with
    | size => rw [machine_drawing_size]
    | _ => rfl

/-- What no step of a course changes is the same behind it. -/
lemma drawn_eq {α : Type} {f : Session → α} {ks : List Step}
    (h : ∀ k ∈ ks, ∀ t : Session, f (t.drawing a k) = f t) : f (ks.foldl (·.drawing a ·) s) = f s := by
  induction ks generalizing s with
  | nil => rfl
  | cons k ks ih =>
    rw [List.foldl_cons, ih _ fun j hj => h j (List.mem_cons_of_mem k hj), h k List.mem_cons_self]

lemma writing_nil : s.writing [] = s := by rw [writing, Log.map_adding_nil]

lemma writing_during (later : List Log.Entry) :
    (s.during node calls entries).writing later = s.during node calls (entries ++ later) := by
  simp only [during, writing, Option.map_map, Function.comp_def, Log.adding, List.append_assoc]

lemma past_concat (ks : List Step) (k : Step) :
    s.past a node (ks ++ [k]) =
      s.during node (ks.flatMap a.stepCalls ++ a.stepCalls k)
        (ks.flatMap a.stepEntries ++ a.stepEntries k) := by
  simp only [past, List.flatMap_append, List.flatMap_singleton]

lemma stopped_eq (ks : List Step) (k : Step) (x : Mishap) :
    s.stopped a node ks k x =
      s.during node (ks.flatMap a.stepCalls ++ a.stepCalls k)
        (ks.flatMap a.stepEntries ++ a.warning k x) := by
  simp only [stopped, List.flatMap_append, List.flatMap_singleton]

lemma answered_eq_stepped {α : Type} {ks : List Step} {k : Step} (h : a.stepEntries k = [])
    (x : Except Fault α) :
    s.answered a node (ks.flatMap a.stepCalls ++ a.stepCalls k) (ks.flatMap a.stepEntries) k x =
      s.stepped a node ks k x := by
  cases x <;> simp only [answered, stepped, past_concat, stopped_eq, h, List.append_nil]

lemma run_onMachine {α : Type} (x : StateM Machine α) :
    (onMachine x).run s = ((x.run s.machine).1, { s with machine := (x.run s.machine).2 }) := rfl

lemma run_write (level : Level) (message path : String) :
    (write level message path).run s = ((), s.writing [⟨level, message, logSource, path⟩]) := rfl

lemma run_require {α : Type} (x : Except Fault α) :
    (require x).run.run s = (x.mapError .fault, s) :=
  run_liftExcept _ _

section

variable {α ε : Type} {x : ExceptT ε (StateM Machine) α} {after : Node} {callsAfter : List Call}
variable {s node calls}

lemma run_onMachine_during {r : Except ε α}
    (h : x.run.run ((s.machine.attach node).noting calls) =
      (r, (s.machine.attach after).noting callsAfter)) :
    (onMachine x.run).run (s.during node calls entries) =
      (r, s.during after callsAfter entries) := by
  rw [run_onMachine]
  change ((x.run.run ((s.machine.attach node).noting calls)).1,
    { s.during node calls entries with
      machine := (x.run.run ((s.machine.attach node).noting calls)).2 }) = _
  rw [h]
  rfl

lemma run_stage_ok {v : α}
    (h : x.run.run ((s.machine.attach node).noting calls) =
      (.ok v, (s.machine.attach after).noting callsAfter))
    (onError : ε → Probing α) :
    (stage x onError).run.run (s.during node calls entries) =
      (.ok v, s.during after callsAfter entries) := by
  simp only [stage, run_bind, run_lift, run_onMachine_during entries h]
  rfl

lemma run_stage_error {e : ε}
    (h : x.run.run ((s.machine.attach node).noting calls) =
      (.error e, (s.machine.attach after).noting callsAfter))
    (onError : ε → Probing α) :
    (stage x onError).run.run (s.during node calls entries) =
      (onError e).run.run (s.during after callsAfter entries) := by
  simp only [stage, run_bind, run_lift, run_onMachine_during entries h]

end

/-- What the steps do when something went wrong. -/
def giveUp {α : Type} (record : Record) (k : Step) (x : Mishap) : Probing α :=
  match k.handle x with
  | .ok p => fail record p
  | .error f => throw (.fault f)

lemma run_giveUp {α : Type} (k : Step) (x : Mishap) :
    (giveUp (a.built k) k x : Probing α).run.run s =
      (.error (a.abort k x), s.writing (a.warning k x)) := by
  unfold giveUp Answers.abort Answers.warning
  cases k.handle x with
  | error f => simp only [run_throw, writing_nil]
  | ok p =>
    simp only [fail, run_bind, run_lift, run_write, run_throw]
    simp only [Failure.ofProblem, Answers.entry, a.built_name]

section

variable {s a node} {ks : List Step} {k : Step}

lemma run_stage {α ε : Type} {x : ExceptT ε (StateM Machine) α} {value : Except ε α} {after : Node}
    {calls callsAfter : List Call} {onError : ε → Probing α} {answer : Except Fault α}
    (a : Answers) (k : Step)
    (toFault : ε → Fault)
    (hx : x.run.run ((s.machine.attach node).noting calls) =
      (value, (s.machine.attach after).noting callsAfter))
    (hanswer : value.mapError toFault = answer)
    (herror : ∀ e, onError e = giveUp (a.built k) k (.raised (toFault e)))
    (entries : List Log.Entry) :
    (stage x onError).run.run (s.during node calls entries) =
      s.answered a after callsAfter entries k answer := by
  subst hanswer
  cases value with
  | ok v => rw [run_stage_ok _ hx, mapError_ok, answered]
  | error e =>
    rw [run_stage_error _ hx, herror, run_giveUp, writing_during, mapError_error, answered]

lemma run_accept {filter : Filter} (hnumber : a.number = s.machine.nextDescriptor)
    (htrial : a.trial = filter.trial a.number node.described) :
    (accept a.number filter a.draft).run.run (s.past a node ks) =
      s.stepped a { node with described := a.trial.left } ks .filter a.trial.verdict := by
  have hrun := Filter.run_trial s.machine filter node (ks.flatMap a.stepCalls)
  rw [← hnumber, ← htrial] at hrun
  have hanswer : a.trial.verdict.mapError id = a.trial.verdict := by cases a.trial.verdict <;> rfl
  rw [← answered_eq_stepped s a _ rfl]
  exact run_stage a .filter id hrun hanswer (fun _ => rfl) _

lemma run_describe (hnumber : a.number = s.machine.nextDescriptor)
    (hleft : a.trial.left = node.described) :
    (describe a.number a.draft).run.run (s.past a node ks) =
      s.stepped a node.advance ks .description a.metadata := by
  have hrun :=
    run_fstat ((s.machine.attach node).noting (ks.flatMap a.stepCalls)) s.machine.nextDescriptor
  simp only [descriptor?_noting, descriptor?_attach, advance_noting, advance_attach,
    noting_noting] at hrun
  rw [← hnumber] at hrun
  have hanswer : ((node.descriptor a.number).described.head.mapError .plain).mapError .system =
      a.metadata := by
    rw [Answers.metadata, Filter.described, hleft, Node.descriptor]
    cases node.described.head <;> rfl
  rw [← answered_eq_stepped s a _ rfl]
  exact run_stage a .description .system hrun hanswer (fun _ => rfl) _

lemma run_unless_directory (kind : FileKind) (calls : List Call) (entries : List Log.Entry) :
    (if kind = .directory then fail a.draft .isDirectory else pure () : Probing Unit).run.run
        (s.during node calls entries) =
      if kind = .directory then
        (.error (a.abort .directory .directory),
          s.during node calls (entries ++ a.warning .directory .directory))
      else (.ok (), s.during node calls entries) := by
  split
  · rw [← writing_during]
    exact run_giveUp _ a .directory .directory
  · exact run_pure _ _

lemma run_refuseDirectory {metadata : Metadata} (hmetadata : a.metadata = .ok metadata) :
    (refuseDirectory metadata a.draft).run.run (s.past a node ks) =
      match a.mishap .directory with
      | none => (.ok (), s.past a node (ks ++ [.directory]))
      | some x => (.error (a.abort .directory x), s.stopped a node ks .directory x) := by
  have hkind : a.kind = metadata.kind := by rw [Answers.kind, hmetadata, ok_bind]
  simp only [refuseDirectory, run_bind, run_require, Answers.mishap, hkind, past_concat, stopped_eq]
  cases metadata.kind with
  | error f =>
    simp only [mapError_error, Except.toOption, raisedBy, Answers.abort, Answers.warning,
      Step.handle, Answers.stepCalls, List.append_nil, past, reduceCtorEq, if_false]
  | ok kind =>
    simp only [mapError_ok, Except.toOption, Option.some.injEq, past, run_unless_directory]
    by_cases h : kind = .directory
    · simp only [h, if_true, Answers.stepCalls, List.append_nil]
    · simp only [h, if_false, raisedBy, Answers.stepCalls, Answers.stepEntries, List.append_nil]

lemma run_lookUpKind (htakes : s.machine.Takes a.path)
    (hfile : a.inspection = (s.machine.fileAt a.path).named) :
    (lookUpKind a.draft).run.run (s.past a node ks) =
      s.stepped a node ks .inspection a.namedKind := by
  have hopen : ((s.machine.attach node).noting (ks.flatMap a.stepCalls)).Takes a.path := htakes
  have hrun := run_stat hopen
  simp only [noting_noting, fileAt_noting, fileAt_attach, ← hfile] at hrun
  have hanswer : (a.inspection.mapError fun code => Fault.system (.onPath code a.path)).mapError id =
      a.inspection.mapError fun code => .system (.onPath code a.path) := by
    cases a.inspection <;> rfl
  have herror : ∀ f, failWith a.draft .cannotInspect f =
      giveUp (α := Metadata) (a.built .inspection) .inspection (.raised f) := by
    intro f
    cases f <;> rfl
  have hstage := run_stage a .inspection id hrun hanswer herror (ks.flatMap a.stepEntries)
  rw [← answered_eq_stepped s a _ rfl, Answers.namedKind, past]
  cases h : a.inspection with
  | error code =>
    rw [h] at hstage
    exact run_bind_error hstage _
  | ok metadata =>
    rw [h] at hstage
    refine (run_bind_ok hstage _).trans ?_
    rw [run_require]
    simp only [mapError_ok, ok_bind, Metadata.kind]
    cases FileKind.ofMode metadata.mode with
    | error f =>
      simp only [mapError_error, answered, Answers.abort, Answers.warning, Step.handle,
        List.append_nil, Answers.stepCalls]
    | ok kind => rfl

lemma run_queryDeviceSize (hcapacity : a.capacity = s.prober.deviceSize.answer s.machine)
    (hcalls : a.capacityCalls = s.prober.deviceSize.calls s.machine a.number)
    (calls : List Call) (entries : List Log.Entry) :
    (queryDeviceSize a.number a.draft).run.run (s.during node calls entries) =
      { s with prober.deviceSize := s.prober.deviceSize.next }.answered a node
        (calls ++ a.capacityCalls) entries .size a.capacity := by
  have hrun := DeviceSize.run_query_attach s.prober.deviceSize s.machine node calls a.number
  rw [← hcapacity, ← hcalls] at hrun
  have hanswer : a.capacity.mapError id = a.capacity := by cases a.capacity <;> rfl
  have herror : ∀ f, failWith a.draft .cannotSize f =
      giveUp (α := Int) (a.built .size) .size (.raised f) := by
    intro f
    cases f <;> rfl
  simp only [queryDeviceSize, run_bind, run_get, run_modify]
  exact run_stage (s := { s with prober.deviceSize := s.prober.deviceSize.next }) a .size id hrun
    hanswer herror entries

lemma run_resolveSize {metadata : Metadata} {kind : FileKind}
    (hmetadata : a.metadata = .ok metadata)
    (hkind : a.namedKind = .ok kind) (hcapacity : a.capacity = s.prober.deviceSize.answer s.machine)
    (hcalls : a.capacityCalls = s.prober.deviceSize.calls s.machine a.number) :
    (resolveSize a.number metadata kind a.draft).run.run (s.past a node ks) =
      (s.drawing a .size).answered a node (ks.flatMap a.stepCalls ++ a.stepCalls .size)
        (ks.flatMap a.stepEntries) .size a.size := by
  have hsize : a.size = if kind = .block then a.capacity else .ok metadata.size := by
    rw [Answers.size, hmetadata, hkind]
    rfl
  simp only [resolveSize, hsize, drawing, Answers.stepCalls, hkind, Except.toOption,
    Option.some.injEq]
  by_cases h : kind = .block
  · simp only [h, if_true]
    exact run_queryDeviceSize hcapacity hcalls _ _
  · simp only [h, if_false, List.append_nil]
    rfl

lemma run_measure {metadata : Metadata} {kind : FileKind} (hmetadata : a.metadata = .ok metadata)
    (hkind : a.namedKind = .ok kind) (hcapacity : a.capacity = s.prober.deviceSize.answer s.machine)
    (hcalls : a.capacityCalls = s.prober.deviceSize.calls s.machine a.number) :
    (measure a.number metadata kind a.draft).run.run (s.past a node ks) =
      (s.drawing a .size).stepped a node ks .size a.measured := by
  have hstage : (resolveSize a.number metadata kind a.draft).run.run (s.past a node ks) = _ :=
    run_resolveSize hmetadata hkind hcapacity hcalls
  rw [measure, Answers.measured_eq]
  cases hsize : a.size with
  | error f =>
    rw [hsize] at hstage
    rw [run_bind_error hstage, error_bind, stepped, stopped_eq]
  | ok size =>
    rw [hsize] at hstage
    rw [run_bind_ok hstage, ok_bind, run_bind, run_require]
    cases hwritable : Numeral.checkWritable size with
    | error f =>
      obtain rfl := Numeral.checkWritable_error hwritable
      simp only [mapError_error, error_bind, stepped, stopped_eq, Answers.abort, Answers.warning,
        Step.handle, List.append_nil]
    | ok _ =>
      simp only [mapError_ok, ok_bind, stepped, past_concat, run_bind, run_lift, run_write,
        writing_during]
      simp only [Answers.stepEntries, hsize]
      rfl

lemma run_stamp {metadata : Metadata} (hmetadata : a.metadata = .ok metadata)
    (htimestamp : a.timestamp = s.machine.clock.head) (record : Record) :
    (stamp metadata record).run.run (s.past a node ks) =
      (s.drawing a .stamp).stepped a node ks .stamp
        (a.mtime.map fun mtime => { record with timestamp := a.timestamp, mtime := some mtime }) := by
  have hnow : (onMachine now).run (s.past a node ks) =
      (a.timestamp, (s.drawing a .stamp).during node (ks.flatMap a.stepCalls ++ a.stepCalls .stamp)
        (ks.flatMap a.stepEntries)) := by
    have hrun := run_now ((s.machine.attach node).noting (ks.flatMap a.stepCalls))
    rw [ticked_noting, noting_noting] at hrun
    rw [run_onMachine, htimestamp]
    change ((now.run ((s.machine.attach node).noting (ks.flatMap a.stepCalls))).1,
      { s.past a node ks with
        machine := (now.run ((s.machine.attach node).noting (ks.flatMap a.stepCalls))).2 }) = _
    rw [hrun]
    rfl
  rw [stamp, run_bind, run_lift, hnow, ← a.mtime_eq hmetadata]
  simp only [run_bind, run_require]
  cases a.mtime with
  | error f =>
    simp only [mapError_error, Except.map, stepped, stopped_eq, Answers.abort, Answers.warning,
      Step.handle, List.append_nil]
  | ok mtime =>
    simp only [mapError_ok, Except.map, stepped, past_concat, run_pure, Answers.stepEntries,
      List.append_nil]

lemma run_queryResidency {record : Record} (hrecord : a.stamped = .ok record)
    (hnumber : a.number = s.machine.nextDescriptor)
    (hresidency : a.residency = s.prober.residency.answer s.machine.memory node.core s.machine.platform.name)
    (hcalls : a.residencyCalls = s.prober.residency.calls s.machine.memory node.core a.number) :
    (queryResidency a.number record).run.run (s.past a node ks) =
      (s.drawing a .residency).answered a node (ks.flatMap a.stepCalls ++ a.stepCalls .residency)
        (ks.flatMap a.stepEntries) .residency a.report := by
  obtain ⟨hsize, -⟩ := a.stamped_ok hrecord
  have hrun :=
    Residency.run_query_attach s.machine record.size s.prober.residency node (ks.flatMap a.stepCalls)
  rw [← hnumber, ← hresidency, ← hcalls] at hrun
  have hreport : a.report = a.residency record.size := by rw [Answers.report, hsize, ok_bind]
  have hbuilt := a.built_of_stamped hrecord
  have hanswer : (a.residency record.size).mapError id = a.report := by
    rw [hreport]
    cases a.residency record.size <;> rfl
  have herror : ∀ f, failWith record .cannotQuery f =
      giveUp (α := Option Report) (a.built .residency) .residency (.raised f) := by
    intro f
    rw [hbuilt]
    cases f <;> rfl
  have hstep : a.stepCalls .residency = a.residencyCalls record.size := by
    simp only [Answers.stepCalls, hsize]
  simp only [queryResidency, run_bind, run_get, run_modify, hstep]
  exact run_stage (s := s.drawing a .residency) a .residency id hrun hanswer herror _

lemma run_inspect {record : Record} (hrecord : a.stamped = .ok record)
    (hnumber : a.number = s.machine.nextDescriptor)
    (hresidency : a.residency = s.prober.residency.answer s.machine.memory node.core s.machine.platform.name)
    (hcalls : a.residencyCalls = s.prober.residency.calls s.machine.memory node.core a.number) :
    (inspect a.number record).run.run (s.past a node ks) =
      (s.drawing a .residency).stepped a node ks .residency a.report := by
  have hstage : (queryResidency a.number record).run.run (s.past a node ks) = _ :=
    run_queryResidency hrecord hnumber hresidency hcalls
  rw [inspect]
  cases hreport : a.report with
  | error f =>
    rw [hreport] at hstage
    rw [run_bind_error hstage, stepped, stopped_eq]
  | ok report =>
    rw [hreport] at hstage
    rw [run_bind_ok hstage, stepped, past_concat]
    cases report with
    | none =>
      simp only [Answers.stepEntries, hreport, Except.toOption, if_true, Option.isNone_none,
        run_bind, run_lift,
        run_write, writing_during, run_pure, a.stamped_name hrecord, Answers.entry]
    | some report =>
      simp only [Answers.stepEntries, hreport, Except.toOption, Option.some.injEq, reduceCtorEq,
        if_false, List.append_nil]
      rfl

lemma run_conclude {record : Record} {report : Option Report} (hrecord : a.stamped = .ok record)
    (hreport : a.report = .ok report) :
    (conclude record report).run.run (s.past a node ks) =
      s.stepped a node ks .conclusion a.record := by
  have hvalue := a.record_eq hrecord hreport
  have hfault : ∀ f, s.stepped (α := Record) a node ks .conclusion (.error f) =
      (.error (.fault f), s.past a node ks) := by
    intro f
    simp only [stepped, stopped_eq, Answers.abort, Answers.warning, Step.handle, Answers.stepCalls,
      List.append_nil, past]
  rw [hvalue, conclude, run_bind, run_require]
  cases hmerge : record.merge report with
  | error f => rw [error_bind, hfault, mapError_error]
  | ok merged =>
    simp only [mapError_ok, ok_bind, run_bind, run_require]
    cases hcached : Numeral.checkWritable merged.cached with
    | error f => rw [mapError_error, error_bind, hfault]
    | ok _ =>
      simp only [mapError_ok, ok_bind]
      cases hpages : Numeral.checkWritable merged.pages with
      | error f => rw [mapError_error, error_bind, hfault]
      | ok _ =>
        have hname : merged.name = a.path :=
          (Record.file_merge hmerge).1.trans (a.stamped_name hrecord)
        have hok : a.record = .ok merged := by
          rw [hvalue, hmerge, ok_bind, hcached, ok_bind, hpages, ok_bind]
        simp only [mapError_ok, ok_bind, run_lift, run_pure, stepped, past_concat]
        simp only [past, run_write, writing_during, Answers.stepCalls, Answers.stepEntries, hok,
          hname, List.append_nil, Answers.entry]

end

end Session

end PageCache
