import PageCache.Proofs.Probe.Steps

/-! A probe takes its steps in order up to the first that goes wrong, and what it comes to is told
by the answers at that step. -/

namespace PageCache

open Sequencing Machine

namespace Session

/-- What a probe comes to before its descriptor is closed. -/
def Ends (s : Session) (a : Answers) (r : Except Abort Record × Session) : Prop :=
  ∃ node : Node, node.closeFault = a.closing ∧
    r = (a.ended, (a.taken.foldl (·.drawing a ·) s).during node (a.taken.flatMap a.stepCalls) a.entries)

variable {s base : Session} {a : Answers} {node : Node}
variable {calls : List Call} {entries : List Log.Entry} {number : Nat}
variable {ks behind : List Step} {k : Step}

lemma ends_stopped {x : Mishap} (hbase : (ks ++ [k]).foldl (·.drawing a ·) s = base)
    (hall : Step.all = ks ++ k :: behind) (hclose : node.closeFault = a.closing) (hks : a.Clears ks)
    (hk : a.mishap k = some x) :
    s.Ends a (.error (a.abort k x), base.stopped a node ks k x) := by
  obtain ⟨hfailing, hpassed⟩ := a.failing?_eq hall hks hk
  have htaken : a.taken = ks ++ [k] := by
    rw [Answers.taken, hfailing, hpassed]
    rfl
  refine ⟨node, hclose, ?_⟩
  rw [Answers.ended, hfailing, htaken, Answers.entries, hfailing, hpassed, hbase]
  rfl

lemma ends_step {α : Type} {x : Probing α} {f : α → Probing Record} {t : Session}
    {value : Except Fault α}
    (hx : x.run.run t = base.stepped a node ks k value) (hbase : (ks ++ [k]).foldl (·.drawing a ·) s = base)
    (hall : Step.all = ks ++ k :: behind) (hclose : node.closeFault = a.closing) (hks : a.Clears ks)
    (hk : a.mishap k = raisedBy value)
    (hok : ∀ v, value = .ok v → a.Clears (ks ++ [k]) →
      s.Ends a ((f v).run.run (base.past a node (ks ++ [k])))) :
    s.Ends a ((x >>= f).run.run t) := by
  cases value with
  | error e =>
    rw [run_bind_error hx]
    exact ends_stopped hbase hall hclose hks hk
  | ok v =>
    rw [run_bind_ok hx]
    exact hok v rfl (hks.concat hk)

lemma ends_refuseDirectory {metadata : Metadata} {f : Unit → Probing Record}
    (hmetadata : a.metadata = .ok metadata)
    (hbase : (ks ++ [Step.directory]).foldl (·.drawing a ·) s = base)
    (hall : Step.all = ks ++ .directory :: behind)
    (hclose : node.closeFault = a.closing) (hks : a.Clears ks)
    (hok : a.Clears (ks ++ [.directory]) →
      s.Ends a ((f ()).run.run (base.past a node (ks ++ [.directory])))) :
    s.Ends a ((refuseDirectory metadata a.draft >>= f).run.run (base.past a node ks)) := by
  rw [run_bind, run_refuseDirectory hmetadata]
  cases hk : a.mishap .directory with
  | some x => exact ends_stopped hbase hall hclose hks hk
  | none => exact hok (hks.concat hk)

lemma ends_conclusion (hbase : (ks ++ [Step.conclusion]).foldl (·.drawing a ·) s = base)
    (hall : Step.all = ks ++ [.conclusion]) (hclose : node.closeFault = a.closing)
    (hks : a.Clears ks) :
    s.Ends a (base.stepped a node ks .conclusion a.record) := by
  cases hrecord : a.record with
  | error f =>
    apply ends_stopped hbase hall hclose hks
    rw [Answers.mishap, hrecord]
    rfl
  | ok r =>
    have hk : a.mishap .conclusion = none := by
      rw [Answers.mishap, hrecord]
      rfl
    have hclear : a.Clears Step.all := by
      rw [hall]
      exact hks.concat hk
    obtain ⟨hfailing, hpassed⟩ := a.failing?_eq_none hclear
    have htaken : a.taken = ks ++ [.conclusion] := by
      rw [Answers.taken, hfailing, hpassed, hall]
      exact List.append_nil _
    refine ⟨node, hclose, ?_⟩
    rw [Answers.ended, hfailing, htaken, Answers.entries, hfailing, hpassed, hrecord, hbase, hall]
    simp only [stepped, past, mapError_ok, Option.map_none, Option.getD_none, List.append_nil]

theorem ends_probeOpen {filter : Filter} {path : String} (ha : a = s.answers filter path)
    (hopening : a.opening = none) :
    s.Ends a ((probeOpen a.number filter a.draft).run.run
      (s.during (s.machine.fileAt a.path) [.open a.path .nonblocking] [])) := by
  have hnumber : a.number = s.machine.nextDescriptor := by rw [ha]; rfl
  have htrial : a.trial = filter.trial a.number (s.machine.fileAt a.path).described := by
    rw [ha]; rfl
  have htakes : s.machine.Takes a.path := by
    rw [ha] at hopening ⊢
    exact (takes_of_openingFault hopening).1
  have hinspection : a.inspection = (s.machine.fileAt a.path).named := by rw [ha]; rfl
  have hcapacity : a.capacity = s.prober.deviceSize.answer s.machine := by rw [ha]; rfl
  have hcapacityCalls : a.capacityCalls = s.prober.deviceSize.calls s.machine a.number := by
    rw [ha]; rfl
  have htimestamp : a.timestamp = s.machine.clock.head := by rw [ha]; rfl
  have hresidency : a.residency =
      s.prober.residency.answer s.machine.memory (s.machine.fileAt a.path).core
        s.machine.platform.name := by rw [ha]; rfl
  have hresidencyCalls : a.residencyCalls =
      s.prober.residency.calls s.machine.memory (s.machine.fileAt a.path).core a.number := by
    rw [ha]; rfl
  have hclose : (s.machine.fileAt a.path).closeFault = a.closing := by rw [ha]; rfl
  have hks : a.Clears [.opening] := by
    intro j hj
    rw [List.mem_singleton.1 hj, Answers.mishap, hopening]
    rfl
  have hopened : ((liftM (write .debug "opened" a.draft.name) : Probing Unit).run.run
      (s.during (s.machine.fileAt a.path) [.open a.path .nonblocking] [])) =
      (.ok (), s.past a (s.machine.fileAt a.path) [.opening]) := by
    rw [run_lift, run_write, writing_during, past, List.flatMap_singleton,
      a.stepCalls_opening hopening]
    rfl
  clear ha
  rw [probeOpen, run_bind_ok hopened]
  refine ends_step (run_accept hnumber htrial) rfl rfl hclose hks rfl ?_
  rintro _ - hks
  refine ends_step (run_describe hnumber rfl) rfl rfl hclose hks rfl ?_
  rintro metadata hmetadata hks
  refine ends_refuseDirectory hmetadata rfl rfl hclose hks ?_
  rintro hks
  refine ends_step (run_lookUpKind htakes hinspection) rfl rfl hclose hks rfl ?_
  rintro kind hkind hks
  refine ends_step (run_measure hmetadata hkind hcapacity hcapacityCalls) rfl rfl hclose hks rfl ?_
  rintro measured hmeasured hks
  have hmachine : (s.drawing a .size).machine = s.machine := s.machine_drawing_size a
  refine ends_step (run_stamp hmetadata ?_ measured) rfl rfl hclose hks (raisedBy_map _ _).symm ?_
  · rw [hmachine]
    exact htimestamp
  rintro stamped hstamped hks
  have hrecord : a.stamped = .ok stamped := by
    rw [a.stamped_eq, hmeasured, ok_bind]
    exact hstamped
  have hticked : ((s.drawing a .size).drawing a .stamp).machine = s.machine.ticked :=
    congrArg ticked hmachine
  refine ends_step (run_inspect hrecord ?_ ?_ ?_) rfl rfl hclose hks rfl ?_
  · rw [hticked]
    exact hnumber
  · rw [hresidency, hticked]
    exact congrArg (Residency.answer · _ _ _) (s.residency_drawing_size a).symm
  · rw [hresidencyCalls, hticked]
    exact congrArg (Residency.calls · _ _ _) (s.residency_drawing_size a).symm
  rintro report hreport hks
  rw [run_conclude hrecord hreport]
  exact ends_conclusion rfl rfl hclose hks

def after (s : Session) (a : Answers) : Session :=
  let drawn := a.taken.foldl (·.drawing a ·) s
  { drawn with
    machine :=
      (if a.opening = none then drawn.machine.spent else drawn.machine).noting a.calls }.writing a.entries

lemma machine_after (s : Session) (a : Answers) : ∃ clock, (s.after a).machine =
    (if a.opening = none then { s.machine with clock := clock }.spent
      else { s.machine with clock := clock }).noting a.calls := by
  obtain ⟨clock, hclock⟩ := s.machine_drawn a a.taken
  refine ⟨clock, ?_⟩
  rw [after, writing, hclock]

lemma calls_after (s : Session) (a : Answers) :
    (s.after a).machine.calls = s.machine.calls ++ a.calls := by
  obtain ⟨clock, hmachine⟩ := s.machine_after a
  rw [hmachine]
  split <;> rfl

lemma run_closing {α : Type} {x : Probing α} {t : Session} {r : Except Abort α}
    (hx : x.run.run t = (r, base.during node calls entries))
    (hnumber : number = base.machine.nextDescriptor) :
    (closing number x).run.run t =
      (node.closeFault.elim r fun code => .error (.fault (.system (.plain code))),
        { base with
          machine := base.machine.spent.noting (calls ++ [Call.close number]) }.writing entries) := by
  subst hnumber
  have hclose := run_close ((base.machine.attach node).noting calls) base.machine.nextDescriptor
  simp only [descriptor?_noting, descriptor?_attach, detach_noting, detach_attach,
    noting_noting] at hclose
  have hrun : (onMachine (close base.machine.nextDescriptor).run).run (base.during node calls entries) =
      (node.closeFault.elim (.ok ()) (.error <| .plain ·),
        { base with
          machine := base.machine.spent.noting (calls ++ [Call.close base.machine.nextDescriptor])
        }.writing entries) := by
    rw [run_onMachine]
    exact congrArg (fun r : Except SystemError Unit × Machine =>
      (r.1, { base.during node calls entries with machine := r.2 })) hclose
  rw [closing, ExceptT.run_mk, StateT.run_bind, hx]
  change StateT.run (onMachine (close base.machine.nextDescriptor).run >>= _)
    (base.during node calls entries) = _
  rw [StateT.run_bind, hrun]
  cases node.closeFault <;> rfl

lemma run_probe_refused {filter : Filter} {path : String} {f : Fault}
    (ha : a = s.answers filter path)
    (hopening : a.opening = some f) :
    (probe filter path).run.run s = (a.outcome, s.after a) := by
  have hpath : a.path = path := by rw [ha]; rfl
  let calls : List Call := if f = .embeddedNull then [] else [.open path .nonblocking]
  have hrun : (openFile path .nonblocking).run.run s.machine = (.error f, s.machine.noting calls) := by
    rw [ha] at hopening
    exact run_openFile_error hopening
  have hdraft : a.draft = { name := path } := by rw [Answers.draft, hpath]
  obtain ⟨hfailing, hpassed⟩ := a.failing?_of_refused hopening
  have htaken : a.taken = [.opening] := by
    rw [Answers.taken, hfailing, hpassed]
    rfl
  have houtcome : a.outcome = .error (a.abort .opening (.raised f)) := by
    rw [Answers.outcome, hopening, Answers.ended, hfailing]
  have hcalls : a.calls = calls := by rw [a.calls_of_refused hopening, hpath]
  have hentries : a.entries = a.warning .opening (.raised f) := by
    rw [Answers.entries, hpassed, hfailing]
    rfl
  have hgiveUp : failWith { name := path } .cannotOpen f =
      giveUp (α := Nat) (a.built .opening) .opening (.raised f) := by
    rw [← hdraft]
    cases f <;> rfl
  have hstage : (stage (openFile path .nonblocking) (failWith { name := path } .cannotOpen)).run.run s =
      (.error (a.abort .opening (.raised f)),
        { s with machine := s.machine.noting calls }.writing (a.warning .opening (.raised f))) := by
    simp only [stage, run_bind, run_lift, run_onMachine]
    rw [hrun, ← run_giveUp { s with machine := s.machine.noting calls } a .opening (.raised f), ← hgiveUp]
  rw [probe, run_bind_error hstage, houtcome, after, htaken, hopening, hcalls, hentries]
  rfl

lemma run_probe_opened {filter : Filter} {path : String} (ha : a = s.answers filter path)
    (hopening : a.opening = none) : (probe filter path).run.run s = (a.outcome, s.after a) := by
  have hpath : a.path = path := by rw [ha]; rfl
  have hnumber : a.number = s.machine.nextDescriptor := by rw [ha]; rfl
  have hrun : (openFile path .nonblocking).run.run s.machine =
      (.ok s.machine.nextDescriptor,
        (s.machine.attach (s.machine.fileAt path)).noting [.open path .nonblocking]) := by
    rw [ha] at hopening
    exact run_openFile hopening
  have hopen : (stage (openFile path .nonblocking) (failWith { name := path } .cannotOpen)).run.run s =
      (.ok a.number, s.during (s.machine.fileAt a.path) [.open a.path .nonblocking] []) := by
    simp only [stage, run_bind, run_lift, run_onMachine]
    rw [hrun, during, writing_nil, hnumber, hpath]
    rfl
  obtain ⟨node, hclose, hprobe⟩ := ends_probeOpen ha hopening
  have hdraft : a.draft = { name := path } := by rw [Answers.draft, hpath]
  obtain ⟨clock, hclock⟩ := s.machine_drawn a a.taken
  have hdrawn : a.number = (a.taken.foldl (·.drawing a ·) s).machine.nextDescriptor := by
    rw [hclock, hnumber]
  rw [probe, run_bind_ok hopen, ← hdraft, run_closing hprobe hdrawn, hclose, Answers.outcome, after,
    if_pos hopening, Answers.calls, if_pos hopening, hopening]
  cases a.closing <;> rfl

theorem run_probe (s : Session) (filter : Filter) (path : String) :
    (probe filter path).run.run s =
      ((s.answers filter path).outcome, s.after (s.answers filter path)) := by
  cases h : (s.answers filter path).opening with
  | none => exact run_probe_opened rfl h
  | some f => exact run_probe_refused rfl h

/-- Where the path is refused nothing is called and nothing is written. -/
lemma run_probe_of_not_takes {path : String} (h : ¬s.machine.Takes path) (filter : Filter) :
    (probe filter path).run.run s = (.error (.fault .embeddedNull), s) := by
  let a := s.answers filter path
  have hopening : a.opening = some .embeddedNull := if_neg h
  obtain ⟨hfailing, hpassed⟩ := a.failing?_of_refused hopening
  have houtcome : a.outcome = .error (.fault .embeddedNull) := by
    rw [Answers.outcome, hopening, Answers.ended, hfailing]
    rfl
  have htaken : a.taken = [.opening] := by
    rw [Answers.taken, hfailing, hpassed]
    rfl
  have hcalls : a.calls = [] := (a.calls_of_refused hopening).trans (if_pos rfl)
  have hentries : a.entries = [] := by
    rw [Answers.entries, hpassed, hfailing]
    rfl
  rw [run_probe, houtcome, after, htaken, hopening, hcalls, hentries, writing_nil, noting_nil]
  rfl

lemma fault_or_mapError (outcome : Except Abort Record) :
    (∃ fault, outcome = .error (.fault fault)) ∨
      ∃ ordinary : Except Failure Record, outcome = ordinary.mapError .failure := by
  rcases outcome with (failure | fault) | record
  · exact Or.inr ⟨.error failure, rfl⟩
  · exact Or.inl ⟨fault, rfl⟩
  · exact Or.inr ⟨.ok record, rfl⟩

def outcomesOnFile : List (Except Failure Record) :=
  [.ok
    { name := "f", size := 5000, timestamp := some .epoch, mtime := some .epoch
      pages := 2, cached := 2, uncached := 0, percent := .ofBits 0x4059000000000000 },
    .error (.ofProblem (.cannotOpen (.onPath ErrorCode.noSuchFile "g")) { name := "g" })]

/-- A file that is there and one that is not, probed one after the other. -/
lemma run_mapM_onFile :
    ∃ t, (["f", "g"].mapM fun path => (probe .allowAll path).run).run
        (onFile (.holding ⟨0o100644, 5000, ⟨0, 0⟩⟩)) =
      (outcomesOnFile.map (·.mapError .failure), t) := by
  let s := onFile (.holding ⟨0o100644, 5000, ⟨0, 0⟩⟩)
  let u := s.after (s.answers .allowAll "f")
  have hf : (probe .allowAll "f").run.run s = ((s.answers .allowAll "f").outcome, u) :=
    s.run_probe .allowAll "f"
  have hg := u.run_probe .allowAll "g"
  refine ⟨u.after (u.answers .allowAll "g"), ?_⟩
  rw [run_mapM_cons, hf, run_mapM_cons, hg]
  exact congrArg (·, u.after (u.answers .allowAll "g")) (by decide +kernel)

end Session

end PageCache
