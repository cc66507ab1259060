import PageCache.Proofs.Probe.Entries

/-! Where the size that a probe works with comes from: a block device is asked for it once, and of
any other file it is what the probe was told when the filter had let the file pass. -/

namespace PageCache

open Sequencing Machine

/-- A call that asks a device for its size. -/
def Call.AsksDevice : Call → Prop
  | .ioctl _ _ _ | .capacity _ => True
  | _ => False

namespace Session

variable {s : Session} {filter : Filter} {path : String}

/-- The path of a file that was described leads to a block device. -/
def Described.FindsDevice (w : s.Described filter path) (inspected : Machine) : Prop :=
  ∃ named, (stat path).run.run w.described = (.ok named, inspected) ∧ named.kind = .ok .block

/-- The number of bytes that a probe works with behind its own description of the file. -/
inductive Described.Resolves (w : s.Described filter path) : Int → Prop
  | device {size : Int} {inspected sized : Machine} (hdevice : w.FindsDevice inspected)
      (hquery : (s.prober.deviceSize.query w.number).run.run inspected = (.ok size, sized)) :
      Resolves w size
  | metadata {named : Metadata} {inspected : Machine}
      (hstat : (stat path).run.run w.described = (.ok named, inspected))
      (hkind : named.kind ≠ .ok .block) : Resolves w w.metadata.size

/-- Among the calls of a probe the device is asked for its size once, right behind the description
of the path, and where the provider is that of the platform, in its way. -/
def Described.AsksOnce (w : s.Described filter path) (inspected : Machine) (calls : List Call) : Prop :=
  ∃ answer before asked later,
    calls = before ++ .stat path :: asked ++ later ∧
      inspected.calls = s.machine.calls ++ before ++ [.stat path] ∧
      (s.prober.deviceSize.query w.number).run.run inspected = (answer, inspected.noting asked) ∧
      (∀ c ∈ before ++ later, ¬c.AsksDevice) ∧
      (s.prober.deviceSize = .ofPlatform s.machine.platform →
        DeviceSize.Answered inspected w.number answer asked)

/-- The last thing asked about a file is its pages, over as many bytes as it resolves to. -/
structure Described.Queries (w : s.Described filter path) (size : Int) (v : s.Approach filter path)
    (answer : Except Fault (Option Report)) (t : Session) : Prop where
  resolves : w.Resolves size
  size_eq : v.size = size
  query : ∃ queried : Machine,
    (s.prober.residency.query w.number size).run.run v.ready = (answer, queried) ∧
      t.machine.calls = queried.calls ++ [.close w.number]

/-- A probe that comes to no size, as its platform has none for devices. It fails for that, unless
closing fails as well, and asks for no pages. -/
structure Described.FailsUnsized (w : s.Described filter path) (inspected : Machine)
    (calls : List Call) (r : Except Abort Record × Session) : Prop where
  outcome : r.1 =
    match ((close w.number).run.run inspected).1 with
    | .ok () => .error (.failure (.ofProblem
        (.cannotSize (.unsupported .deviceSize s.machine.platform.name)) { name := path }))
    | .error e => .error (.fault (.system e))
  unqueried : ∀ c ∈ calls, c.range? = none
  residency : r.2.prober.residency = s.prober.residency

namespace Described

variable (w : s.Described filter path)

lemma opening_eq_none (w : s.Described filter path) : (s.answers filter path).opening = none := by
  cases h : (s.answers filter path).opening with
  | none => rfl
  | some f => cases congrArg Prod.fst (w.run_open.symm.trans (s.run_refused filter path h))

lemma clears : (s.answers filter path).Clears Step.directory.before ∧
    w.number = s.machine.nextDescriptor ∧ w.described = s.described filter path ∧
      (s.answers filter path).metadata = .ok w.metadata := by
  -- Each call was made on the machine that the one before left, so what it answered is known.
  have hopening := w.opening_eq_none
  obtain ⟨hnumber, hopened⟩ :=
    Prod.mk.inj (w.run_open.symm.trans (s.run_opened filter path hopening))
  have hfilter := w.run_filter
  rw [Except.ok.inj hnumber, hopened, s.run_accepted] at hfilter
  obtain ⟨hverdict, haccepted⟩ := Prod.mk.inj hfilter
  have hfstat := w.run_fstat
  rw [Except.ok.inj hnumber, ← haccepted, s.run_described] at hfstat
  obtain ⟨hhead, hdescribed⟩ := Prod.mk.inj hfstat
  have hmetadata : (s.answers filter path).metadata = .ok w.metadata := by
    rw [Answers.metadata, Filter.described]
    cases h : (s.answers filter path).trial.left.head with
    | ok metadata =>
      rw [h] at hhead
      rw [mapError_ok, Except.ok.inj hhead]
    | error code =>
      rw [h] at hhead
      cases hhead
  refine ⟨?_, Except.ok.inj hnumber, hdescribed.symm, hmetadata⟩
  have hbefore : Step.directory.before = [.opening, .filter, .description] := by decide
  rw [hbefore]
  have hone : (s.answers filter path).Clears [.opening] := by
    intro k hk
    rw [List.mem_singleton.1 hk, Answers.mishap, hopening]
    rfl
  have hfiltered : (s.answers filter path).mishap .filter = none :=
    raisedBy_eq_none.2 ⟨_, hverdict⟩
  have htold : (s.answers filter path).mishap .description = none :=
    raisedBy_eq_none.2 ⟨_, hmetadata⟩
  exact (hone.concat hfiltered).concat htold

lemma findsDevice_iff {inspected : Machine} : w.FindsDevice inspected ↔
    (s.answers filter path).namedKind = .ok .block ∧ inspected = s.inspected filter path := by
  obtain ⟨-, -, hdescribed, -⟩ := w.clears
  have hrun := s.run_inspected filter path w.opening_eq_none
  constructor
  · rintro ⟨named, hstat, hkind⟩
    rw [hdescribed, hrun, Prod.mk.injEq] at hstat
    refine ⟨?_, hstat.2.symm⟩
    rw [Answers.namedKind]
    cases h : (s.answers filter path).inspection with
    | ok m =>
      rw [h, mapError_ok] at hstat
      rw [mapError_ok, ok_bind, Except.ok.inj hstat.1, hkind]
    | error code =>
      rw [h] at hstat
      cases hstat.1
  · rintro ⟨hkind, rfl⟩
    obtain ⟨named, hnamed, hblock⟩ := Answers.named_of_namedKind hkind
    rw [hnamed] at hrun
    exact ⟨named, hdescribed ▸ hrun, hblock⟩

lemma namedKind_ne_block (h : ∀ inspected, ¬w.FindsDevice inspected) :
    (s.answers filter path).namedKind.toOption ≠ some .block := by
  intro hblock
  cases hkind : (s.answers filter path).namedKind with
  | error f =>
    rw [hkind] at hblock
    cases hblock
  | ok kind =>
    rw [hkind] at hblock
    obtain rfl := Option.some.inj hblock
    exact h _ (w.findsDevice_iff.2 ⟨hkind, rfl⟩)

lemma resolves_of_size {size : Int} (h : (s.answers filter path).size = .ok size) :
    w.Resolves size := by
  obtain ⟨-, hnumber, hdescribed, hmetadata⟩ := w.clears
  cases hkind : (s.answers filter path).namedKind with
  | error f =>
    rw [Answers.size, hmetadata, hkind] at h
    cases h
  | ok kind =>
    rw [Answers.size_of_kind hmetadata hkind] at h
    by_cases hblock : kind = .block
    · subst hblock
      rw [if_pos rfl] at h
      have hquery := s.run_sized filter path hkind
      rw [h, ← hnumber] at hquery
      exact .device (w.findsDevice_iff.2 ⟨hkind, rfl⟩) hquery
    · rw [if_neg hblock] at h
      obtain rfl := Except.ok.inj h
      obtain ⟨named, hnamed, hnamedKind⟩ := Answers.named_of_namedKind hkind
      have hrun := s.run_inspected filter path w.opening_eq_none
      rw [hnamed, ← hdescribed] at hrun
      refine .metadata hrun fun hdevice => hblock ?_
      exact Except.ok.inj (hnamedKind.symm.trans hdevice)

lemma clears_directory {kind : FileKind} (hkind : w.metadata.kind = .ok kind)
    (hdirectory : kind ≠ .directory) : (s.answers filter path).Clears Step.inspection.before := by
  obtain ⟨hclear, -, -, hmetadata⟩ := w.clears
  have hbefore : Step.inspection.before = Step.directory.before ++ [.directory] := by decide
  rw [hbefore]
  refine hclear.concat ?_
  have hok : (s.answers filter path).kind = .ok kind := by
    rw [Answers.kind, hmetadata, ok_bind, hkind]
  rw [Answers.mishap, hok, Except.toOption, if_neg fun h => hdirectory (Option.some.inj h)]
  rfl

end Described

lemma size_of_asksDevice {c : Call} {k : Step} (hasks : c.AsksDevice)
    (h : c ∈ (s.answers filter path).stepCalls k) :
    k = .size ∧ (s.answers filter path).namedKind.toOption = some .block := by
  cases makes_of_mem h with
  | request hblock | capacity hblock => exact ⟨rfl, hblock⟩
  | _ => cases hasks

lemma not_asksDevice_of_mem {c : Call} {ks : List Step} (hks : .size ∉ ks)
    (h : c ∈ ks.flatMap (s.answers filter path).stepCalls) : ¬c.AsksDevice := by
  intro hasks
  obtain ⟨k, hk, hc⟩ := List.mem_flatMap.1 h
  obtain ⟨rfl, -⟩ := size_of_asksDevice hasks hc
  exact hks hk

lemma calls_inspected (h : (s.answers filter path).opening = none) : (s.inspected filter path).calls =
    s.machine.calls ++ Step.size.before.flatMap (s.answers filter path).stepCalls := by
  have hbefore : Step.size.before = [.opening, .filter, .description, .directory, .inspection] := by
    decide
  simp only [hbefore, List.flatMap_cons, List.flatMap_nil, inspected, described, noting_noting,
    Answers.stepCalls_opening _ h]
  simp only [Answers.stepCalls, List.append_nil, List.nil_append, List.append_assoc]
  rfl

lemma deviceSize_drawing {a : Answers} (h : a.namedKind.toOption = some .block) :
    (s.drawing a .size).prober.deviceSize = s.prober.deviceSize.next := by
  rw [drawing, if_pos h]

lemma deviceSize_drawn {a : Answers} {ks : List Step}
    (h : .size ∈ ks → a.namedKind.toOption ≠ some .block) :
    (ks.foldl (·.drawing a ·) s).prober.deviceSize = s.prober.deviceSize := by
  refine drawn_eq (f := fun t => t.prober.deviceSize) s a fun k hk t => ?_
  cases k with
  | size => rw [drawing, if_neg (h hk)]
  | _ => rfl

lemma deviceSize_after (hclear : (s.answers filter path).Clears Step.size.before)
    (hkind : (s.answers filter path).namedKind = .ok .block) :
    (s.after (s.answers filter path)).prober.deviceSize = s.prober.deviceSize.next := by
  obtain ⟨rest, htaken, hrest⟩ := Answers.taken_of_clears hclear
  have hbefore : Step.size ∉ Step.size.before := by decide
  have hbehind : Step.size ∉ rest := fun hmem => absurd (hrest _ hmem) (by decide)
  change ((s.answers filter path).taken.foldl _ s).prober.deviceSize = _
  rw [htaken, List.foldl_append, List.foldl_cons, deviceSize_drawn (absurd · hbehind),
    deviceSize_drawing (by rw [hkind]; rfl), deviceSize_drawn (absurd · hbefore)]

lemma calls_of_inspection (hclear : (s.answers filter path).Clears Step.size.before) :
    ∃ later, (s.answers filter path).calls =
        Step.inspection.before.flatMap (s.answers filter path).stepCalls ++
          .stat path :: (s.answers filter path).stepCalls .size ++ later ∧
      ∀ c ∈ Step.inspection.before.flatMap (s.answers filter path).stepCalls ++ later,
        ¬c.AsksDevice := by
  obtain ⟨rest, htaken, hrest⟩ := Answers.taken_of_clears hclear
  have hbefore : Step.size.before = Step.inspection.before ++ [.inspection] := by decide
  have hearlier : Step.size ∉ Step.inspection.before := by decide
  have hlater : Step.size ∉ rest := fun hmem => absurd (hrest _ hmem) (by decide)
  have hstat : (s.answers filter path).stepCalls .inspection = [.stat path] := rfl
  refine ⟨rest.flatMap (s.answers filter path).stepCalls ++ [.close (s.answers filter path).number],
    ?_, ?_⟩
  · rw [Answers.calls, htaken, hbefore, if_pos (Option.map_eq_none_iff.1 (hclear .opening (by decide)))]
    simp only [List.flatMap_append, List.flatMap_cons, hstat, List.append_assoc, List.cons_append,
      List.nil_append]
  · intro c hc
    rcases List.mem_append.1 hc with hc | hc
    · exact not_asksDevice_of_mem hearlier hc
    · rcases List.mem_append.1 hc with hc | hc
      · exact not_asksDevice_of_mem hlater hc
      · rw [List.mem_singleton.1 hc]
        exact id

lemma not_asksDevice_of_ne_block
    (hkind : (s.answers filter path).namedKind.toOption ≠ some .block) :
    ∀ c ∈ (s.answers filter path).calls, ¬c.AsksDevice := by
  intro c hc hasks
  rcases List.mem_append.1 hc with hc | hc
  · obtain ⟨k, -, hk⟩ := List.mem_flatMap.1 hc
    exact hkind (size_of_asksDevice hasks hk).2
  · split at hc
    · rw [List.mem_singleton.1 hc] at hasks
      cases hasks
    · cases hc

lemma failing_of_capacity {e : SystemError} (hclear : (s.answers filter path).Clears Step.size.before)
    (hkind : (s.answers filter path).namedKind = .ok .block)
    (h : (s.answers filter path).capacity = .error (.system e)) :
    (s.answers filter path).failing? = some (.size, .raised (.system e)) := by
  obtain ⟨metadata, hmetadata⟩ := hclear.metadata (by decide)
  refine Answers.failing?_eq_some_iff.2 ⟨hclear, raisedBy_eq_some.2 ?_⟩
  rw [Answers.measured_eq, Answers.size_of_kind hmetadata hkind, if_pos rfl, h, error_bind]

lemma run_close_inspected :
    ((close s.machine.nextDescriptor).run.run (s.inspected filter path)).1 =
      (s.answers filter path).closing.elim (.ok ()) (.error <| .plain ·) := by
  rw [run_close, inspected, described, noting_noting, descriptor?_noting, descriptor?_attach]
  rfl

lemma residency_after_of_not_taken {a : Answers} (h : .residency ∉ a.taken) :
    (s.after a).prober.residency = s.prober.residency := by
  refine drawn_eq (f := fun t => t.prober.residency) s a fun k hk t => ?_
  cases k with
  | residency => exact absurd hk h
  | size => exact t.residency_drawing_size a
  | _ => rfl

/-- Nothing is asked about the pages of a file whose size is not known. -/
lemma unsized_of_failing {e : SystemError}
    (h : (s.answers filter path).failing? = some (.size, .raised (.system e))) :
    (∀ c ∈ (s.answers filter path).calls, c.range? = none) ∧
      (s.after (s.answers filter path)).prober.residency = s.prober.residency := by
  obtain ⟨hclear, hmishap⟩ := Answers.failing?_eq_some_iff.1 h
  have htaken : Step.residency ∉ (s.answers filter path).taken := by
    rw [Answers.taken_of_failing h]
    decide
  have hunsized : ∀ size, (s.answers filter path).size ≠ .ok size := by
    intro size hsize
    have hmeasured : (s.answers filter path).measured = .error (.system e) := raisedBy_eq_some.1 hmishap
    obtain hfault | ⟨n, -, -, hfault⟩ := Answers.measured_error hmeasured
    · cases hsize.symm.trans hfault
    · cases hfault
  refine ⟨fun c hc => ?_, residency_after_of_not_taken htaken⟩
  cases hrange : c.range? with
  | none => rfl
  | some length => exact absurd (residency_of_range hrange hc).1 (hunsized length)

namespace Described

variable (w : s.Described filter path)

section

variable {kind : FileKind} (hkind : w.metadata.kind = .ok kind) (hdirectory : kind ≠ .directory)

include hkind hdirectory

lemma clears_inspection {named : FileKind} (h : (s.answers filter path).namedKind = .ok named) :
    (s.answers filter path).Clears Step.size.before := by
  have hbefore : Step.size.before = Step.inspection.before ++ [.inspection] := by decide
  rw [hbefore]
  exact (w.clears_directory hkind hdirectory).concat (raisedBy_eq_none.2 ⟨_, h⟩)

lemma asksOnce {inspected : Machine} (hdevice : w.FindsDevice inspected) :
    w.AsksOnce inspected (s.answers filter path).calls := by
  obtain ⟨hblock, rfl⟩ := w.findsDevice_iff.1 hdevice
  obtain ⟨-, hnumber, -, -⟩ := w.clears
  obtain ⟨later, hcalls, hothers⟩ :=
    calls_of_inspection (w.clears_inspection hkind hdirectory hblock)
  have hquery := s.run_sized filter path hblock
  rw [← hnumber] at hquery
  refine ⟨_, _, _, later, hcalls, ?_, hquery, hothers, fun hplatform => ?_⟩
  · have hbefore : Step.size.before = Step.inspection.before ++ [.inspection] := by decide
    rw [calls_inspected w.opening_eq_none, hbefore, List.flatMap_append, ← List.append_assoc]
    rfl
  · rw [DeviceSize.run_query, hplatform] at hquery
    obtain ⟨hanswer, hsized⟩ := Prod.mk.inj hquery
    rw [← hanswer, ← noting_injective hsized]
    exact DeviceSize.answered_ofPlatform (s.inspected filter path) w.number

lemma failsUnsized {inspected : Machine} (hdevice : w.FindsDevice inspected)
    (hplatform : s.prober.deviceSize = .ofPlatform s.machine.platform)
    (hlinux : ¬"linux".toList <+: s.machine.platform.name.toList)
    (hdarwin : s.machine.platform.name ≠ "darwin") :
    w.FailsUnsized inspected (s.answers filter path).calls
      ((s.answers filter path).outcome, s.after (s.answers filter path)) := by
  obtain ⟨hblock, rfl⟩ := w.findsDevice_iff.1 hdevice
  obtain ⟨-, hnumber, -, -⟩ := w.clears
  have hclear := w.clears_inspection hkind hdirectory hblock
  have hcapacity : (s.answers filter path).capacity =
      .error (.system (.unsupported .deviceSize s.machine.platform.name)) := by
    change s.prober.deviceSize.answer s.machine = _
    rw [hplatform, DeviceSize.ofPlatform_eq_unsupported hlinux hdarwin]
    rfl
  have hfailing := failing_of_capacity hclear hblock hcapacity
  obtain ⟨hunqueried, hresidency⟩ := unsized_of_failing hfailing
  refine ⟨?_, hunqueried, hresidency⟩
  rw [hnumber, run_close_inspected, Answers.outcome, w.opening_eq_none]
  cases (s.answers filter path).closing with
  | some code => rfl
  | none =>
    rw [Answers.ended, hfailing]
    rfl

end

variable {t : Session}

lemma queries_of_clears (hclear : (s.answers filter path).Clears Step.residency.before) :
    ∃ v : s.Approach filter path, (s.answers filter path).stamped = .ok v.record ∧
      w.Queries v.size v (s.answers filter path).report (s.after (s.answers filter path)) := by
  obtain ⟨-, hnumber, -, -⟩ := w.clears
  obtain ⟨v, hstamped, hsame, hquery⟩ := exists_report hclear
  rw [hsame, ← hnumber] at hquery
  have hresolves := w.resolves_of_size (Answers.stamped_ok _ hstamped).1
  refine ⟨v, hstamped, hresolves, rfl, s.queried filter path, hquery, ?_⟩
  rw [calls_after_queried hclear, hnumber]

lemma queries_of_record {record : Record} (h : (probe filter path).run.run s = (.ok record, t)) :
    ∃ (v : s.Approach filter path) (report : Option Report),
      w.Queries record.size v (.ok report) t ∧ v.record.merge report = .ok record := by
  obtain ⟨hfailing, hrecord, -⟩ := record_of_run h
  have hafter : s.after (s.answers filter path) = t := by
    rw [run_probe] at h
    exact congrArg Prod.snd h
  have hclear := Answers.failing?_eq_none_iff.1 hfailing
  have hbefore : (s.answers filter path).Clears Step.residency.before := fun k _ =>
    hclear k (by cases k <;> decide)
  obtain ⟨report, hreport⟩ := hclear.report (by decide)
  obtain ⟨v, hstamped, hqueries⟩ := w.queries_of_clears hbefore
  have hmerge := Answers.merge_of_record hstamped hreport hrecord
  have hsize : record.size = v.size := (Record.file_merge hmerge).2.1
  rw [hreport, hafter, ← hsize] at hqueries
  exact ⟨v, report, hqueries, hmerge⟩

lemma queries_of_failure {failure : Failure} {record : Record}
    (h : (probe filter path).run.run s = (.error (.failure failure), t))
    (hresidency : failure.kind = .residency) (hstatus : failure.status = some record) :
    ∃ (v : s.Approach filter path) (e : SystemError),
      w.Queries record.size v (.error (.system e)) t := by
  obtain ⟨rfl, e, hfailing, rfl⟩ := failing_of_residency h hresidency
  obtain ⟨hbefore, hmishap⟩ := Answers.failing?_eq_some_iff.1 hfailing
  have hreport : (s.answers filter path).report = .error (.system e) := raisedBy_eq_some.1 hmishap
  obtain ⟨v, hstamped, hqueries⟩ := w.queries_of_clears hbefore
  have hsize : record.size = v.size := by
    rw [← Option.some.inj hstatus, Answers.built_of_stamped _ hstamped]
    rfl
  rw [hreport, ← hsize] at hqueries
  exact ⟨v, e, hqueries⟩

end Described

/-- Where a probe gets past its directory check, a block device is asked for its size once and any
other file never. What the record tells, what the pages are queried over and what a failed query
leaves behind is that answer, or else the size of the probe's own description; and a platform that
has no size for devices fails their probes. -/
theorem probe_resolves (w : s.Described filter path) {kind : FileKind}
    (hkind : w.metadata.kind = .ok kind) (hdirectory : kind ≠ .directory) :
    let run := (probe filter path).run.run s
    ∃ calls, run.2.machine.calls = s.machine.calls ++ calls ∧
      (∀ inspected, w.FindsDevice inspected →
        run.2.prober.deviceSize = s.prober.deviceSize.next ∧ w.AsksOnce inspected calls) ∧
      ((∀ inspected, ¬w.FindsDevice inspected) →
        run.2.prober.deviceSize = s.prober.deviceSize ∧ ∀ c ∈ calls, ¬c.AsksDevice) ∧
      (∀ c ∈ calls, ∀ length, c.range? = some length → w.Resolves length) ∧
      (∀ record, run.1 = .ok record →
        ∃ (v : s.Approach filter path) (report : Option Report),
          w.Queries record.size v (.ok report) run.2 ∧ v.record.merge report = .ok record) ∧
      (∀ failure record, run.1 = .error (.failure failure) → failure.kind = .residency →
        failure.status = some record →
        ∃ (v : s.Approach filter path) (e : SystemError),
          w.Queries record.size v (.error (.system e)) run.2) ∧
      (∀ inspected, w.FindsDevice inspected →
        s.prober.deviceSize = .ofPlatform s.machine.platform →
        ¬"linux".toList <+: s.machine.platform.name.toList → s.machine.platform.name ≠ "darwin" →
          w.FailsUnsized inspected calls run) := by
  intro run
  have hrun : run = ((s.answers filter path).outcome, s.after (s.answers filter path)) :=
    run_probe s filter path
  refine ⟨(s.answers filter path).calls, ?_, ?_, ?_, ?_, ?_, ?_, ?_⟩
  · rw [hrun, calls_after]
  · intro inspected hdevice
    obtain ⟨hblock, -⟩ := w.findsDevice_iff.1 hdevice
    rw [hrun]
    exact ⟨deviceSize_after (w.clears_inspection hkind hdirectory hblock) hblock,
      w.asksOnce hkind hdirectory hdevice⟩
  · intro hdevice
    have hother := w.namedKind_ne_block hdevice
    rw [hrun]
    exact ⟨deviceSize_drawn fun _ => hother, not_asksDevice_of_ne_block hother⟩
  · intro c hc length hrange
    exact w.resolves_of_size (residency_of_range hrange hc).1
  · intro record hrecord
    exact w.queries_of_record (Prod.ext hrecord rfl)
  · intro failure record hfailure hresidency hstatus
    exact w.queries_of_failure (Prod.ext hfailure rfl) hresidency hstatus
  · intro inspected hdevice hplatform hlinux hdarwin
    rw [hrun]
    exact w.failsUnsized hkind hdirectory hdevice hplatform hlinux hdarwin

/-- A block device of a mebibyte, on a platform. -/
def onDisk (p : Platform) (closeFault : Option ErrorCode) : Session where
  machine :=
    { files := [("f", { Node.holding ⟨0o60644, 0, ⟨0, 0⟩⟩ with closeFault := closeFault })]
      platform := p
      devices := [(0x80081272, .ok 1048576)]
      clock := ⟨some .epoch, []⟩
      memory := 0x800000000
      number_lt := Machine.number_lt_of_none }
  prober := .ofPlatform p true

lemma deviceSize_onDisk (p : Platform) (closeFault : Option ErrorCode) :
    (onDisk p closeFault).prober.deviceSize = .ofPlatform p := rfl

lemma exists_described_onDisk (p : Platform) (closeFault : Option ErrorCode) :
    ∃ w : (onDisk p closeFault).Described .allowAll "f", w.metadata.kind = .ok .block := by
  have hclear : ((onDisk p closeFault).answers .allowAll "f").Clears
      [.opening, .filter, .description] := by
    intro k hk
    simp only [List.mem_cons, List.not_mem_nil, or_false] at hk
    rcases hk with rfl | rfl | rfl <;> rfl
  have htold : ((onDisk p closeFault).answers .allowAll "f").metadata =
      .ok ⟨0o60644, 0, ⟨0, 0⟩⟩ := rfl
  obtain ⟨w, -, hmetadata, -⟩ := exists_described hclear
  refine ⟨w, ?_⟩
  rw [← Except.ok.inj (htold.symm.trans hmetadata)]
  rfl

theorem probe_resolves_disk :
    let s := onDisk ⟨"linux", "posix"⟩ none
    ∃ (w : s.Described .allowAll "f") (record : Record), w.metadata.kind = .ok .block ∧
      FileKind.block ≠ .directory ∧ ((probe .allowAll "f").run.run s).1 = .ok record ∧
        record.size = 1048576 ∧ w.Resolves 1048576 := by
  intro s
  obtain ⟨w, hkind⟩ := exists_described_onDisk _ _
  let record : Record :=
    { name := "f", size := 1048576, timestamp := some .epoch, mtime := some .epoch
      pages := 256, cached := 256, uncached := 0, percent := .ofBits 0x4059000000000000 }
  have hrun : ((probe .allowAll "f").run.run s).1 = .ok record := by
    rw [run_probe]
    decide +kernel
  obtain ⟨calls, -, -, -, -, hrecord, -⟩ := probe_resolves w hkind (by decide)
  obtain ⟨v, report, hqueries, -⟩ := hrecord record hrun
  exact ⟨w, record, hkind, by decide, hrun, rfl, hqueries.resolves⟩

/-- On a platform that cannot size devices, too, an error of closing comes in place of the failure. -/
theorem probe_disk_failing_close :
    let s := onDisk ⟨"freebsd13", "posix"⟩ (some 5)
    s.prober.deviceSize = .ofPlatform s.machine.platform ∧
      ¬"linux".toList <+: s.machine.platform.name.toList ∧ s.machine.platform.name ≠ "darwin" ∧
      (∃ (w : s.Described .allowAll "f") (inspected : Machine), w.metadata.kind = .ok .block ∧
        w.FindsDevice inspected) ∧
      ((probe .allowAll "f").run.run s).1 = .error (.fault (.system (.plain 5))) := by
  intro s
  obtain ⟨w, hkind⟩ := exists_described_onDisk _ _
  have hblock : (s.answers .allowAll "f").namedKind = .ok .block := rfl
  have hdevice := w.findsDevice_iff.2 ⟨hblock, rfl⟩
  refine ⟨deviceSize_onDisk _ _, by decide, by decide, ⟨w, _, hkind, hdevice⟩, ?_⟩
  rw [run_probe]
  decide +kernel

end Session

end PageCache
