import PageCache.Proofs.Probe.Stations
import PageCache.Proofs.Service.Status

/-! The record that a failure carries: the bare path up to the residency query, and there the size,
the time and the clock that the calls before it told. -/

namespace PageCache

open Sequencing Machine

namespace Answers

variable {a : Answers}

lemma calls_before_residency (h : a.opening = none) : Step.residency.before.flatMap a.stepCalls =
    [.open a.path .nonblocking] ++ a.trial.calls ++ [.fstat a.number] ++ [.stat a.path] ++
      a.stepCalls .size ++ [.now] := by
  have hbefore : Step.residency.before =
      [.opening, .filter, .description, .directory, .inspection, .size, .stamp] := by decide
  simp only [hbefore, List.flatMap_cons, List.flatMap_nil, List.append_nil, List.append_assoc,
    a.stepCalls_opening h]
  rfl

lemma head_of_metadata {metadata : Metadata} (h : a.metadata = .ok metadata) :
    a.trial.left.head = .ok metadata := by
  rw [Answers.metadata, Filter.described] at h
  cases hhead : a.trial.left.head with
  | ok m =>
    rw [hhead, mapError_ok] at h
    rw [Except.ok.inj h]
  | error code =>
    rw [hhead, mapError_error] at h
    cases h

lemma named_of_namedKind {kind : FileKind} (h : a.namedKind = .ok kind) :
    ∃ named, a.inspection = .ok named ∧ named.kind = .ok kind := by
  rw [namedKind] at h
  cases hinspection : a.inspection with
  | ok named =>
    rw [hinspection] at h
    exact ⟨named, rfl, h⟩
  | error code =>
    rw [hinspection] at h
    cases h

lemma Clears.kind_ne_directory {ks : List Step} {metadata : Metadata} (h : a.Clears ks)
    (hk : .directory ∈ ks) (hmetadata : a.metadata = .ok metadata) :
    metadata.kind ≠ .ok .directory := by
  intro hkind
  have hclear := h _ hk
  simp only [mishap, kind, hmetadata, ok_bind, hkind, Except.toOption, if_true] at hclear
  cases hclear

lemma size_of_kind {metadata : Metadata} {kind : FileKind} (hmetadata : a.metadata = .ok metadata)
    (hkind : a.namedKind = .ok kind) :
    a.size = if kind = .block then a.capacity else .ok metadata.size := by
  rw [size, hmetadata, hkind]
  rfl

lemma toInstant_of_mtime {metadata : Metadata} {mtime : Instant} (hmetadata : a.metadata = .ok metadata)
    (h : a.mtime = .ok mtime) : metadata.mtime.toInstant = .ok mtime := by
  rw [a.mtime_eq hmetadata] at h
  cases hinstant : metadata.mtime.toInstant with
  | ok instant =>
    rw [hinstant, mapError_ok] at h
    rw [Except.ok.inj h]
  | error f =>
    rw [hinstant, mapError_error] at h
    cases h

lemma built_of_ne {k : Step} (h : k ≠ .residency) : a.built k = a.draft := by
  cases k with
  | residency => exact absurd rfl h
  | _ => rfl

lemma counts_built (k : Step) : (a.built k).pages = 0 ∧ (a.built k).cached = 0 ∧
    (a.built k).uncached = 0 ∧ (a.built k).percent = .zero := by
  by_cases hk : k = .residency
  · subst hk
    rw [built]
    cases hstamped : a.stamped with
    | error f => exact ⟨rfl, rfl, rfl, rfl⟩
    | ok stamped =>
      obtain ⟨_, mtime, _, hrecord⟩ := a.stamped_ok hstamped
      rw [Except.toOption, Option.getD_some, hrecord]
      exact ⟨rfl, rfl, rfl, rfl⟩
  · rw [built_of_ne hk]
    exact ⟨rfl, rfl, rfl, rfl⟩

end Answers

lemma Step.eq_residency_of_failureKind {k : Step} (h : k.failureKind = some .residency) :
    k = .residency := by
  cases k <;> cases h
  rfl

/-- Of what goes wrong at the residency query, system errors alone come to a failure. -/
lemma Step.eq_system_of_handle {x : Mishap} {p : Problem} (h : Step.residency.handle x = .ok p)
    (hx : x ≠ .directory) : ∃ e, x = .raised (.system e) := by
  cases x with
  | directory => exact absurd rfl hx
  | raised f =>
    cases f with
    | system e => exact ⟨e, rfl⟩
    | _ => cases h

namespace Session

/-- The way of a probe to its residency query, by the machines in between. -/
structure Approach (s : Session) (filter : Filter) (path : String) where
  number : Nat
  metadata : Metadata
  named : Metadata
  size : Int
  timestamp : Option Instant
  mtime : Instant
  opened : Machine
  accepted : Machine
  described : Machine
  inspected : Machine
  sized : Machine
  ready : Machine
  run_open : (openFile path .nonblocking).run.run s.machine = (.ok number, opened)
  run_filter : (filter.run number).run.run opened = (.ok (), accepted)
  run_fstat : (fstat number).run.run accepted = (.ok metadata, described)
  kind_ne : metadata.kind ≠ .ok .directory
  run_stat : (stat path).run.run described = (.ok named, inspected)
  run_query : named.kind = .ok .block →
    (s.prober.deviceSize.query number).run.run inspected = (.ok size, sized)
  size_eq : named.kind ≠ .ok .block → size = metadata.size ∧ sized = inspected
  run_now : now.run sized = (timestamp, ready)
  mtime_eq : metadata.mtime.toInstant = .ok mtime

variable {s t : Session} {filter : Filter} {path : String} {failure : Failure}

def Approach.record (w : s.Approach filter path) : Record :=
  { name := path, size := w.size, timestamp := w.timestamp, mtime := some w.mtime }

lemma exists_approach (h : (s.answers filter path).Clears Step.residency.before) :
    ∃ w : s.Approach filter path, w.number = s.machine.nextDescriptor ∧
      w.ready = s.ready filter path ∧ (s.answers filter path).stamped = .ok w.record := by
  obtain ⟨⟨⟩, hverdict⟩ := raisedBy_eq_none.1 (h .filter (by decide))
  obtain ⟨metadata, hmetadata⟩ := h.metadata (by decide)
  obtain ⟨kind, hkind⟩ := h.namedKind (by decide)
  obtain ⟨measured, hmeasured⟩ := h.measured (by decide)
  obtain ⟨mtime, hmtime⟩ := h.mtime (by decide)
  obtain ⟨hsize, hdraft⟩ := Answers.measured_ok _ hmeasured
  obtain ⟨named, hnamed, hnamedKind⟩ := Answers.named_of_namedKind hkind
  have hopening : (s.answers filter path).opening = none :=
    Option.map_eq_none_iff.1 (h .opening (by decide))
  have hsize_of := Answers.size_of_kind hmetadata hkind
  have haccepted := s.run_accepted filter path
  have hdescribed := s.run_described filter path
  have hinspected := s.run_inspected filter path hopening
  rw [hverdict] at haccepted
  rw [Answers.head_of_metadata hmetadata] at hdescribed
  rw [hnamed] at hinspected
  have hblock : kind = .block →
      (s.prober.deviceSize.query s.machine.nextDescriptor).run.run (s.inspected filter path) =
        (.ok measured.size, s.sized filter path) := by
    rintro rfl
    rw [s.run_sized filter path hkind, ← hsize, hsize_of, if_pos rfl]
  have hother : kind ≠ .block →
      measured.size = metadata.size ∧ s.sized filter path = s.inspected filter path := by
    intro hother
    rw [if_neg hother] at hsize_of
    exact ⟨Except.ok.inj (hsize.symm.trans hsize_of), s.sized_eq filter path hkind hother⟩
  let w : s.Approach filter path :=
    { number := s.machine.nextDescriptor, metadata, named, size := measured.size
      timestamp := (s.answers filter path).timestamp, mtime
      opened := s.opened path, accepted := s.accepted filter path
      described := s.described filter path, inspected := s.inspected filter path
      sized := s.sized filter path, ready := s.ready filter path
      run_open := s.run_opened filter path hopening
      run_filter := haccepted
      run_fstat := hdescribed
      kind_ne := h.kind_ne_directory (by decide) hmetadata
      run_stat := hinspected
      run_query := fun h => hblock (Except.ok.inj (hnamedKind.symm.trans h))
      size_eq := fun h => hother fun hkind => h (hkind ▸ hnamedKind)
      run_now := s.run_ready filter path
      mtime_eq := Answers.toInstant_of_mtime hmetadata hmtime }
  refine ⟨w, rfl, rfl, ?_⟩
  rw [Answers.stamped_eq, hmeasured, ok_bind, hmtime, ok_bind, hdraft]
  rfl

/-- A probe that comes to its residency query asks it there. -/
lemma exists_report (h : (s.answers filter path).Clears Step.residency.before) :
    ∃ w : s.Approach filter path, (s.answers filter path).stamped = .ok w.record ∧
      w.number = s.machine.nextDescriptor ∧
      (s.prober.residency.query w.number w.size).run.run w.ready =
        ((s.answers filter path).report, s.queried filter path) := by
  obtain ⟨w, hnumber, hready, hstamped⟩ := exists_approach h
  have hsize : (s.answers filter path).size = .ok w.size := (Answers.stamped_ok _ hstamped).1
  refine ⟨w, hstamped, hnumber, ?_⟩
  rw [hnumber, hready]
  exact s.run_queried filter path hsize

lemma calls_queried (h : (s.answers filter path).opening = none) : (s.queried filter path).calls =
    s.machine.calls ++
      (Step.residency.before ++ [Step.residency]).flatMap (s.answers filter path).stepCalls := by
  rw [queried, ready_eq, noting_noting, List.flatMap_append, Answers.calls_before_residency h,
    List.flatMap_singleton]
  rfl

lemma calls_after_queried (h : (s.answers filter path).Clears Step.residency.before) :
    (s.after (s.answers filter path)).machine.calls =
      (s.queried filter path).calls ++ [.close s.machine.nextDescriptor] := by
  obtain ⟨rest, htaken, hrest⟩ := Answers.taken_of_clears h
  have hopening := Option.map_eq_none_iff.1 (h .opening (by decide))
  have hnone : rest.flatMap (s.answers filter path).stepCalls = [] := by
    refine List.flatMap_eq_nil_iff.2 fun k hk => ?_
    obtain rfl := List.mem_singleton.1 (hrest k hk)
    rfl
  rw [calls_after, Answers.calls, htaken, if_pos hopening, calls_queried hopening, List.flatMap_append,
    List.flatMap_append, List.flatMap_cons, List.flatMap_singleton, hnone, List.append_nil]
  simp only [List.append_assoc]
  rfl

/-- A failure of the residency kind is the system error of the residency query. -/
lemma failing_of_residency (h : (probe filter path).run.run s = (.error (.failure failure), t))
    (hkind : failure.kind = .residency) :
    t = s.after (s.answers filter path) ∧ ∃ e,
      (s.answers filter path).failing? = some (.residency, .raised (.system e)) ∧
        failure = .ofProblem (.cannotQuery e) ((s.answers filter path).built .residency) := by
  obtain ⟨rfl, k, x, p, hfailing, hhandle, rfl⟩ := failure_of_run h
  obtain ⟨-, hmishap⟩ := Answers.failing?_eq_some_iff.1 hfailing
  obtain ⟨hfailure, -, -⟩ := Answers.failure_of_handle hmishap hhandle
  obtain rfl : k = .residency := Step.eq_residency_of_failureKind (hfailure.trans (congrArg some hkind))
  have hne : x ≠ .directory := by
    rintro rfl
    cases Answers.mishap_directory hmishap
  obtain ⟨e, rfl⟩ := Step.eq_system_of_handle hhandle hne
  obtain rfl := Except.ok.inj hhandle
  exact ⟨rfl, e, hfailing, rfl⟩

lemma exists_query {e : SystemError} {a : Answers} (ha : a = s.answers filter path)
    (h : a.failing? = some (.residency, .raised (.system e))) :
    ∃ (w : s.Approach filter path) (queried : Machine), a.built .residency = w.record ∧
      (s.prober.residency.query w.number w.size).run.run w.ready = (.error (.system e), queried) ∧
      (s.after a).machine.calls = queried.calls ++ [.close w.number] := by
  subst ha
  obtain ⟨hclear, hmishap⟩ := Answers.failing?_eq_some_iff.1 h
  obtain ⟨w, hstamped, hnumber, hquery⟩ := exists_report hclear
  have hreport : (s.answers filter path).report = .error (.system e) := raisedBy_eq_some.1 hmishap
  refine ⟨w, s.queried filter path, Answers.built_of_stamped _ hstamped, hreport ▸ hquery, ?_⟩
  rw [calls_after_queried hclear, hnumber]

theorem probe_failure_status
    (h : (probe filter path).run.run s = (.error (.failure failure), t)) :
    failure.path = path ∧ ∃ record, failure.status = some record ∧ record.name = path ∧
      record.pages = 0 ∧ record.cached = 0 ∧ record.uncached = 0 ∧ record.percent = .zero ∧
      (failure.kind ≠ .residency → record.size = 0 ∧ record.timestamp = none ∧ record.mtime = none) ∧
      (failure.kind = .residency → ∃ (w : s.Approach filter path) (e : SystemError) (queried : Machine),
        record.size = w.size ∧ record.timestamp = w.timestamp ∧ record.mtime = some w.mtime ∧
          (s.prober.residency.query w.number w.size).run.run w.ready = (.error (.system e), queried) ∧
          failure.cause = some (.system e) ∧
          t.machine.calls = queried.calls ++ [.close w.number]) ∧
      (∃ o, (Service.Body.ofFailure failure).field? "status" = some o ∧ o ≠ .null ∧
        o.field? "filename" = some (.text path)) ∧
      (filter = .allowAll → path ≠ "" → ∀ r : Service.Request, r.destination = .view .status →
        r.withoutBody = false → r.parameter? "path" = some path →
          (Service.answer r).run s =
            ({ status := Service.failureStatus failure, body := some (.failure failure) }, t)) := by
  obtain ⟨rfl, k, x, p, hfailing, hhandle, rfl⟩ := failure_of_run h
  obtain ⟨-, hmishap⟩ := Answers.failing?_eq_some_iff.1 hfailing
  obtain ⟨hkind, hcause, -⟩ := Answers.failure_of_handle hmishap hhandle
  obtain ⟨hpages, hcached, huncached, hpercent⟩ := (s.answers filter path).counts_built k
  have hname : ((s.answers filter path).built k).name = path := Answers.built_name _ k
  refine ⟨hname, _, rfl, hname, hpages, hcached, huncached, hpercent, ?_, ?_, ?_, ?_⟩
  · intro hother
    have hne : k ≠ .residency := by
      rintro rfl
      exact hother (Option.some.inj hkind).symm
    rw [Answers.built_of_ne hne]
    exact ⟨rfl, rfl, rfl⟩
  · intro hresidency
    obtain ⟨-, e, hresidency, -⟩ := failing_of_residency h hresidency
    obtain ⟨rfl, rfl⟩ := Prod.mk.inj (Option.some.inj (hfailing.symm.trans hresidency))
    obtain ⟨w, queried, hbuilt, hquery, hcalls⟩ := exists_query rfl hfailing
    rw [hbuilt]
    exact ⟨w, e, queried, rfl, rfl, rfl, hquery, hcause, hcalls⟩
  · refine ⟨_, Service.field?_status_failure rfl, Json.noConfusion, ?_⟩
    rw [Service.field?_filename_record, hname]
  · rintro rfl hne r hview hbody hpath
    rw [Service.run_answer hview hbody]
    exact Service.run_answerStatus_failure hpath hne h

theorem probe_failure_status_unmapped :
    let s := onFile { Node.holding ⟨0o100644, 5000, ⟨7, 0⟩⟩ with core := { mapFault := some 12 } }
    let failure := Failure.ofProblem (.cannotQuery (.mapping .mmap 12))
      { name := "f", size := 5000, timestamp := some .epoch, mtime := Instant.ofMicros? 7000000 }
    (∃ t, (probe .allowAll "f").run.run s = (.error (.failure failure), t)) ∧
      ∃ w : s.Approach .allowAll "f", w.size = 5000 ∧ w.timestamp = some .epoch := by
  intro s failure
  have houtcome : (s.answers .allowAll "f").outcome = .error (.failure failure) := by
    decide +kernel
  have hrun : (probe .allowAll "f").run.run s =
      (.error (.failure failure), s.after (s.answers .allowAll "f")) := by
    rw [run_probe, houtcome]
  obtain ⟨-, record, hstatus, -, -, -, -, -, -, hquery, -⟩ := probe_failure_status hrun
  obtain ⟨w, e, queried, hsize, htimestamp, -⟩ := hquery rfl
  obtain rfl := Option.some.inj hstatus
  exact ⟨⟨_, hrun⟩, w, hsize.symm, htimestamp.symm⟩

end Session

end PageCache
