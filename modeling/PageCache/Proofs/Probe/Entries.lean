import PageCache.Proofs.Probe.Counts
import PageCache.Proofs.Probe.PartialRecord

/-! What a probe writes to the log: one entry for each stage that it passes, and at the end what the
record counts or which stage failed, and why. -/

namespace PageCache

open Sequencing Machine

namespace Session

/-- The way of a probe up to its filter, by the calls on it; and below, up to later stages. -/
structure Opened (s : Session) (path : String) where
  number : Nat
  opened : Machine
  run_open : (openFile path .nonblocking).run.run s.machine = (.ok number, opened)

structure Accepted (s : Session) (filter : Filter) (path : String) extends s.Opened path where
  accepted : Machine
  run_filter : (filter.run number).run.run opened = (.ok (), accepted)

structure Described (s : Session) (filter : Filter) (path : String) extends
    s.Accepted filter path where
  metadata : Metadata
  described : Machine
  run_fstat : (fstat number).run.run accepted = (.ok metadata, described)

structure Inspected (s : Session) (filter : Filter) (path : String) extends
    s.Described filter path where
  named : Metadata
  inspected : Machine
  kind_ne : metadata.kind ≠ .ok .directory
  run_stat : (stat path).run.run described = (.ok named, inspected)

/-- A probe comes to a stage, and what it asks for there fails. -/
inductive FailsAt (s : Session) (filter : Filter) (path : String) : Stage → Prop
  | opening {e : SystemError} {m : Machine}
      (h : (openFile path .nonblocking).run.run s.machine = (.error (.system e), m)) :
      FailsAt s filter path .opening
  | filter {f : Fault} {m : Machine} (w : s.Opened path)
      (h : (filter.run w.number).run.run w.opened = (.error f, m)) : FailsAt s filter path .filter
  | description {e : SystemError} {m : Machine} (w : s.Accepted filter path)
      (h : (fstat w.number).run.run w.accepted = (.error e, m)) : FailsAt s filter path .stat
  | directory (w : s.Described filter path) (h : w.metadata.kind = .ok .directory) :
      FailsAt s filter path .stat
  | inspection {e : SystemError} {m : Machine} (w : s.Described filter path)
      (hkind : w.metadata.kind ≠ .ok .directory)
      (h : (stat path).run.run w.described = (.error (.system e), m)) : FailsAt s filter path .size
  | size {e : SystemError} {m : Machine} (w : s.Inspected filter path)
      (hblock : w.named.kind = .ok .block)
      (h : (s.prober.deviceSize.query w.number).run.run w.inspected = (.error (.system e), m)) :
      FailsAt s filter path .size
  | residency {e : SystemError} {m : Machine} (w : s.Approach filter path)
      (h : (s.prober.residency.query w.number w.size).run.run w.ready = (.error (.system e), m)) :
      FailsAt s filter path .residency

/-- What is written before a stage, about a file of which `size` bytes are to be probed. -/
def trailTo (path : String) (size : Int) : Stage → List Log.Entry
  | .opening => []
  | .filter | .stat | .size => [⟨.debug, "opened", "probe", path⟩]
  | .residency =>
    [⟨.debug, "opened", "probe", path⟩,
      ⟨.debug, "size resolved to " ++ Numeral.text size ++ " bytes", "probe", path⟩]

/-- What a probe writes that comes to a record, or to a failure at some stage. -/
structure Writes (s : Session) (filter : Filter) (path : String) (outcome : Except Abort Record)
    (entries : List Log.Entry) : Prop where
  record (record : Record) (h : outcome = .ok record) :
    ∃ (w : s.Approach filter path) (report : Option Report) (queried : Machine),
      (s.prober.residency.query w.number w.size).run.run w.ready = (.ok report, queried) ∧
      entries = trailTo path record.size .residency ++
        (if report = none then [⟨.debug, "nothing to probe", "probe", path⟩] else []) ++
        [⟨.info, Numeral.text record.cached ++ "/" ++ Numeral.text record.pages ++
          " pages cached (" ++ String.ofList (record.percent.fixed 0) ++ "%)", "probe", path⟩]
  failure (failure : Failure) (h : outcome = .error (.failure failure)) :
    ∃ stage record, s.FailsAt filter path stage ∧ failure.status = some record ∧
      entries = trailTo path record.size stage ++
        [⟨.warning, stage.name ++ " failed: " ++ failure.message, "probe", path⟩]

end Session

namespace Answers

variable {a : Answers} {k : Step} {x : Mishap} {p : Problem}

lemma merge_of_record {stamped record : Record} {report : Option Report}
    (hstamped : a.stamped = .ok stamped) (hreport : a.report = .ok report)
    (h : a.record = .ok record) : stamped.merge report = .ok record := by
  rw [a.record_eq hstamped hreport] at h
  cases hmerge : stamped.merge report with
  | error f =>
    rw [hmerge] at h
    cases h
  | ok merged =>
    rw [hmerge, ok_bind] at h
    cases hcached : Numeral.checkWritable merged.cached with
    | error f =>
      rw [hcached] at h
      cases h
    | ok _ =>
      rw [hcached, ok_bind] at h
      cases hpages : Numeral.checkWritable merged.pages with
      | error f =>
        rw [hpages] at h
        cases h
      | ok _ =>
        rw [hpages] at h
        exact h

end Answers

namespace Session

variable {s : Session} {filter : Filter} {path : String} {k : Step} {x : Mishap} {p : Problem}

lemma exists_opened (h : (s.answers filter path).opening = none) :
    ∃ w : s.Opened path, w.number = s.machine.nextDescriptor ∧ w.opened = s.opened path :=
  ⟨⟨_, _, s.run_opened filter path h⟩, rfl, rfl⟩

lemma exists_accepted (h : (s.answers filter path).Clears [.opening, .filter]) :
    ∃ w : s.Accepted filter path, w.number = s.machine.nextDescriptor ∧
      w.accepted = s.accepted filter path := by
  obtain ⟨w, hnumber, hopened⟩ :=
    exists_opened (Option.map_eq_none_iff.1 (h .opening (by decide)))
  obtain ⟨⟨⟩, hverdict⟩ := raisedBy_eq_none.1 (h .filter (by decide))
  have hrun := s.run_accepted filter path
  rw [hverdict, ← hnumber, ← hopened] at hrun
  exact ⟨⟨w, _, hrun⟩, hnumber, rfl⟩

lemma exists_described (h : (s.answers filter path).Clears [.opening, .filter, .description]) :
    ∃ w : s.Described filter path, w.number = s.machine.nextDescriptor ∧
      (s.answers filter path).metadata = .ok w.metadata ∧
        w.described = s.described filter path := by
  obtain ⟨w, hnumber, haccepted⟩ :=
    exists_accepted fun k hk => h k (List.mem_append_left [Step.description] hk)
  obtain ⟨metadata, hmetadata⟩ := h.metadata (by decide)
  have hrun := s.run_described filter path
  rw [Answers.head_of_metadata hmetadata, ← hnumber, ← haccepted] at hrun
  exact ⟨⟨w, metadata, _, hrun⟩, hnumber, hmetadata, rfl⟩

end Session

end PageCache
