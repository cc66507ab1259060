import PageCache.Proofs.Percentage
import PageCache.Proofs.Probe.Course
import PageCache.Proofs.Probe.Mishaps

/-! The first step that goes wrong decides how a probe fails, and the calls of a probe are those of
its steps up to there. -/

namespace PageCache

open Sequencing

namespace Answers

/-- Answers of which only the path and a mode can be out of range. -/
structure Ordinary (a : Answers) : Prop extends a.Systemic where
  counts : ∀ report, a.report = .ok (some report) → 0 ≤ report.cached ∧ 0 ≤ report.missing
  mtime : ∀ metadata, a.metadata = .ok metadata → ∃ mtime, metadata.mtime.toInstant = .ok mtime
  sizeWritable : ∀ size, a.size = .ok size → Numeral.Writable size
  countsWritable : ∀ report, a.report = .ok (some report) →
    Numeral.Writable report.cached ∧ Numeral.Writable (report.cached + report.missing)
  closing : a.closing = none

end Answers

/-- What comes out of a step as it is: a path that is not handed over, a mode that tells no kind. -/
inductive Unhandled : Step → Fault → Prop
  | path : Unhandled .opening .embeddedNull
  | directory (fault : ModeFault) : Unhandled .directory (.mode fault)
  | inspection (fault : ModeFault) : Unhandled .inspection (.mode fault)

namespace Session

variable {s : Session} {filter : Filter} {path : String} {k : Step} {f : Fault}

lemma unhandled_of_stray (h : (s.answers filter path).Ordinary)
    (hstray : (s.answers filter path).Stray k f) : Unhandled k f := by
  cases hstray with
  | opening hopening hother =>
    obtain ⟨-, rfl⟩ | ⟨-, code, -, rfl⟩ := Machine.openingFault_cases hopening
    · exact .path
    · exact absurd rfl (hother _)
  | directory => exact .directory _
  | inspection => exact .inspection _
  | size hsize hn => exact absurd (h.sizeWritable _ hsize) hn
  | stamp hmetadata hfault =>
    obtain ⟨mtime, hmtime⟩ := h.mtime _ hmetadata
    simp [hmtime] at hfault
  | quotient hreport hquotient =>
    obtain ⟨hcached, hmissing⟩ := h.counts _ hreport
    obtain ⟨percent, hpercent⟩ := percentage?_isSome hcached hmissing
    simp [hpercent] at hquotient
  | counts hreport _ hcounts => exact absurd (h.countsWritable _ hreport) hcounts

theorem probe_by_first_mishap (s : Session) (filter : Filter) (path : String)
    (h : (s.answers filter path).Ordinary) :
    let a := s.answers filter path
    let run := (probe filter path).run.run s
    (¬s.machine.Takes path → run = (.error (.fault .embeddedNull), s)) ∧
      ((∃ record, run.1 = .ok record) ↔ a.failing? = none) ∧
      (∀ k x, a.failing? = some (k, x) →
        (∀ f, x = .raised f → Unhandled k f → run.1 = .error (.fault f)) ∧
        ((∀ f, x = .raised f → ¬Unhandled k f) →
          ∃ failure, run.1 = .error (.failure failure) ∧ k.failureKind = some failure.kind ∧
            failure.cause = x.exception ∧ failure.reason = if k = .filter then x.exception else none)) ∧
      run.2.machine.calls =
        s.machine.calls ++ a.taken.flatMap a.stepCalls ++
          if a.opening = none then [.close a.number] else [] := by
  intro a run
  have hrun : run = (a.outcome, s.after a) := run_probe s filter path
  have houtcome : a.outcome = a.ended := by
    rw [Answers.outcome, show a.closing = none from h.closing]
    cases a.opening <;> rfl
  refine ⟨fun hpath => run_probe_of_not_takes hpath filter, ?_⟩
  rw [hrun, houtcome, calls_after, Answers.calls, List.append_assoc]
  refine ⟨⟨?_, ?_⟩, ?_, rfl⟩
  · rintro ⟨record, hrecord⟩
    cases hfailing : a.failing? with
    | none => rfl
    | some mishap => simp [Answers.ended, hfailing] at hrecord
  · intro hfailing
    obtain ⟨record, -, hended⟩ := Answers.ended_ok hfailing
    exact ⟨record, hended⟩
  · intro k x hfailing
    obtain ⟨hclear, hk⟩ := Answers.failing?_eq_some_iff.1 hfailing
    have hended : a.ended = .error (a.abort k x) := by rw [Answers.ended, hfailing]
    rw [hended]
    constructor
    · rintro f rfl hunhandled
      cases hunhandled <;> rfl
    · intro hhandled
      cases hhandle : k.handle x with
      | ok p =>
        refine ⟨.ofProblem p (a.built k), ?_, Answers.failure_of_handle hk hhandle⟩
        rw [Answers.abort, hhandle]
      | error f =>
        cases x with
        | directory => cases hhandle
        | raised g =>
          have hstray := Answers.stray_of_handle h.toSystemic hclear hk hhandle
          exact absurd (unhandled_of_stray h hstray) (hhandled g rfl)

lemma size_holding {mode size : Int}
    (h : ((onFile (.holding ⟨mode, 5000, ⟨0, 0⟩⟩)).answers .allowAll "f").size = .ok size) :
    size = 5000 := by
  change (do if (← (⟨mode, 5000, ⟨0, 0⟩⟩ : Metadata).kind) = .block then
    .error (.system (.plain ErrorCode.inappropriateRequest)) else return 5000 :
      Except Fault Int) = .ok size at h
  cases hkind : (⟨mode, 5000, ⟨0, 0⟩⟩ : Metadata).kind with
  | error f =>
    rw [hkind] at h
    cases h
  | ok kind =>
    rw [hkind, ok_bind] at h
    split at h
    · cases h
    · exact (Except.ok.inj h).symm

lemma ordinary_holding (mode : Int) :
    ((onFile (.holding ⟨mode, 5000, ⟨0, 0⟩⟩)).answers .allowAll "f").Ordinary := by
  set a := (onFile (.holding ⟨mode, 5000, ⟨0, 0⟩⟩)).answers .allowAll "f"
  have hmtime : (⟨0, 0⟩ : FileTime).toInstant = .ok .epoch := by decide +kernel
  have htwo : (Residency.mincore 4096).answer 0x800000000 {} "linux" 5000 = .ok (some ⟨2, 0⟩) := by
    decide +kernel
  have hresidency : a.residency 5000 = .ok (some ⟨2, 0⟩) := htwo
  have hreport : ∀ report, a.report = .ok (some report) → report = ⟨2, 0⟩ := by
    intro report h
    rw [Answers.report] at h
    cases hsize : a.size with
    | error f =>
      rw [hsize] at h
      cases h
    | ok size =>
      rw [hsize, ok_bind, size_holding hsize, hresidency, Except.ok.injEq, Option.some.injEq] at h
      exact h.symm
  constructor
  · refine Answers.systemic_onFile fun size hsize => ?_
    rw [size_holding hsize]
    decide
  · rintro report hok
    rw [hreport report hok]
    decide
  · rintro metadata hok
    obtain rfl := Except.ok.inj hok
    exact ⟨.epoch, hmtime⟩
  · rintro size hsize
    rw [size_holding hsize]
    decide +kernel
  · rintro report hok
    rw [hreport report hok]
    decide +kernel
  · rfl

theorem probe_by_first_mishap_two_pages :
    let s := onFile (.holding ⟨0o100644, 5000, ⟨0, 0⟩⟩)
    (s.answers .allowAll "f").Ordinary ∧
      ∃ record, ((probe .allowAll "f").run.run s).1 = .ok record := by
  intro s
  have hordinary : (s.answers .allowAll "f").Ordinary := ordinary_holding _
  exact ⟨hordinary, (probe_by_first_mishap s .allowAll "f" hordinary).2.1.2 (by decide +kernel)⟩

/-- A path with a null inside is no path that cannot be opened: the failure of opening never comes. -/
theorem probe_null_path :
    let s := onFile (.holding ⟨0o100644, 5000, ⟨0, 0⟩⟩)
    (s.answers .allowAll "a\x00b").Ordinary ∧
      (probe .allowAll "a\x00b").run.run s = (.error (.fault .embeddedNull), s) := by
  intro s
  set a := s.answers .allowAll "a\x00b"
  have hmetadata : a.metadata = .error (.system (.plain ErrorCode.badDescriptor)) := rfl
  have hsize : ∀ size, a.size ≠ .ok size := by
    intro size hsize
    rw [Answers.size, hmetadata] at hsize
    cases hsize
  have hreport : ∀ report, a.report ≠ .ok report := by
    intro report hreport
    rw [Answers.report, Answers.size, hmetadata] at hreport
    cases hreport
  refine ⟨⟨Answers.systemic_onFile fun size h => absurd h (hsize size), ?_, ?_, ?_, ?_, rfl⟩, ?_⟩
  · exact fun report h => absurd h (hreport _)
  · intro metadata h
    cases hmetadata.symm.trans h
  · exact fun size h => absurd h (hsize size)
  · exact fun report h => absurd h (hreport _)
  · exact run_probe_of_not_takes (by decide) .allowAll

end Session

end PageCache
