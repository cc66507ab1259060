import PageCache.Proofs.Probe.Course
import PageCache.Proofs.Probe.Mishaps

/-! Faults that a probe lets through: it answers with a record or with a failure of its own, unless
its path cannot be handed over, a mode, a size, a time or a count is out of range, or its descriptor
cannot be closed. -/

namespace PageCache

namespace Answers

variable {a : Answers} {k : Step} {f : Fault}

lemma abort_eq_fault {x : Mishap} (h : a.abort k x = .fault f) :
    x = .raised f ∧ k.handle x = .error f := by
  rw [abort] at h
  cases hhandle : k.handle x with
  | ok p => simp [hhandle] at h
  | error g =>
    rw [hhandle] at h
    obtain rfl := Abort.fault.inj h
    refine ⟨?_, rfl⟩
    cases x with
    | directory => cases hhandle
    | raised f => cases k <;> cases f <;> cases hhandle <;> rfl

lemma ended_eq_fault (hsystemic : a.Systemic) :
    a.ended = .error (.fault f) ↔ ∃ k, a.Clears k.before ∧ a.Stray k f := by
  constructor
  · intro h
    cases hfailing : a.failing? with
    | none =>
      obtain ⟨record, -, hended⟩ := ended_ok hfailing
      simp [hended] at h
    | some mishap =>
      obtain ⟨k, x⟩ := mishap
      rw [ended, hfailing, Except.error.injEq] at h
      obtain ⟨hclear, hk⟩ := failing?_eq_some_iff.1 hfailing
      obtain ⟨rfl, hhandle⟩ := abort_eq_fault h
      exact ⟨k, hclear, stray_of_handle hsystemic hclear hk hhandle⟩
  · rintro ⟨k, hclear, hstray⟩
    have hfailing := failing?_eq_some_iff.2 ⟨hclear, mishap_of_stray hclear hstray⟩
    have habort : a.abort k (.raised f) = .fault f := by rw [abort, hstray.handle]
    simp only [ended, hfailing, habort]

/-- Where the file was not opened, only what kept it from that can be let through. -/
lemma stray_iff_of_refused {g : Fault} (h : a.opening = some g) :
    (∃ k, a.Clears k.before ∧ a.Stray k f) ↔ f = g ∧ ∀ e, g ≠ .system e := by
  constructor
  · rintro ⟨k, hclear, hstray⟩
    have hopened : .opening ∈ k.before → False := by
      intro hmem
      have hmishap := hclear _ hmem
      rw [mishap, h] at hmishap
      cases hmishap
    cases hstray with
    | opening hfault hother =>
      obtain rfl := Option.some.inj (h.symm.trans hfault)
      exact ⟨rfl, hother⟩
    | _ => exact (hopened (by decide)).elim
  · rintro ⟨rfl, hother⟩
    exact ⟨.opening, fun _ hk => absurd hk List.not_mem_nil, .opening h hother⟩

end Answers

namespace Session

theorem probe_eq_fault_iff (s : Session) (filter : Filter) (path : String)
    (h : (s.answers filter path).Systemic) (f : Fault) :
    let a := s.answers filter path
    ((probe filter path).run.run s).1 = .error (.fault f) ↔
      (¬s.machine.Takes path ∧ f = .embeddedNull) ∨
      a.opening = none ∧ ((∃ code, a.closing = some code ∧ f = .system (.plain code)) ∨
        a.closing = none ∧ ∃ k, a.Clears k.before ∧ a.Stray k f) := by
  intro a
  have hended : a.ended = .error (.fault f) ↔ ∃ k, a.Clears k.before ∧ a.Stray k f :=
    Answers.ended_eq_fault h
  have hrun : ((probe filter path).run.run s).1 = a.outcome := by rw [run_probe]
  have hrefused : a.opening = some .embeddedNull ↔ ¬s.machine.Takes path :=
    Machine.openingFault_eq_embeddedNull_iff
  rw [hrun, Answers.outcome]
  cases hopening : a.opening with
  | some g =>
    simp only [hended, Answers.stray_iff_of_refused hopening, reduceCtorEq, false_and, or_false]
    obtain ⟨hpath, rfl⟩ | ⟨htakes, code, -, rfl⟩ := Machine.openingFault_cases hopening
    · simp [hpath]
    · simp [htakes]
  | none =>
    have htakes : s.machine.Takes path := (Machine.takes_of_openingFault hopening).1
    cases hclosing : a.closing with
    | some code => simp [eq_comm, htakes]
    | none => simp [hended, htakes]

theorem probe_eq_fault_iff_late_time :
    let s := onFile (.holding ⟨0o100644, 5000, ⟨253402300800, 0⟩⟩)
    (s.answers .allowAll "f").Systemic ∧
      ((probe .allowAll "f").run.run s).1 = .error (.fault (.yearOutOfRange 10000)) := by
  intro s
  have hsize : (s.answers .allowAll "f").size = .ok 5000 := by decide +kernel
  have hsystemic : (s.answers .allowAll "f").Systemic := by
    refine Answers.systemic_onFile fun size h => ?_
    obtain rfl := Except.ok.inj (hsize.symm.trans h)
    decide
  have hmetadata : (s.answers .allowAll "f").metadata = .ok ⟨0o100644, 5000, ⟨253402300800, 0⟩⟩ :=
    rfl
  have htime : (⟨253402300800, 0⟩ : FileTime).toInstant = .error (.yearOutOfRange 10000) := by
    decide +kernel
  have hclear : (s.answers .allowAll "f").Clears Step.stamp.before := by
    change ∀ k ∈ Step.stamp.before, _
    decide +kernel
  exact ⟨hsystemic,
    (probe_eq_fault_iff s .allowAll "f" hsystemic _).2
      (.inr ⟨rfl, .inr ⟨rfl, .stamp, hclear, .stamp hmetadata htime⟩⟩)⟩

/-- An error of closing stands in for a record, and comes as no failure of the probe. -/
theorem probe_failing_close :
    let s := onFile { Node.holding ⟨0o100644, 5000, ⟨0, 0⟩⟩ with closeFault := some 5 }
    (s.answers .allowAll "f").Systemic ∧ (s.answers .allowAll "f").failing? = none ∧
      ((probe .allowAll "f").run.run s).1 = .error (.fault (.system (.plain 5))) := by
  intro s
  have hsize : (s.answers .allowAll "f").size = .ok 5000 := by decide +kernel
  refine ⟨?_, by decide +kernel, ?_⟩
  · refine Answers.systemic_onFile fun size h => ?_
    obtain rfl := Except.ok.inj (hsize.symm.trans h)
    decide
  · rw [run_probe]
    decide +kernel

end Session

end PageCache
