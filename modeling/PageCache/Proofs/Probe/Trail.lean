import PageCache.Proofs.Probe.Course
import PageCache.Proofs.Probe.Mishaps

/-! What a probe leaves behind in the prober: its own entries at the end of the log, all of them
about its path, and providers that are where they were or one answer further on. -/

namespace PageCache

namespace Answers

variable {a : Answers} {e : Log.Entry}

end Answers

namespace Session

variable (s : Session) (a : Answers)

/-- A law of the residency provider that its next answer keeps holds behind a probe. -/
lemma residency_after {P : Residency → Prop} (hnext : ∀ r, P r → P r.next)
    (h : P s.prober.residency) : P (s.after a).prober.residency := by
  have hdrawn : ∀ (ks : List Step) (s : Session), P s.prober.residency →
      P (ks.foldl (·.drawing a ·) s).prober.residency := by
    intro ks
    induction ks with
    | nil => exact fun _ h => h
    | cons k ks ih =>
      intro s h
      apply ih
      cases k with
      | residency => exact hnext _ h
      | size =>
        rw [residency_drawing_size]
        exact h
      | _ => exact h
  exact hdrawn a.taken s h

variable {s} {t : Session} {filter : Filter} {path : String} {failure : Failure}

/-- What there is behind a probe that came to a failure. -/
lemma failure_of_run (h : (probe filter path).run.run s = (.error (.failure failure), t)) :
    let a := s.answers filter path
    t = s.after a ∧ ∃ k x p, a.failing? = some (k, x) ∧ k.handle x = .ok p ∧
      failure = .ofProblem p (a.built k) := by
  intro a
  rw [run_probe, Prod.mk.injEq] at h
  obtain ⟨houtcome, rfl⟩ := h
  have hended : a.ended = .error (.failure failure) :=
    a.ended_of_outcome houtcome (by rintro f ⟨⟩)
  refine ⟨rfl, ?_⟩
  cases hfailing : a.failing? with
  | none =>
    obtain ⟨record, -, hok⟩ := Answers.ended_ok hfailing
    rw [hok] at hended
    cases hended
  | some mishap =>
    obtain ⟨k, x⟩ := mishap
    rw [Answers.ended, hfailing, Except.error.injEq, Answers.abort] at hended
    cases hhandle : k.handle x with
    | error f =>
      rw [hhandle] at hended
      cases hended
    | ok p =>
      rw [hhandle] at hended
      exact ⟨k, x, p, rfl, hhandle, (Abort.failure.inj hended).symm⟩

end Session

end PageCache
