import PageCache.Proofs.Probe.Writable
import PageCache.Service.App

/-! How the service answers for a probe that came to a record or to a failure. -/

namespace PageCache.Service

variable {s t : Session} {r : Request} {path : String} {record : Record} {failure : Failure}

lemma ofBody_of_writable {b : Body} (h : b.Writable) (status : Nat) :
    Response.ofBody status b = { status, body := some b } := if_pos h

lemma run_answer_view {v : View} (hview : r.destination = .view v) :
    (answer r).run s = (if r.withoutBody then { ((v.answer r).run s).1 with body := none }
      else ((v.answer r).run s).1, ((v.answer r).run s).2) := by
  rw [answer, hview]
  rfl

lemma run_answer {v : View} (hview : r.destination = .view v) (hbody : r.withoutBody = false) :
    (answer r).run s = (v.answer r).run s := by
  rw [run_answer_view hview, hbody]
  rfl

lemma writable_record (hr : s.prober.residency.Writable)
    (h : (probe path).run s = (.ok record, t)) : (Body.record record).Writable := by
  intro other hother
  obtain rfl := List.mem_singleton.1 hother
  exact Session.integers_of_run (fun _ => hr) h

lemma writable_failure (h : (probe path).run s = (.error (.failure failure), t)) :
    (Body.failure failure).Writable := by
  obtain ⟨-, k, x, p, -, -, rfl⟩ := Session.failure_of_run h
  intro record hrecord
  obtain rfl := List.mem_singleton.1 hrecord
  exact Answers.integers_built k

lemma failureStatus_eq (f : Failure) : failureStatus f = 404 ∨ failureStatus f = 422 := by
  rw [failureStatus]
  split
  · exact Or.inl rfl
  · exact Or.inr rfl

lemma run_answerStatus_failure (hpath : r.parameter? "path" = some path) (hne : path ≠ "")
    (h : (probe path).run s = (.error (.failure failure), t)) :
    (answerStatus r).run s =
      ({ status := failureStatus failure, body := some (.failure failure) }, t) := by
  rw [answerStatus, hpath, Option.getD_some, if_neg hne, StateT.run_bind, h]
  exact congrArg (·, t) (ofBody_of_writable (writable_failure h) (failureStatus failure))

lemma field?_status_failure (h : failure.status = some record) :
    (Body.ofFailure failure).field? "status" = some (Listing.Object.ofRecord record) := by
  rw [Body.ofFailure, h]
  rfl

lemma field?_filename_record :
    (Listing.Object.ofRecord record).field? "filename" = some (.text record.name) := rfl

/-- What the service answers for a probe that came to this. -/
def answerTo : Except Failure Record → Response
  | .ok record => { status := 200, body := some (.record record) }
  | .error failure => { status := failureStatus failure, body := some (.failure failure) }

lemma run_answerStatus {outcome : Except Failure Record} (hr : s.prober.residency.Writable)
    (hpath : r.parameter? "path" = some path) (hne : path ≠ "")
    (h : (probe path).run s = (outcome.mapError .failure, t)) :
    (answerStatus r).run s = (answerTo outcome, t) := by
  cases outcome with
  | ok record =>
    rw [Sequencing.mapError_ok] at h
    rw [answerStatus, hpath, Option.getD_some, if_neg hne, StateT.run_bind, h]
    exact congrArg (·, t) (ofBody_of_writable (writable_record hr h) 200)
  | error failure => exact run_answerStatus_failure hpath hne h

/-- No path, or an empty one. -/
lemma run_answerStatus_missing (h : ∀ path, r.parameter? "path" = some path → path = "") :
    (answerStatus r).run s = ({ status := 400, body := some .missingPath }, s) := by
  have hempty : (r.parameter? "path").getD "" = "" := by
    cases hpath : r.parameter? "path" with
    | none => rfl
    | some path => exact h path hpath
  have hwritable : Body.missingPath.Writable := fun _ h => absurd h List.not_mem_nil
  rw [answerStatus]
  simp only [hempty, if_true]
  rw [ofBody_of_writable hwritable]
  rfl

end PageCache.Service
