import PageCache.Proofs.Probe.Stations
import PageCache.Proofs.Probe.Trail

/-! Policies run leaf by leaf. However its filters are chained, a policy asks a descriptor what its
leaves ask, from left to right up to the first that rejects; and a policy with a negative limit is
not even built. -/

namespace PageCache

open Sequencing Machine

namespace Filter

variable (number : Nat)

mutual

def leaves : Filter → List Filter
  | .chain filters => leavesAll filters
  | .allowAll => [.allowAll]
  | .regularOnly => [.regularOnly]
  | .maxSize limit => [.maxSize limit]
  | .mark label => [.mark label]
  | .reject fault => [.reject fault]

def leavesAll : List Filter → List Filter
  | [] => []
  | f :: rest => leaves f ++ leavesAll rest

end

/-- One after the other, the filters of a list all accept. -/
inductive Accepts : List Filter → Machine → Machine → Prop
  | nil {m : Machine} : Accepts [] m m
  | cons {f : Filter} {rest : List Filter} {m n o : Machine}
    (hfirst : (f.run number).run.run m = (.ok (), n)) (hrest : Accepts rest n o) :
    Accepts (f :: rest) m o

/-- Up to some filter of a list all accept, and that one rejects. -/
def Rejects (fs : List Filter) (m : Machine) (fault : Fault) (n : Machine) : Prop :=
  ∃ before f behind k, fs = before ++ f :: behind ∧ Accepts number before m k ∧
    (f.run number).run.run k = (.error fault, n)

variable {number} {fs gs : List Filter} {m n : Machine} {fault : Fault}

lemma Rejects.cons {f : Filter} {k : Machine} (h : (f.run number).run.run m = (.ok (), k))
    (hrest : Rejects number fs k fault n) : Rejects number (f :: fs) m fault n := by
  obtain ⟨before, g, behind, o, rfl, haccepts, hg⟩ := hrest
  exact ⟨f :: before, g, behind, o, rfl, .cons h haccepts, hg⟩

lemma run_runAll_ok (h : Accepts number fs m n) : (runAll number fs).run.run m = (.ok (), n) := by
  induction h with
  | nil => rfl
  | cons hfirst _ ih => rw [runAll, run_bind_ok hfirst, ih]

lemma run_runAll_error (h : Rejects number fs m fault n) :
    (runAll number fs).run.run m = (.error fault, n) := by
  obtain ⟨before, f, behind, k, rfl, haccepts, hf⟩ := h
  induction haccepts with
  | nil => rw [List.nil_append, runAll, run_bind_error hf]
  | cons hfirst _ ih => rw [List.cons_append, runAll, run_bind_ok hfirst, ih hf]

/-- Every run of a list of filters is one or the other. -/
lemma accepts_or_rejects (number : Nat) (fs : List Filter) (m : Machine) :
    (∃ n, Accepts number fs m n) ∨ ∃ fault n, Rejects number fs m fault n := by
  induction fs generalizing m with
  | nil => exact .inl ⟨m, .nil⟩
  | cons f fs ih =>
    rcases hf : (f.run number).run.run m with ⟨fault | _, k⟩
    · exact .inr ⟨fault, k, [], f, fs, m, rfl, .nil, hf⟩
    · obtain ⟨n, hn⟩ | ⟨fault, n, hn⟩ := ih k
      · exact .inl ⟨n, .cons hf hn⟩
      · exact .inr ⟨fault, n, hn.cons hf⟩

theorem run_runAll_eq_ok_iff :
    (runAll number fs).run.run m = (.ok (), n) ↔ Accepts number fs m n := by
  refine ⟨fun h => ?_, run_runAll_ok⟩
  obtain ⟨k, hk⟩ | ⟨fault, k, hk⟩ := accepts_or_rejects number fs m
  · obtain ⟨-, rfl⟩ := Prod.mk.inj ((run_runAll_ok hk).symm.trans h)
    exact hk
  · cases (run_runAll_error hk).symm.trans h

theorem run_runAll_eq_error_iff :
    (runAll number fs).run.run m = (.error fault, n) ↔ Rejects number fs m fault n := by
  refine ⟨fun h => ?_, run_runAll_error⟩
  obtain ⟨k, hk⟩ | ⟨g, k, hk⟩ := accepts_or_rejects number fs m
  · cases (run_runAll_ok hk).symm.trans h
  · obtain ⟨hfault, rfl⟩ := Prod.mk.inj ((run_runAll_error hk).symm.trans h)
    obtain rfl := Except.error.inj hfault
    exact hk

lemma runAll_append (number : Nat) (fs gs : List Filter) :
    runAll number (fs ++ gs) = runAll number fs >>= fun _ => runAll number gs := by
  induction fs with
  | nil => rw [List.nil_append, runAll, pure_bind]
  | cons f fs ih => rw [List.cons_append, runAll, ih, runAll, bind_assoc]

lemma runAll_singleton (number : Nat) (f : Filter) : runAll number [f] = f.run number :=
  bind_pure (f.run number)

mutual

theorem run_leaves (number : Nat) : ∀ f : Filter, f.run number = runAll number f.leaves
  | .chain filters => by rw [run, leaves, runAll_leavesAll number filters]
  | .allowAll => (runAll_singleton number _).symm
  | .regularOnly => (runAll_singleton number _).symm
  | .maxSize _ => (runAll_singleton number _).symm
  | .mark _ => (runAll_singleton number _).symm
  | .reject _ => (runAll_singleton number _).symm

theorem runAll_leavesAll (number : Nat) :
    ∀ fs : List Filter, runAll number fs = runAll number (leavesAll fs)
  | [] => rfl
  | f :: rest => by
    rw [runAll, leavesAll, runAll_append, run_leaves number f, runAll_leavesAll number rest]

end

mutual

lemma ne_chain_of_mem_leaves : ∀ (f : Filter), ∀ leaf ∈ f.leaves, ∀ fs, leaf ≠ .chain fs
  | .chain filters => by
    rw [leaves]
    exact ne_chain_of_mem_leavesAll filters
  | .allowAll | .regularOnly | .maxSize _ | .mark _ | .reject _ =>
    List.forall_mem_singleton.2 fun _ => Filter.noConfusion

lemma ne_chain_of_mem_leavesAll : ∀ (fs : List Filter), ∀ leaf ∈ leavesAll fs, ∀ gs, leaf ≠ .chain gs
  | [] => fun _ h => absurd h List.not_mem_nil
  | f :: rest => by
    rw [leavesAll]
    exact List.forall_mem_append.2 ⟨ne_chain_of_mem_leaves f, ne_chain_of_mem_leavesAll rest⟩

end

theorem run_eq_ok_iff {f : Filter} :
    (f.run number).run.run m = (.ok (), n) ↔ Accepts number f.leaves m n := by
  rw [run_leaves, run_runAll_eq_ok_iff]

theorem run_eq_error_iff {f : Filter} :
    (f.run number).run.run m = (.error fault, n) ↔ Rejects number f.leaves m fault n := by
  rw [run_leaves, run_runAll_eq_error_iff]

/-- A chain within a chain may as well be spread out. -/
lemma run_chain_append (number : Nat) (before fs behind : List Filter) :
    run number (.chain (before ++ .chain fs :: behind)) =
      run number (.chain (before ++ fs ++ behind)) := by
  rw [run, run, runAll_append, runAll, run, runAll_append, runAll_append, bind_assoc]

lemma run_chain_allowAll (number : Nat) (before behind : List Filter) :
    run number (.chain (before ++ .allowAll :: behind)) = run number (.chain (before ++ behind)) := by
  rw [run, run, runAll_append, runAll, run, pure_bind, runAll_append]

end Filter

namespace Session

variable {s t : Session} {f : Filter} {path : String} {failure : Failure} {reason : Fault} {n : Machine}

/-- The reason of a rejection is what the first leaf to reject has raised. -/
lemma rejects_of_rejection (h : (probe f path).run.run s = (.error (.failure failure), t))
    (hkind : failure.kind = .rejection) :
    ∃ reason n, failure.reason = some reason ∧
      Filter.Rejects s.machine.nextDescriptor f.leaves (s.opened path) reason n := by
  obtain ⟨-, k, x, p, hfailing, hhandle, rfl⟩ := failure_of_run h
  obtain ⟨-, hmishap⟩ := Answers.failing?_eq_some_iff.1 hfailing
  obtain ⟨hstep, -, hreason⟩ := Answers.failure_of_handle hmishap hhandle
  obtain rfl : k = .filter := by
    rw [show p.kind = .rejection from hkind] at hstep
    cases k with
    | filter => rfl
    | _ => cases hstep
  cases x with
  | directory => cases Answers.mishap_directory hmishap
  | raised reason =>
    have hverdict := raisedBy_eq_some.1 hmishap
    refine ⟨reason, s.accepted f path, hreason, Filter.run_eq_error_iff.1 ?_⟩
    rw [run_accepted, hverdict]

lemma rejection_of_rejects (hopening : s.machine.openingFault path = none)
    (hclosing : (s.machine.fileAt path).closeFault = none)
    (h : Filter.Rejects s.machine.nextDescriptor f.leaves (s.opened path) reason n) :
    ∃ failure t, (probe f path).run.run s = (.error (.failure failure), t) ∧
      failure.kind = .rejection ∧ failure.reason = some reason ∧ failure.cause = some reason := by
  have hverdict : (s.answers f path).trial.verdict = .error reason := by
    have hrun := Filter.run_eq_error_iff.2 h
    rw [run_accepted] at hrun
    exact (Prod.mk.inj hrun).1
  have hopened : (s.answers f path).opening = none := hopening
  have hclosed : (s.answers f path).closing = none := hclosing
  refine ⟨.ofProblem (.rejected reason) ((s.answers f path).built .filter),
    s.after (s.answers f path), ?_, rfl, rfl, rfl⟩
  rw [run_probe, Answers.outcome, hopened, hclosed, Answers.ended,
    Answers.failing?_of_verdict hopened hverdict]
  rfl

end Session

namespace Policy

mutual

def leaves : Policy → List Filter
  | .chain policies => leavesAll policies
  | .allowAll => [.allowAll]
  | .regularOnly => [.regularOnly]
  | .maxSize limit => [.maxSize limit.toNat]
  | .options false none => [.allowAll]
  | .options true none => [.regularOnly]
  | .options false (some limit) => [.maxSize limit.toNat]
  | .options true (some limit) => [.regularOnly, .maxSize limit.toNat]
  | .mark label => [.mark label]
  | .reject fault => [.reject fault]

def leavesAll : List Policy → List Filter
  | [] => []
  | p :: rest => leaves p ++ leavesAll rest

end

mutual

/-- The limits anywhere in a policy, from left to right. -/
def limits : Policy → List Int
  | .chain policies => limitsAll policies
  | .maxSize limit => [limit]
  | .options _ limit => limit.toList
  | .allowAll | .regularOnly | .mark _ | .reject _ => []

def limitsAll : List Policy → List Int
  | [] => []
  | p :: rest => limits p ++ limitsAll rest

end

def negative? (limits : List Int) : Option Int := limits.find? (· < 0)

/-- A limit is refused by its name, unless it has too many digits for that. -/
def refusal (limit : Int) : Fault :=
  if Numeral.Writable limit then .negativeLimit limit else .numeralTooLong

/-- Builds a policy and asks it about a descriptor. -/
def apply (p : Policy) (number : Nat) : ExceptT Fault (StateM Machine) Unit := do
  let filter ← liftExcept p.build
  filter.run number

/-- Builds a policy and probes a file under it. -/
def probe (p : Policy) (path : String) : Probing Record := do
  let filter ← Session.require p.build
  Session.probe filter path

/-- What becomes of some leaves, the limits among them as they are. -/
def built (limits : List Int) (leaves : List Filter) : Except Fault (List Filter) :=
  match negative? limits with
  | some limit => .error (refusal limit)
  | none => .ok leaves

lemma built_nil (leaves : List Filter) : built [] leaves = .ok leaves := rfl

lemma built_append (a b : List Int) (xs ys : List Filter) :
    built (a ++ b) (xs ++ ys) = built a xs >>= fun x => built b ys >>= fun y => .ok (x ++ y) := by
  simp only [built, negative?, List.find?_append]
  cases a.find? (· < 0) with
  | some limit => rfl
  | none => cases b.find? (· < 0) <;> rfl

lemma built_maxSize (limit : Int) :
    (Filter.maxSize? limit).map Filter.leaves = built [limit] [.maxSize limit.toNat] := by
  simp only [Filter.maxSize?, built, negative?, List.find?_cons]
  by_cases h : limit < 0
  · simp only [h, if_true, decide_true, Numeral.checkWritable, refusal]
    split <;> rfl
  · simp only [h, if_false, decide_false]
    rfl

lemma built_options (regularOnly : Bool) (limit : Option Int) :
    (Filter.ofOptions regularOnly limit).map Filter.leaves =
      built (limits (.options regularOnly limit)) (leaves (.options regularOnly limit)) := by
  cases limit with
  | none => cases regularOnly <;> rfl
  | some limit =>
    cases regularOnly with
    | false =>
      rw [limits, leaves, Option.toList_some, ← built_maxSize, Filter.ofOptions]
      cases Filter.maxSize? limit with
      | error fault => rfl
      | ok f => exact congrArg Except.ok (List.append_nil f.leaves)
    | true =>
      have happend := built_append [] [limit] [.regularOnly] [.maxSize limit.toNat]
      rw [limits, leaves, Option.toList_some]
      refine Eq.trans ?_ happend.symm
      rw [built_nil, ← built_maxSize, Filter.ofOptions]
      cases Filter.maxSize? limit with
      | error fault => rfl
      | ok f => exact congrArg (Except.ok <| Filter.regularOnly :: ·) (List.append_nil f.leaves)

mutual

theorem map_leaves_build : ∀ p : Policy, p.build.map Filter.leaves = built p.limits p.leaves
  | .allowAll => rfl
  | .regularOnly => rfl
  | .mark _ => rfl
  | .reject _ => rfl
  | .maxSize limit => built_maxSize limit
  | .options regular limit => built_options regular limit
  | .chain policies => by
    rw [limits, leaves, ← map_leavesAll_buildAll policies, build]
    cases buildAll policies <;> rfl

theorem map_leavesAll_buildAll : ∀ ps : List Policy,
    (buildAll ps).map Filter.leavesAll = built (limitsAll ps) (leavesAll ps)
  | [] => rfl
  | p :: rest => by
    rw [limitsAll, leavesAll, built_append, ← map_leaves_build p, ← map_leavesAll_buildAll rest, buildAll]
    cases p.build with
    | error fault => rfl
    | ok f => cases buildAll rest <;> rfl

end

variable {p : Policy} {limit : Int} {f : Filter}

lemma build_of_negative (h : negative? p.limits = some limit) : p.build = .error (refusal limit) := by
  have hbuild := map_leaves_build p
  rw [built, h] at hbuild
  cases hp : p.build with
  | error fault =>
    rw [hp] at hbuild
    exact congrArg Except.error (Except.error.inj hbuild)
  | ok f =>
    rw [hp] at hbuild
    cases hbuild

lemma exists_build (h : negative? p.limits = none) : ∃ f, p.build = .ok f ∧ f.leaves = p.leaves := by
  have hbuild := map_leaves_build p
  rw [built, h] at hbuild
  cases hp : p.build with
  | error fault =>
    rw [hp] at hbuild
    cases hbuild
  | ok f =>
    rw [hp] at hbuild
    exact ⟨f, rfl, Except.ok.inj hbuild⟩

lemma run_apply (p : Policy) (number : Nat) (m : Machine) :
    (p.apply number).run.run m =
      match p.build with
      | .ok f => (f.run number).run.run m
      | .error fault => (.error fault, m) := by
  rw [apply, run_bind, run_liftExcept]
  cases p.build <;> rfl

lemma run_probe (p : Policy) (path : String) (s : Session) :
    (p.probe path).run.run s =
      match p.build with
      | .ok f => (Session.probe f path).run.run s
      | .error fault => (.error (.fault fault), s) := by
  rw [probe, run_bind, Session.require, run_liftExcept]
  cases p.build <;> rfl

/-- A policy that is refused for this limit, before a descriptor is asked or a file is opened. -/
structure RefusedFor (p : Policy) (limit : Int) : Prop where
  apply_eq (number : Nat) (m : Machine) :
    (p.apply number).run.run m = (.error (refusal limit), m)
  probe_eq (path : String) (s : Session) :
    (p.probe path).run.run s = (.error (.fault (refusal limit)), s)

/-- A policy that asks a descriptor what these filters ask in turn, up to the first that rejects:
accepted is what all of them accept, and a rejection, in a probe too, is what that filter has
raised. -/
structure RunsAs (p : Policy) (leaves : List Filter) : Prop where
  accepts (number : Nat) (m n : Machine) :
    (p.apply number).run.run m = (.ok (), n) ↔ Filter.Accepts number leaves m n
  rejects (number : Nat) (m n : Machine) (fault : Fault) :
    (p.apply number).run.run m = (.error fault, n) ↔ Filter.Rejects number leaves m fault n
  of_rejection (path : String) (s t : Session) (failure : Failure)
    (hrun : (p.probe path).run.run s = (.error (.failure failure), t))
    (hkind : failure.kind = .rejection) :
    ∃ reason n, failure.reason = some reason ∧
      Filter.Rejects s.machine.nextDescriptor leaves (s.opened path) reason n
  rejection (path : String) (s : Session) (reason : Fault) (n : Machine)
    (hopening : s.machine.openingFault path = none)
    (hclosing : (s.machine.fileAt path).closeFault = none)
    (hrejects : Filter.Rejects s.machine.nextDescriptor leaves (s.opened path) reason n) :
    ∃ failure t, (p.probe path).run.run s = (.error (.failure failure), t) ∧
      failure.kind = .rejection ∧ failure.reason = some reason ∧ failure.cause = some reason

lemma refusedFor_of_negative (h : negative? p.limits = some limit) : p.RefusedFor limit where
  apply_eq number m := by rw [run_apply, build_of_negative h]
  probe_eq path s := by rw [run_probe, build_of_negative h]

lemma runsAs_leaves (h : negative? p.limits = none) : p.RunsAs p.leaves := by
  obtain ⟨f, hbuild, hleaves⟩ := exists_build h
  constructor <;> simp only [← hleaves, run_apply, run_probe, hbuild]
  case accepts => exact fun number m n => Filter.run_eq_ok_iff
  case rejects => exact fun number m n fault => Filter.run_eq_error_iff
  case of_rejection => exact fun path s t failure => Session.rejects_of_rejection
  case rejection => exact fun path s reason n => Session.rejection_of_rejects

/-- A policy with a negative limit is refused for the first of them. Any other runs as its leaves.
So chains may be nested in any way, and filters that accept everything be left out. -/
theorem run_by_leaves (p : Policy) :
    ((∃ limit ∈ p.limits, limit < 0) →
      ∃ before limit behind, p.limits = before ++ limit :: behind ∧ (∀ l ∈ before, 0 ≤ l) ∧
        limit < 0 ∧ p.RefusedFor limit) ∧
    ((∀ limit ∈ p.limits, 0 ≤ limit) →
      p.RunsAs p.leaves ∧ ∀ leaf ∈ p.leaves, ∀ fs, leaf ≠ .chain fs) ∧
    ∀ (number : Nat) (f g h : Filter),
      Filter.run number (.chain [.chain [f, g], h]) = Filter.run number (.chain [f, .chain [g, h]]) ∧
      ∀ e ∈ [.chain [], .allowAll], Filter.run number (.chain [e, f]) = f.run number ∧
        Filter.run number (.chain [f, e]) = f.run number := by
  refine ⟨fun hnegative => ?_, fun hlimits => ⟨?_, ?_⟩, fun number f g h => ⟨?_, ?_⟩⟩
  · obtain ⟨limit, hlimit⟩ : ∃ limit, negative? p.limits = some limit := by
      simpa [negative?, ← Option.isSome_iff_exists] using hnegative
    obtain ⟨hneg, before, behind, hsplit, hbefore⟩ := List.find?_eq_some_iff_append.1 hlimit
    refine ⟨before, limit, behind, hsplit, fun l hl => ?_, of_decide_eq_true hneg, ?_⟩
    · simpa using hbefore l hl
    · exact refusedFor_of_negative hlimit
  · exact runsAs_leaves (by simpa [negative?] using hlimits)
  · obtain ⟨f, -, hleaves⟩ := exists_build (p := p) (by simpa [negative?] using hlimits)
    rw [← hleaves]
    exact Filter.ne_chain_of_mem_leaves f
  · have hleft := Filter.run_chain_append number [] [f, g] [h]
    have hright := Filter.run_chain_append number [f] [g, h] []
    exact hleft.trans hright.symm
  · have hsingle : Filter.run number (.chain [f]) = f.run number := by
      rw [Filter.run, Filter.runAll_singleton]
    have hnil := Filter.run_chain_append number
    have hall := Filter.run_chain_allowAll number
    intro e he
    simp only [List.mem_cons, List.not_mem_nil, or_false] at he
    obtain rfl | rfl := he
    · exact ⟨(hnil [] [] [f]).trans hsingle, (hnil [f] [] []).trans hsingle⟩
    · exact ⟨(hall [] [f]).trans hsingle, (hall [f] []).trans hsingle⟩

theorem run_by_leaves_nested :
    let p : Policy := .chain [.chain [.mark "a", .regularOnly], .options false (some 10), .mark "b"]
    let q : Policy := .chain [.mark "a", .chain [.maxSize 10, .maxSize (-1)], .maxSize (-2)]
    let m := (Session.onFile (.holding ⟨0o100644, 5000, ⟨0, 0⟩⟩)).opened "f"
    (∀ limit ∈ p.limits, 0 ≤ limit) ∧
      p.leaves = [.mark "a", .regularOnly, .maxSize 10, .mark "b"] ∧
      (∃ n, Filter.Rejects 3 p.leaves m (.refusal (.oversized 5000 10)) n ∧
        n.calls = [.open "f" .nonblocking, .hook 3 "a", .fstat 3, .fstat 3]) ∧
      (∃ limit ∈ q.limits, limit < 0) ∧ (q.apply 3).run.run m = (.error (.negativeLimit (-1)), m) := by
  intro p q m
  have hlimits : ∀ limit ∈ p.limits, 0 ≤ limit := by decide
  have hnegative : ∃ limit ∈ q.limits, limit < 0 := by decide
  obtain ⟨hruns, -⟩ := (run_by_leaves p).2.1 hlimits
  have hverdict : ((p.apply 3).run.run m).1 = .error (.refusal (.oversized 5000 10)) := by
    decide +kernel
  have hcalls : ((p.apply 3).run.run m).2.calls =
      [.open "f" .nonblocking, .hook 3 "a", .fstat 3, .fstat 3] := by
    decide +kernel
  generalize hrun : (p.apply 3).run.run m = outcome at hverdict hcalls
  have hrejects := (hruns.rejects 3 m outcome.2 _).1 (hrun.trans (Prod.ext hverdict rfl))
  obtain ⟨before, limit, behind, hsplit, hbefore, hneg, hrefused⟩ := (run_by_leaves q).1 hnegative
  have hfirst : limit = -1 := by
    have hlist : [10, -1, -2] = before ++ limit :: behind := hsplit
    rcases before with _ | ⟨a, _ | ⟨b, rest⟩⟩
    · obtain ⟨rfl, -⟩ := List.cons.inj hlist
      exact absurd hneg (by decide)
    · exact (List.cons.inj (List.cons.inj hlist).2).1.symm
    · obtain ⟨rfl, -⟩ := List.cons.inj (List.cons.inj hlist).2
      exact absurd (hbefore (-1) (by simp)) (by decide)
  refine ⟨hlimits, rfl, ⟨_, hrejects, hcalls⟩, hnegative, ?_⟩
  rw [hrefused.apply_eq, hfirst, refusal, if_pos (by decide +kernel)]

end Policy

end PageCache
