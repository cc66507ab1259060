import PageCache.Filter
import PageCache.Proofs.Machine

/-! Trials of filters on the answers of a file, without a machine. -/

namespace PageCache

open Sequencing Machine

structure Trial where
  calls : List Call
  left : Script (Except ErrorCode Metadata)
  verdict : Except Fault Unit

/-- A trial on the answers that another one leaves, unless that one ends in a rejection. -/
def Trial.followedBy (first : Trial) (next : Script (Except ErrorCode Metadata) → Trial) : Trial :=
  match first.verdict with
  | .error _ => first
  | .ok () => { next first.left with calls := first.calls ++ (next first.left).calls }

namespace Filter

variable (number : Nat)

def described (script : Script (Except ErrorCode Metadata)) : Except Fault Metadata :=
  script.head.mapError fun code => .system (.plain code)

mutual

def trial : Filter → Script (Except ErrorCode Metadata) → Trial
  | .allowAll, script => ⟨[], script, .ok ()⟩
  | .regularOnly, script =>
    ⟨[.fstat number], script.advance, do checkKind (← (← described script).kind)⟩
  | .maxSize limit, script =>
    ⟨[.fstat number], script.advance, do checkSize limit (← described script).size⟩
  | .chain filters, script => trialAll filters script
  | .mark label, script => ⟨[.hook number label], script, .ok ()⟩
  | .reject fault, script => ⟨[], script, .error fault⟩

def trialAll : List Filter → Script (Except ErrorCode Metadata) → Trial
  | [], script => ⟨[], script, .ok ()⟩
  | f :: rest, script => (trial f script).followedBy fun left => trialAll rest left

end

lemma mem_calls_followedBy {first : Trial} {next : Script (Except ErrorCode Metadata) → Trial}
    {c : Call}
    (h : c ∈ (first.followedBy next).calls) :
    c ∈ first.calls ∨ ∃ script, c ∈ (next script).calls := by
  rw [Trial.followedBy] at h
  split at h
  · exact .inl h
  · exact (List.mem_append.1 h).imp_right fun h => ⟨first.left, h⟩

/-- The calls that filters make are on the descriptor that they are given. -/
def Made (c : Call) : Prop := c = .fstat number ∨ ∃ label, c = .hook number label

mutual

theorem made_of_mem_trial : ∀ (f : Filter) (script : Script (Except ErrorCode Metadata)),
    ∀ c ∈ (f.trial number script).calls, Made number c
  | .allowAll, _, c, h => absurd h List.not_mem_nil
  | .regularOnly, _, c, h => .inl (List.mem_singleton.1 h)
  | .maxSize _, _, c, h => .inl (List.mem_singleton.1 h)
  | .chain filters, script, c, h => by
    rw [trial] at h
    exact made_of_mem_trialAll filters script c h
  | .mark label, _, c, h => .inr ⟨label, List.mem_singleton.1 h⟩
  | .reject _, _, c, h => absurd h List.not_mem_nil

theorem made_of_mem_trialAll : ∀ (fs : List Filter) (script : Script (Except ErrorCode Metadata)),
    ∀ c ∈ (trialAll number fs script).calls, Made number c
  | [], _, c, h => absurd h List.not_mem_nil
  | f :: rest, script, c, h => by
    rw [trialAll] at h
    obtain h | ⟨left, h⟩ := mem_calls_followedBy h
    · exact made_of_mem_trial f script c h
    · exact made_of_mem_trialAll rest left c h

end

variable (m : Machine)

lemma run_described (node : Node) (calls : List Call) :
    (faulting (fstat m.nextDescriptor)).run.run ((m.attach node).noting calls) =
      (described node.described, (m.attach node.advance).noting (calls ++ [.fstat m.nextDescriptor])) := by
  rw [run_faulting, run_fstat]
  simp only [descriptor?_noting, descriptor?_attach, advance_noting, advance_attach, noting_noting]
  cases h : node.described.head <;> simp [described, h, Node.descriptor, mapError_ok, mapError_error]

lemma run_checked {α : Type} (check : Metadata → Except Fault α) (node : Node) (calls : List Call) :
    (do
      let metadata ← faulting (fstat m.nextDescriptor)
      liftExcept (check metadata) : ExceptT Fault (StateM Machine) α).run.run
        ((m.attach node).noting calls) =
      (described node.described >>= check,
        (m.attach node.advance).noting (calls ++ [.fstat m.nextDescriptor])) := by
  rw [run_bind, run_described]
  cases described node.described with
  | error f => rfl
  | ok metadata => exact run_liftExcept _ _

-- One pattern for each kind of filter; a chain hands its list on, and each of its filters starts
-- where the one before left the answers.
mutual

theorem run_trial : ∀ (f : Filter) (node : Node) (calls : List Call),
    (f.run m.nextDescriptor).run.run ((m.attach node).noting calls) =
      ((f.trial m.nextDescriptor node.described).verdict,
        (m.attach { node with described := (f.trial m.nextDescriptor node.described).left }).noting
          (calls ++ (f.trial m.nextDescriptor node.described).calls))
  | .allowAll, node, calls => by
    simp only [run, trial, List.append_nil]
    rfl
  | .regularOnly, node, calls => by
    simp only [run, trial]
    exact run_checked m (fun metadata => metadata.kind >>= checkKind) node calls
  | .maxSize limit, node, calls => by
    simp only [run, trial]
    exact run_checked m (fun metadata => checkSize limit metadata.size) node calls
  | .chain filters, node, calls => by
    simp only [run, trial]
    exact run_trialAll filters node calls
  | .mark label, node, calls => by
    simp only [run, trial, run_lift, run_note, noting_noting]
  | .reject fault, node, calls => by
    simp only [run, trial, List.append_nil]
    rfl

theorem run_trialAll : ∀ (fs : List Filter) (node : Node) (calls : List Call),
    (runAll m.nextDescriptor fs).run.run ((m.attach node).noting calls) =
      ((trialAll m.nextDescriptor fs node.described).verdict,
        (m.attach { node with described := (trialAll m.nextDescriptor fs node.described).left }).noting
          (calls ++ (trialAll m.nextDescriptor fs node.described).calls))
  | [], node, calls => by
    simp only [runAll, trialAll, List.append_nil]
    rfl
  | f :: rest, node, calls => by
    have hf := run_trial f node calls
    simp only [runAll, trialAll, Trial.followedBy]
    cases hv : (f.trial m.nextDescriptor node.described).verdict with
    | error fault =>
      rw [hv] at hf
      simp only [run_bind_error hf, hv]
    | ok _ =>
      rw [hv] at hf
      rw [run_bind_ok hf, run_trialAll rest]
      simp only [List.append_assoc]

end

end Filter

end PageCache
