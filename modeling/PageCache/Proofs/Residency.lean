import PageCache.Proofs.Machine
import PageCache.Proofs.PageCount

/-! What residency queries answer on an open file, and the calls that they take. -/

namespace PageCache.Residency

open Sequencing Machine

def inspected (memory : Int) (core : Core) (length pageSize : Int) : Except Fault Report := do
  let pages ← vectorPages memory length pageSize
  let status ← core.inspectFault.elim (.ok ⟨core.status, pages⟩) fun code =>
    .error (.system (.mapping .mincore code))
  return ⟨PageStatus.resident status, (status.pages : Int) - status.resident⟩

def inspectionCalls (memory length pageSize : Int) : List Call :=
  match vectorPages memory length pageSize with
  | .error _ => []
  | .ok pages => [.mincore length pages]

def answer (r : Residency) (memory : Int) (core : Core) (platform : String) (length : Int) :
    Except Fault (Option Report) :=
  match r with
  | .mincore pageSize =>
    if length ≤ 0 then .ok none
    else match core.mapFault with
      | some code => .error (.system (.mapping .mmap code))
      | none => (inspected memory core length pageSize).map some
  | .unsupported =>
    if length ≤ 0 then .ok none else .error (.system (.unsupported .residency platform))
  | .scripted answers => answers.head

def calls (r : Residency) (memory : Int) (core : Core) (number : Nat) (length : Int) : List Call :=
  match r with
  | .mincore pageSize =>
    if length ≤ 0 then []
    else match core.mapFault with
      | some _ => [.mmap number length]
      | none => .mmap number length :: inspectionCalls memory length pageSize ++ [.munmap length]
  | .unsupported => []
  | .scripted _ => [.residency number length]

lemma answer_error {memory : Int} {core : Core} {platform : String} {length pageSize : Int}
    {f : Fault} (hpageSize : 0 < pageSize) (hmemory : memory ≤ 0x8000000000000000)
    (hlength : length ≤ (memory - 1) * pageSize)
    (h : (mincore pageSize).answer memory core platform length = .error f) :
    ∃ e, f = .system e := by
  rw [answer] at h
  split at h
  · cases h
  · cases hmap : core.mapFault with
    | some code =>
      rw [hmap] at h
      cases h
      exact ⟨_, rfl⟩
    | none =>
      obtain ⟨pages, hpages⟩ := vectorPages_of_le hpageSize (by omega) hmemory hlength
      simp only [hmap, inspected, hpages, ok_bind] at h
      cases hinspect : core.inspectFault with
      | some code =>
        rw [hinspect] at h
        cases h
        exact ⟨_, rfl⟩
      | none =>
        rw [hinspect] at h
        cases h

lemma mem_inspectionCalls {memory length pageSize : Int} {c : Call}
    (h : c ∈ inspectionCalls memory length pageSize) :
    ∃ pages, c = .mincore length pages := by
  rw [inspectionCalls] at h
  split at h
  · cases h
  · exact ⟨_, List.mem_singleton.1 h⟩

lemma mem_calls {r : Residency} {memory : Int} {core : Core} {number : Nat} {length : Int} {c : Call}
    (h : c ∈ r.calls memory core number length) :
    c = .mmap number length ∨ (∃ pages, c = .mincore length pages) ∨ c = .munmap length ∨
      c = .residency number length := by
  cases r with
  | mincore pageSize =>
    rw [calls] at h
    split at h
    · cases h
    · split at h
      · exact .inl (List.mem_singleton.1 h)
      · obtain h | h := List.mem_append.1 h
        · obtain h | h := List.mem_cons.1 h
          · exact .inl h
          · exact .inr (.inl (mem_inspectionCalls h))
        · exact .inr (.inr (.inl (List.mem_singleton.1 h)))
  | unsupported => exact absurd h List.not_mem_nil
  | scripted answers => exact .inr (.inr (.inr (List.mem_singleton.1 h)))

variable (m : Machine) (core : Core) (length pageSize : Int)

lemma run_inspect :
    (inspect core length pageSize).run.run m =
      (inspected m.memory core length pageSize, m.noting (inspectionCalls m.memory length pageSize)) := by
  simp only [inspect, inspected, inspectionCalls, run_bind, run_get, run_liftExcept]
  cases vectorPages m.memory length pageSize with
  | error f => simp only [noting_nil, error_bind]
  | ok pages =>
    simp only [run_faulting, run_mincore, ok_bind]
    cases core.inspectFault <;> rfl

lemma run_releasing {α : Type} (x : ExceptT Fault (StateM Machine) α) :
    (releasing length x).run.run m =
      ((x.run.run m).1, (x.run.run m).2.noting [.munmap length]) := rfl

lemma mmap_after {m after : Machine} {number : Nat} {length : Int} {r : Except SystemError Core}
    (h : (mmap number length).run.run m = (r, after)) : after = m.noting [.mmap number length] := by
  rw [run_mmap] at h
  split at h <;> exact (Prod.mk.inj h).2.symm

section

variable {number : Nat}

lemma run_ofMapping_empty (h : length ≤ 0) :
    (ofMapping number length pageSize).run.run m = (.ok none, m) := by
  rw [ofMapping, if_pos h]
  rfl

variable (hlength : 0 < length) {after : Machine}

include hlength

lemma run_ofMapping_refused {e : SystemError}
    (h : (mmap number length).run.run m = (.error e, after)) :
    (ofMapping number length pageSize).run.run m = (.error (.system e), after) := by
  rw [ofMapping, if_neg (Int.not_le.2 hlength)]
  refine run_bind_error ?_ _
  rw [run_faulting, h]
  rfl

lemma run_ofMapping_mapped {core : Core}
    (h : (mmap number length).run.run m = (.ok core, after)) :
    (ofMapping number length pageSize).run.run m =
      ((inspected m.memory core length pageSize).map some,
        after.noting (inspectionCalls m.memory length pageSize ++ [.munmap length])) := by
  have hmapped : (faulting (mmap number length)).run.run m = (.ok core, after) := by
    rw [run_faulting, h]
    rfl
  rw [ofMapping, if_neg (Int.not_le.2 hlength)]
  refine (run_bind_ok hmapped _).trans ?_
  have hmemory : after.memory = m.memory := by
    rw [mmap_after h]
    rfl
  rw [run_bind, run_releasing, run_inspect, noting_noting, hmemory]
  cases inspected m.memory core length pageSize <;> rfl

end

lemma run_ofMapping {number : Nat} {d : Descriptor} (hd : m.descriptor? number = some d) :
    (ofMapping number length pageSize).run.run m =
      ((Residency.mincore pageSize).answer m.memory d.core m.platform.name length,
        m.noting ((Residency.mincore pageSize).calls m.memory d.core number length)) := by
  have hmmap := run_mmap m number length
  rw [hd] at hmmap
  simp only [answer, calls]
  split
  · rename_i hempty
    rw [noting_nil, run_ofMapping_empty m length pageSize hempty]
  · rename_i hlength
    have hpos : 0 < length := Int.not_le.1 hlength
    cases hfault : d.core.mapFault with
    | some code =>
      simp only [hfault] at hmmap
      exact run_ofMapping_refused m length pageSize hpos hmmap
    | none =>
      simp only [hfault] at hmmap
      rw [run_ofMapping_mapped m length pageSize hpos hmmap, noting_noting]
      rfl

lemma run_query (r : Residency) {number : Nat} {d : Descriptor}
    (hd : m.descriptor? number = some d) :
    (r.query number length).run.run m =
      (r.answer m.memory d.core m.platform.name length, m.noting (r.calls m.memory d.core number length)) := by
  cases r with
  | mincore pageSize => exact run_ofMapping m length pageSize hd
  | unsupported =>
    simp only [query, answer, calls, noting_nil]
    split <;> rfl
  | scripted answers =>
    simp only [query, run_bind, run_lift, run_note, run_liftExcept, answer, calls]

lemma run_query_attach (r : Residency) (node : Node) (earlier : List Call) :
    (r.query m.nextDescriptor length).run.run ((m.attach node).noting earlier) =
      (r.answer m.memory node.core m.platform.name length,
        (m.attach node).noting (earlier ++ r.calls m.memory node.core m.nextDescriptor length)) := by
  have hopen : ((m.attach node).noting earlier).descriptor? m.nextDescriptor =
      some (node.descriptor m.nextDescriptor) := by
    rw [descriptor?_noting, descriptor?_attach]
  rw [run_query _ _ r hopen, noting_noting]
  rfl

end PageCache.Residency
