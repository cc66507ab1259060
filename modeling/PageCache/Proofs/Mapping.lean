import PageCache.Proofs.Probe.Answers

/-! A mapping that was made is released on every way out of a query, and the vector of status bytes
is long enough just if the pages that it is made for are no larger than those of the system. -/

namespace PageCache.Residency

open Sequencing Machine

/-- What is asked about a mapped range, and what the query ends in. -/
inductive Inspected (memory : Int) (core : Core) (length pageSize : Int) :
    Except Fault (Option Report) → List Call → Prop
  | unsized {f : Fault} (h : vectorPages memory length pageSize = .error f) :
      Inspected memory core length pageSize (.error f) []
  | failed {pages : Nat} {code : ErrorCode} (h : vectorPages memory length pageSize = .ok pages)
      (hcore : core.inspectFault = some code) :
      Inspected memory core length pageSize (.error (.system (.mapping .mincore code)))
        [.mincore length pages]
  | counted {pages : Nat} (h : vectorPages memory length pageSize = .ok pages)
      (hcore : core.inspectFault = none) :
      Inspected memory core length pageSize
        (.ok (some ⟨PageStatus.resident ⟨core.status, pages⟩,
          (pages : Int) - PageStatus.resident ⟨core.status, pages⟩⟩))
        [.mincore length pages]

/-- A call that hands a vector for so many pages to the system is among those of a query. -/
def Hands (pageSize : Int) (m : Machine) (number : Nat) (length range : Int) (pages : Nat) : Prop :=
  ∃ calls, (((mincore pageSize).query number length).run.run m).2.calls = m.calls ++ calls ∧
    .mincore range pages ∈ calls

/-- There is a byte for each page of the system that has a byte of the range. -/
def Covers (pages : Nat) (range system : Int) : Prop := ∀ i : Nat, i * system < range → i < pages

lemma query_mincore (pageSize : Int) (number : Nat) (length : Int) :
    (mincore pageSize).query number length = ofMapping number length pageSize := rfl

lemma inspected_inspectionCalls (memory : Int) (core : Core) (length pageSize : Int) :
    Inspected memory core length pageSize ((inspected memory core length pageSize).map some)
      (inspectionCalls memory length pageSize) := by
  rw [inspected, inspectionCalls]
  cases hpages : vectorPages memory length pageSize with
  | error f => exact .unsized hpages
  | ok pages =>
    cases hcore : core.inspectFault with
    | some code => exact .failed hpages hcore
    | none => exact .counted hpages hcore

theorem query_releases (m : Machine) (number : Nat) (length pageSize : Int) :
    let run := ((mincore pageSize).query number length).run.run m
    let mapping := (mmap number length).run.run m
    (length ≤ 0 → run = (.ok none, m)) ∧
    (0 < length → ∀ e after, mapping = (.error e, after) →
      run = (.error (.system e), m.noting [.mmap number length])) ∧
    (0 < length → ∀ core after, mapping = (.ok core, after) →
      ∃ outcome middle, Inspected m.memory core length pageSize outcome middle ∧
        run = (outcome, m.noting (.mmap number length :: middle ++ [.munmap length]))) := by
  intro run mapping
  refine ⟨fun hempty => run_ofMapping_empty m length pageSize hempty, ?_, ?_⟩
  · intro hlength e after hmapping
    obtain rfl := mmap_after hmapping
    exact run_ofMapping_refused m length pageSize hlength hmapping
  · intro hlength core after hmapping
    refine ⟨_, _, inspected_inspectionCalls m.memory core length pageSize, ?_⟩
    obtain rfl := mmap_after hmapping
    exact (run_ofMapping_mapped m length pageSize hlength hmapping).trans
      (congrArg (Prod.mk _) (noting_noting ..))

/-- A machine on which a file is open. -/
def holding (metadata : Metadata) : Machine :=
  (Session.onFile (.holding metadata)).machine.attach (.holding metadata)

theorem query_releases_unsized :
    let m := holding ⟨0o100644, 5000, ⟨0, 0⟩⟩
    0 < (5000 : Int) ∧ (mmap 3 5000).run.run m = (.ok {}, m.noting [.mmap 3 5000]) ∧
      ((mincore 0).query 3 5000).run.run m =
        (.error .divisionByZero, m.noting [.mmap 3 5000, .munmap 5000]) := by
  intro m
  have hlength : 0 < (5000 : Int) := by decide
  have hmapping : (mmap 3 5000).run.run m = (.ok {}, m.noting [.mmap 3 5000]) := rfl
  obtain ⟨outcome, middle, hinspected, hrun⟩ :=
    (query_releases m 3 5000 0).2.2 hlength {} _ hmapping
  have hsize : vectorPages m.memory 5000 0 = .error .divisionByZero := rfl
  refine ⟨hlength, hmapping, ?_⟩
  cases hinspected with
  | unsized h =>
    obtain rfl := Except.error.inj (hsize.symm.trans h)
    exact hrun
  | failed h => cases hsize.symm.trans h
  | counted h => cases hsize.symm.trans h

lemma covers_iff {pages : Nat} {range system : Int} (hsystem : 0 < system) :
    Covers pages range system ↔ range ≤ pages * system := by
  constructor
  · intro hcovers
    by_contra hshort
    exact Nat.lt_irrefl pages (hcovers pages (Int.not_le.1 hshort))
  · intro hrange i hi
    have hproduct : i * system < pages * system := Int.lt_of_lt_of_le hi hrange
    exact Int.ofNat_lt.1 (Int.lt_of_mul_lt_mul_right hproduct (Int.le_of_lt hsystem))

lemma pages_of_hands {pageSize : Int} {m : Machine} {number : Nat} {length range : Int} {pages : Nat}
    (h : Hands pageSize m number length range pages) :
    range = length ∧ 0 < length ∧ vectorPages m.memory length pageSize = .ok pages := by
  obtain ⟨calls, hcalls, hmem⟩ := h
  by_cases hlength : 0 < length
  · rw [query_mincore] at hcalls
    rcases hmapping : (mmap number length).run.run m with ⟨mapping, after⟩
    obtain rfl := mmap_after hmapping
    cases mapping with
    | error e =>
      rw [run_ofMapping_refused m length pageSize hlength hmapping] at hcalls
      obtain rfl := List.append_cancel_left hcalls
      cases List.mem_singleton.1 hmem
    | ok core =>
      rw [run_ofMapping_mapped m length pageSize hlength hmapping, noting_noting] at hcalls
      obtain rfl := List.append_cancel_left hcalls
      have hinspection : .mincore range pages ∈ inspectionCalls m.memory length pageSize := by
        simpa using hmem
      rw [inspectionCalls] at hinspection
      split at hinspection
      · cases hinspection
      · rename_i counted hcounted
        obtain ⟨rfl, rfl⟩ := Call.mincore.inj (List.mem_singleton.1 hinspection)
        exact ⟨rfl, hlength, hcounted⟩
  · rw [query_mincore, run_ofMapping_empty m length pageSize (Int.not_lt.1 hlength)] at hcalls
    rw [List.self_eq_append_right.1 hcalls] at hmem
    cases hmem

lemma vector_of_hands {pageSize system : Int} {m : Machine} {number : Nat} {length range : Int}
    {pages : Nat} (hpageSize : 0 < pageSize) (hsystem : 0 < system)
    (h : Hands pageSize m number length range pages) :
    range = length ∧ 0 < length ∧ (∀ n : Nat, pages ≤ n ↔ length ≤ n * pageSize) ∧
      (Covers pages range system ↔ length ≤ pages * system) := by
  obtain ⟨rfl, hlength, hpages⟩ := pages_of_hands h
  refine ⟨rfl, hlength, fun n => ?_, covers_iff hsystem⟩
  rw [← pageCount_le_iff hpageSize (vectorPages_ok hpages), Int.ofNat_le]

lemma hands_holding (metadata : Metadata) {pageSize length : Int} {pages : Nat}
    (hlength : 0 < length)
    (h : vectorPages (holding metadata).memory length pageSize = .ok pages) :
    Hands pageSize (holding metadata) 3 length length pages := by
  have hmapping : (mmap 3 length).run.run (holding metadata) =
      (.ok {}, (holding metadata).noting [.mmap 3 length]) := rfl
  have hcalls : inspectionCalls (holding metadata).memory length pageSize = [.mincore length pages] := by
    rw [inspectionCalls, h]
  refine ⟨[.mmap 3 length, .mincore length pages, .munmap length], ?_, by simp⟩
  rw [query_mincore, run_ofMapping_mapped _ length pageSize hlength hmapping, hcalls]
  rfl

theorem vector_covers_iff {pageSize system : Int} (hpageSize : 0 < pageSize) (hsystem : 0 < system) :
    (∀ m number length range pages, Hands pageSize m number length range pages →
      range = length ∧ 0 < length ∧
        (∀ n : Nat, pages ≤ n ↔ length ≤ n * pageSize) ∧
        (Covers pages range system ↔ length ≤ pages * system)) ∧
    ((∀ m number length range pages, Hands pageSize m number length range pages →
      Covers pages range system) ↔ pageSize ≤ system) := by
  refine ⟨fun _ _ _ _ _ => vector_of_hands hpageSize hsystem, ?_, ?_⟩
  · intro hcovers
    by_contra hlarge
    -- A range of one byte more than a page of the system is covered by one page of the larger size.
    have hmemory : (holding ⟨0, 0, ⟨0, 0⟩⟩).memory = 0x800000000 := rfl
    have hfits : system + 1 ≤ ((holding ⟨0, 0, ⟨0, 0⟩⟩).memory - 1) * pageSize := by
      rw [hmemory]
      omega
    obtain ⟨pages, hpages⟩ := vectorPages_of_le hpageSize (by omega) (by decide) hfits
    have hhanded := hands_holding ⟨0, 0, ⟨0, 0⟩⟩ (by omega) hpages
    obtain ⟨-, -, hleast, hcovers_iff⟩ := vector_of_hands hpageSize hsystem hhanded
    have hone : pages ≤ 1 := (hleast 1).2 (by omega)
    have hcovered := hcovers_iff.1 (hcovers _ _ _ _ _ hhanded)
    have hpage : (pages : Int) * system ≤ 1 * system :=
      Int.mul_le_mul_of_nonneg_right (Int.ofNat_le.2 hone) (Int.le_of_lt hsystem)
    omega
  · intro hle m number length range pages h
    obtain ⟨rfl, -, hleast, hcovers_iff⟩ := vector_of_hands hpageSize hsystem h
    have hpages : range ≤ pages * pageSize := (hleast pages).1 (Nat.le_refl _)
    exact hcovers_iff.2 (Int.le_trans hpages (Int.mul_le_mul_of_nonneg_left hle (Int.natCast_nonneg _)))

theorem vector_covers_iff_default :
    0 < defaultPageSize ∧ ∀ m number length range pages,
      Hands defaultPageSize m number length range pages → Covers pages range defaultPageSize := by
  have hpos : 0 < defaultPageSize := by decide
  exact ⟨hpos, (vector_covers_iff hpos hpos).2.2 (Int.le_refl _)⟩

theorem vector_short_of_system_page :
    0 < (8192 : Int) ∧ Hands 8192 (holding ⟨0o100644, 5000, ⟨0, 0⟩⟩) 3 5000 5000 1 ∧
      ¬Covers 1 5000 defaultPageSize := by
  refine ⟨by decide, hands_holding _ (by decide) rfl, fun hcovers => ?_⟩
  exact absurd (hcovers 1 (by decide)) (by decide)

end PageCache.Residency
