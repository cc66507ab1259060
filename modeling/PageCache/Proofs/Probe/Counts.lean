import PageCache.Proofs.PageCount
import PageCache.Proofs.Probe.Course
import PageCache.Proofs.Probe.Mishaps

/-! What a record counts, when the pages of the file were inspected on a mapping. -/

namespace PageCache

open Sequencing

namespace Residency

variable {memory : Int} {core : Core} {platform : String} {length pageSize : Int}

lemma answer_of_nonpos (h : length ≤ 0) :
    (mincore pageSize).answer memory core platform length = .ok none := if_pos h

lemma calls_of_nonpos (number : Nat) (h : length ≤ 0) :
    (mincore pageSize).calls memory core number length = [] := if_pos h

lemma answer_of_pos {report : Option Report} (hlength : 0 < length)
    (h : (mincore pageSize).answer memory core platform length = .ok report) :
    ∃ pages, vectorPages memory length pageSize = .ok pages ∧
      report = some ⟨PageStatus.resident ⟨core.status, pages⟩,
        pages - PageStatus.resident ⟨core.status, pages⟩⟩ ∧
      ∀ number, Call.mincore length pages ∈ (mincore pageSize).calls memory core number length := by
  rw [answer, if_neg (by omega)] at h
  cases hmap : core.mapFault with
  | some code =>
    rw [hmap] at h
    cases h
  | none =>
    simp only [hmap, inspected] at h
    cases hpages : vectorPages memory length pageSize with
    | error f =>
      rw [hpages] at h
      cases h
    | ok pages =>
      rw [hpages, ok_bind] at h
      cases hinspect : core.inspectFault with
      | some code =>
        rw [hinspect] at h
        cases h
      | none =>
        rw [hinspect] at h
        refine ⟨pages, rfl, (Except.ok.inj h).symm, ?_⟩
        intro number
        rw [calls, if_neg (by omega), hmap]
        simp [inspectionCalls, hpages]

end Residency

namespace PageStatus

lemma isResident_eq_testBit (b : UInt8) : isResident b = b.toNat.testBit 0 := by
  have hmod : b % 2 = 1 ↔ b.toNat % 2 = 1 := by
    rw [← UInt8.toNat_inj, UInt8.toNat_mod]
    rfl
  rw [isResident, Nat.testBit_zero, Bool.eq_iff_iff, beq_iff_eq, hmod, decide_eq_true_iff]

lemma resident_eq_countP (s : PageStatus) : s.resident = s.toList.countP (·.toNat.testBit 0) := by
  rw [resident_eq, countResident]
  exact List.countP_congr fun b _ => by rw [isResident_eq_testBit]

lemma resident_le (s : PageStatus) : s.resident ≤ s.pages := by
  rw [resident_eq, countResident]
  exact List.countP_le_length.trans_eq s.length_toList

end PageStatus

def Call.Maps : Call → Prop
  | .mmap _ _ | .mincore _ _ => True
  | _ => False

/-- The length of the range that a call asks for the pages of, or maps for that. -/
def Call.range? : Call → Option Int
  | .mmap _ length | .mincore length _ | .munmap length | .residency _ length => some length
  | _ => none

lemma Call.Maps.range {c : Call} (h : c.Maps) : ∃ length, c.range? = some length := by
  cases c with
  | mmap number length => exact ⟨length, rfl⟩
  | mincore length pages => exact ⟨length, rfl⟩
  | _ => cases h

namespace Session

variable {s : Session} {filter : Filter} {path : String} {record : Record} {t : Session}

/-- What there is behind a probe that came to a record. -/
lemma record_of_run (h : (probe filter path).run.run s = (.ok record, t)) :
    let a := s.answers filter path
    a.failing? = none ∧ a.record = .ok record ∧ t.machine.calls = s.machine.calls ++ a.calls := by
  intro a
  rw [run_probe, Prod.mk.injEq] at h
  obtain ⟨houtcome, rfl⟩ := h
  have hended : a.ended = .ok record := a.ended_of_outcome houtcome (by rintro f ⟨⟩)
  cases hfailing : a.failing? with
  | some mishap => simp [Answers.ended, hfailing] at hended
  | none =>
    obtain ⟨r, hr, hok⟩ := Answers.ended_ok hfailing
    obtain rfl : r = record := Except.ok.inj (hok.symm.trans hended)
    exact ⟨rfl, hr, calls_after s a⟩

lemma residency_of_range {c : Call} {length : Int} (hrange : c.range? = some length)
    (h : c ∈ (s.answers filter path).calls) :
    (s.answers filter path).size = .ok length ∧
      c ∈ (s.answers filter path).residencyCalls length := by
  obtain h | h := List.mem_append.1 h
  · obtain ⟨k, -, hk⟩ := List.mem_flatMap.1 h
    have hmade : k = .residency ∧ (s.answers filter path).size = .ok length := by
      cases makes_of_mem hk with
      | mmap hsize | mincore hsize | munmap hsize | residency hsize =>
        exact ⟨rfl, Option.some.inj hrange ▸ hsize⟩
      | _ => cases hrange
    obtain ⟨rfl, hsize⟩ := hmade
    simp only [Answers.stepCalls, hsize] at hk
    exact ⟨hsize, hk⟩
  · split at h
    · obtain rfl := List.mem_singleton.1 h
      cases hrange
    · cases h

lemma residency_of_maps {c : Call} (hmaps : c.Maps) (h : c ∈ (s.answers filter path).calls) :
    ∃ length, (s.answers filter path).size = .ok length ∧
      c ∈ (s.answers filter path).residencyCalls length := by
  obtain ⟨length, hrange⟩ := hmaps.range
  exact ⟨length, residency_of_range hrange h⟩

theorem probe_counts {pageSize : Int} (hresidency : s.prober.residency = .mincore pageSize)
    (hpageSize : 0 < pageSize) (h : (probe filter path).run.run s = (.ok record, t)) :
    ∃ calls, t.machine.calls = s.machine.calls ++ calls ∧
      (record.size ≤ 0 →
        (∀ c ∈ calls, ¬c.Maps) ∧
          record.pages = 0 ∧ record.cached = 0 ∧ record.uncached = 0 ∧ record.percent = .zero) ∧
      (0 < record.size → ∃ pages : Nat, record.pages = pages ∧ .mincore record.size pages ∈ calls ∧
        record.size ≤ pages * pageSize ∧ (∀ n : Int, record.size ≤ n * pageSize → pages ≤ n) ∧
        record.cached =
          (PageStatus.mk (s.machine.fileAt path).core.status pages).toList.countP (·.toNat.testBit 0) ∧
        record.uncached = record.pages - record.cached ∧ 0 ≤ record.cached ∧
          record.cached ≤ record.pages) := by
  obtain ⟨hfailing, hrecord, hcalls⟩ := record_of_run h
  have hclear := Answers.failing?_eq_none_iff.1 hfailing
  obtain ⟨stamped, hstamped⟩ := Answers.stamped_of_clears hclear (by decide) (by decide)
  obtain ⟨report, hreport⟩ := hclear.report (by decide)
  obtain ⟨hsize, mtime, -, hdraft⟩ := Answers.stamped_ok _ hstamped
  have hquery : (Residency.mincore pageSize).answer s.machine.memory
      (s.machine.fileAt path).core s.machine.platform.name stamped.size = .ok report := by
    rw [Answers.report, hsize, ok_bind] at hreport
    rw [← hresidency]
    exact hreport
  by_cases hnonpos : stamped.size ≤ 0
  · rw [Residency.answer_of_nonpos hnonpos, Except.ok.injEq] at hquery
    subst hquery
    have heq : stamped = record :=
      Except.ok.inj ((Answers.record_of_none hstamped hreport).symm.trans hrecord)
    rw [heq] at hnonpos hsize hdraft
    refine ⟨_, hcalls, fun _ => ⟨?_, ?_⟩, fun hpos => absurd hpos (by omega)⟩
    · intro c hc hmaps
      obtain ⟨length, hlength, hmem⟩ := residency_of_maps hmaps hc
      obtain rfl := Except.ok.inj (hsize.symm.trans hlength)
      have hnone : (s.answers filter path).residencyCalls record.size = [] := by
        change s.prober.residency.calls _ _ _ _ = []
        rw [hresidency, Residency.calls_of_nonpos _ hnonpos]
      rw [hnone] at hmem
      cases hmem
    · rw [hdraft]
      exact ⟨rfl, rfl, rfl, rfl⟩
  · obtain ⟨pages, hpages, rfl, hmincore⟩ := Residency.answer_of_pos (by omega) hquery
    have hcount := Residency.vectorPages_ok hpages
    obtain ⟨hcovers, hleast⟩ := pageCount_least hpageSize hcount
    have hresident : PageStatus.resident ⟨(s.machine.fileAt path).core.status, pages⟩ ≤ pages :=
      PageStatus.resident_le _
    have hcalled : .mincore stamped.size pages ∈ (s.answers filter path).calls := by
      refine List.mem_append_left _ (List.mem_flatMap.2 ⟨.residency, ?_, ?_⟩)
      · rw [Answers.taken_of_none hfailing]
        decide
      · simp only [Answers.stepCalls, hsize]
        change _ ∈ s.prober.residency.calls _ _ _ _
        rw [hresidency]
        exact hmincore _
    rw [Answers.record_of_some hstamped hreport] at hrecord
    split at hrecord
    · cases hrecord
    split at hrecord
    case isFalse => cases hrecord
    obtain rfl := Except.ok.inj hrecord
    refine ⟨_, hcalls, fun h => absurd h hnonpos, fun _ =>
      ⟨pages, ?_, hcalled, hcovers, hleast, ?_, ?_, ?_, ?_⟩⟩
    · dsimp only
      omega
    · rw [PageStatus.resident_eq_countP]
    · dsimp only
      omega
    · dsimp only
      omega
    · dsimp only
      omega

theorem probe_counts_mixed :
    let s := onFile { Node.holding ⟨0o100644, 5000, ⟨0, 0⟩⟩ with core := { status := [1, 254] } }
    let record : Record :=
      { name := "f", size := 5000, timestamp := some .epoch, mtime := some .epoch
        pages := 2, cached := 1, uncached := 1
        percent := .ofBits 0x4049000000000000 }
    (∃ t, (probe .allowAll "f").run.run s = (.ok record, t)) ∧ s.prober.residency = .mincore 4096 ∧
      ∃ pages : Nat, record.pages = pages ∧
        record.cached = (PageStatus.mk [1, 254] pages).toList.countP (·.toNat.testBit 0) := by
  intro s record
  have hresidency : s.prober.residency = .mincore 4096 := rfl
  have houtcome : (s.answers .allowAll "f").outcome = .ok record := by decide +kernel
  have hrun : (probe .allowAll "f").run.run s =
      (.ok record, s.after (s.answers .allowAll "f")) := by
    rw [run_probe, houtcome]
  obtain ⟨calls, -, -, hpages⟩ := probe_counts hresidency (by decide) hrun
  obtain ⟨pages, hpages, -, -, -, hcached, -⟩ := hpages (by decide)
  exact ⟨⟨_, hrun⟩, hresidency, pages, hpages, hcached⟩

end Session

end PageCache
