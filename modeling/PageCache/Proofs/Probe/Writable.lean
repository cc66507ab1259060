import PageCache.Listing.Basic
import PageCache.Proofs.Probe.Counts
import PageCache.Proofs.Probe.Trail

/-! The numbers of the records that probes come to are short enough to be printed. A probe looks at
all of them but for the count of missing pages, which is longer only where a scripted provider
reports less than no pages. -/

namespace PageCache

open Sequencing

lemma Numeral.writable_of_checkWritable {n : Int} (h : checkWritable n = .ok ()) : Writable n := by
  rw [checkWritable] at h
  split at h
  · assumption
  · cases h

/-- All numbers that any format prints are in the form for machines. -/
lemma Listing.mem_integers_json {format : Format} {record : Record} {n : Int}
    (h : n ∈ integers format record) : n ∈ integers .json record := by
  cases format with
  | json => exact h
  | _ => exact List.mem_append_left [record.uncached] h

namespace Residency

def Writable (r : Residency) : Prop :=
  ∀ answers report, r = .scripted answers → .ok (some report) ∈ answers.head :: answers.tail →
    0 ≤ report.cached ∧ 0 ≤ report.missing ∨ Numeral.Writable report.missing

variable {r : Residency}

lemma writable_of_ne_scripted (h : ∀ answers, r ≠ .scripted answers) : r.Writable :=
  fun answers _ hr => absurd hr (h answers)

lemma writable_ofPlatform (p : Platform) : (ofPlatform p).Writable := by
  apply writable_of_ne_scripted
  intro answers
  rw [ofPlatform]
  split <;> exact Residency.noConfusion

lemma Writable.next (h : r.Writable) : r.next.Writable := by
  cases r with
  | scripted answers =>
    intro later report hlater hmem
    obtain rfl := Residency.scripted.inj hlater
    apply h answers report rfl
    rw [Script.advance] at hmem
    split at hmem
    · exact hmem
    · rename_i tail_eq
      rw [tail_eq]
      exact List.mem_cons_of_mem _ hmem
  | _ => exact h

/-- Pages that were inspected and are missing are no more than the pages that there are. -/
lemma writable_missing {memory : Int} {core : Core} {platform : String} {length : Int}
    {report : Report} (hr : r.Writable) (h : r.answer memory core platform length = .ok (some report))
    (hpages : Numeral.Writable (report.cached + report.missing)) :
    Numeral.Writable report.missing := by
  cases r with
  | mincore pageSize =>
    by_cases hlength : length ≤ 0
    · rw [answer_of_nonpos hlength] at h
      cases h
    · obtain ⟨pages, -, hreport, -⟩ := answer_of_pos (by omega) h
      obtain rfl := Option.some.inj hreport
      have hresident := PageStatus.resident_le ⟨core.status, pages⟩
      unfold Numeral.Writable at *
      dsimp only at *
      omega
  | unsupported =>
    rw [answer] at h
    split at h <;> cases h
  | scripted answers =>
    rcases hr answers report rfl (h ▸ List.mem_cons_self) with ⟨hcached, hmissing⟩ | hmissing
    · unfold Numeral.Writable at *
      omega
    · exact hmissing

end Residency

namespace Answers

variable {a : Answers} {record : Record}

lemma writable_size_of_measured (h : a.measured = .ok record) : Numeral.Writable record.size := by
  obtain ⟨hsize, -⟩ := a.measured_ok h
  rw [measured_eq, hsize, ok_bind] at h
  cases hwritable : Numeral.checkWritable record.size with
  | error f =>
    rw [hwritable] at h
    cases h
  | ok _ => exact Numeral.writable_of_checkWritable hwritable

lemma writable_size_of_stamped (h : a.stamped = .ok record) : Numeral.Writable record.size := by
  rw [stamped_eq] at h
  cases hmeasured : a.measured with
  | error f =>
    rw [hmeasured] at h
    cases h
  | ok measured =>
    rw [hmeasured, ok_bind] at h
    cases hmtime : a.mtime with
    | error f =>
      rw [hmtime] at h
      cases h
    | ok mtime =>
      rw [hmtime, ok_bind] at h
      have hwritable : Numeral.Writable measured.size := writable_size_of_measured hmeasured
      rw [← Except.ok.inj h]
      exact hwritable

/-- What is built when a step goes wrong holds no count yet. -/
lemma integers_built (k : Step) : ∀ n ∈ Listing.integers .json (a.built k), Numeral.Writable n := by
  have hdraft : ∀ n ∈ Listing.integers .json a.draft, Numeral.Writable n := by
    intro n hn
    simp only [Listing.integers, draft, List.mem_cons, List.not_mem_nil, or_false, or_self] at hn
    rw [hn]
    exact Numeral.writable_zero
  cases k with
  | residency =>
    rw [built]
    cases hstamped : a.stamped with
    | error f => exact hdraft
    | ok stamped =>
      obtain ⟨_, mtime, _, hrecord⟩ := a.stamped_ok hstamped
      intro n hn
      have hzero : stamped.pages = 0 ∧ stamped.cached = 0 ∧ stamped.uncached = 0 := by
        rw [hrecord]
        exact ⟨rfl, rfl, rfl⟩
      simp only [Except.toOption, Option.getD_some, Listing.integers, hzero, List.mem_cons,
        List.not_mem_nil, or_false, or_self] at hn
      rcases hn with rfl | rfl
      · exact writable_size_of_stamped hstamped
      · exact Numeral.writable_zero
  | _ => exact hdraft

end Answers

namespace Session

variable {s t : Session} {filter : Filter} {path : String} {record : Record}

theorem integers_of_run {format : Listing.Format}
    (hr : format = .json → s.prober.residency.Writable)
    (h : (probe filter path).run.run s = (.ok record, t)) :
    ∀ n ∈ Listing.integers format record, Numeral.Writable n := by
  obtain ⟨hfailing, hrecord, -⟩ := record_of_run h
  have hclear := Answers.failing?_eq_none_iff.1 hfailing
  obtain ⟨stamped, hstamped⟩ := Answers.stamped_of_clears hclear (by decide) (by decide)
  obtain ⟨report, hreport⟩ := hclear.report (by decide)
  have hsize := Answers.writable_size_of_stamped hstamped
  cases report with
  | none =>
    obtain rfl := Except.ok.inj ((Answers.record_of_none hstamped hreport).symm.trans hrecord)
    have hbuilt := (s.answers filter path).integers_built .residency
    rw [Answers.built_of_stamped _ hstamped] at hbuilt
    exact fun n hn => hbuilt n (Listing.mem_integers_json hn)
  | some report =>
    rw [Answers.record_of_some hstamped hreport] at hrecord
    split at hrecord
    · cases hrecord
    split at hrecord
    case isFalse => cases hrecord
    rename_i hcounts
    obtain rfl := Except.ok.inj hrecord
    cases format with
    | json =>
      have hanswer := hreport
      rw [Answers.report, (Answers.stamped_ok _ hstamped).1, ok_bind] at hanswer
      have hmissing := Residency.writable_missing (hr rfl) hanswer hcounts.2
      simp only [Listing.integers, List.forall_mem_cons, List.not_mem_nil, false_implies,
        implies_true, and_true]
      exact ⟨hsize, hcounts.2, hcounts.1, hmissing⟩
    | _ =>
      simp only [Listing.integers, List.forall_mem_cons, List.not_mem_nil, false_implies,
        implies_true, and_true]
      exact ⟨hsize, hcounts.2, hcounts.1⟩

lemma writable_after (a : Answers) (hr : s.prober.residency.Writable) :
    (s.after a).prober.residency.Writable :=
  s.residency_after a (P := Residency.Writable) (fun _ h => h.next) hr

lemma writable_of_run {outcome : Except Abort Record} (hr : s.prober.residency.Writable)
    (h : (probe filter path).run.run s = (outcome, t)) : t.prober.residency.Writable := by
  rw [run_probe, Prod.mk.injEq] at h
  rw [← h.2]
  exact s.writable_after _ hr

lemma integers_of_run_mapM {paths : List String} {outcomes : List (Except Failure Record)}
    {format : Listing.Format} (hr : format = .json → s.prober.residency.Writable)
    (h : (paths.mapM fun path => (probe filter path).run).run s =
      (outcomes.map (·.mapError .failure), t)) :
    ∀ record ∈ outcomes.filterMap Except.toOption, ∀ n ∈ Listing.integers format record,
      Numeral.Writable n := by
  have houtcomes : ∀ outcome ∈ outcomes, ∀ record, outcome.toOption = some record →
      ∀ n ∈ Listing.integers format record, Numeral.Writable n := by
    refine forall_of_run_mapM (fun path outcome s t hr hrun => ⟨fun record hrecord => ?_,
      fun hjson => writable_of_run (hr hjson) hrun⟩) hr h
    cases outcome with
    | ok _ =>
      obtain rfl := Option.some.inj hrecord
      exact integers_of_run hr hrun
    | error _ => cases hrecord
  intro record hrecord
  obtain ⟨outcome, houtcome, hok⟩ := List.mem_filterMap.1 hrecord
  exact houtcomes outcome houtcome record hok

end Session

end PageCache
