import PageCache.Proofs.Probe.Answers

/-! What can go wrong at a step that is reached, and what the steps let through. -/

namespace PageCache

open Sequencing

lemma raisedBy_eq_none {α : Type} {x : Except Fault α} : raisedBy x = none ↔ ∃ v, x = .ok v := by
  cases x <;> simp [raisedBy]

lemma raisedBy_eq_some {α : Type} {x : Except Fault α} {f : Fault} :
    raisedBy x = some (.raised f) ↔ x = .error f := by
  cases x <;> simp [raisedBy]

lemma raisedBy_ne_directory {α : Type} (x : Except Fault α) : raisedBy x ≠ some .directory := by
  cases x <;> simp [raisedBy]

def Step.before (k : Step) : List Step := Step.all.takeWhile (· ≠ k)

def Step.behind (k : Step) : List Step := (Step.all.dropWhile (· ≠ k)).tail

lemma Step.all_eq (k : Step) : Step.all = k.before ++ k :: k.behind := by cases k <;> rfl

lemma Step.before_concat {j k : Step} (h : j ∉ k.before) : k.before ++ [k] <+: j.before ++ [j] := by
  revert h
  cases j <;> cases k <;> decide

def Step.failureKind : Step → Option FailureKind
  | .opening => some .opening
  | .filter => some .rejection
  | .description | .inspection => some .stat
  | .directory => some .directory
  | .size => some .deviceSize
  | .residency => some .residency
  | .stamp | .conclusion => none

lemma Metadata.kind_eq_error {m : Metadata} {f : Fault} :
    m.kind = .error f ↔ ∃ fault, FileKind.modeWord m.mode = .error fault ∧ f = .mode fault := by
  rw [kind, FileKind.ofMode]
  cases FileKind.modeWord m.mode <;> simp [Except.map, mapError_ok, mapError_error, eq_comm]

lemma Numeral.writable_zero : Writable 0 := by decide +kernel

lemma Numeral.checkWritable_ok {n : Int} (h : Writable n) : checkWritable n = .ok () := if_pos h

namespace Answers

variable {a : Answers} {k : Step} {x : Mishap} {f : Fault}

lemma failing?_eq_some_iff :
    a.failing? = some (k, x) ↔ a.Clears k.before ∧ a.mishap k = some x := by
  constructor
  · intro h
    obtain ⟨before, j, behind, hall, hj, hbefore⟩ := List.findSome?_eq_some_iff.1 h
    obtain ⟨y, hy, hyx⟩ := Option.map_eq_some_iff.1 hj
    obtain ⟨rfl, rfl⟩ := Prod.mk.inj hyx
    have hclear : a.Clears before := fun i hi => Option.map_eq_none_iff.1 (hbefore i hi)
    have hnot : ∀ i ∈ before, decide (i ≠ j) = true := by
      intro i hi
      rw [decide_eq_true_eq]
      rintro rfl
      simp [hclear i hi] at hy
    have heq : j.before = before := by
      rw [Step.before, hall, List.takeWhile_append_of_pos hnot,
        List.takeWhile_cons_of_neg (by simp), List.append_nil]
    exact ⟨heq ▸ hclear, hy⟩
  · rintro ⟨hclear, hk⟩
    exact (a.failing?_eq k.all_eq hclear hk).1

lemma failing?_eq_none_iff : a.failing? = none ↔ a.Clears Step.all := by
  rw [failing?, List.findSome?_eq_none_iff]
  exact forall₂_congr fun _ _ => Option.map_eq_none_iff

section

variable {ks : List Step} (h : a.Clears ks)

include h

lemma Clears.metadata (hk : .description ∈ ks) : ∃ metadata, a.metadata = .ok metadata :=
  raisedBy_eq_none.1 (h _ hk)

lemma Clears.namedKind (hk : .inspection ∈ ks) : ∃ kind, a.namedKind = .ok kind :=
  raisedBy_eq_none.1 (h _ hk)

lemma Clears.measured (hk : .size ∈ ks) : ∃ record, a.measured = .ok record :=
  raisedBy_eq_none.1 (h _ hk)

lemma Clears.mtime (hk : .stamp ∈ ks) : ∃ mtime, a.mtime = .ok mtime := raisedBy_eq_none.1 (h _ hk)

lemma Clears.report (hk : .residency ∈ ks) : ∃ report, a.report = .ok report :=
  raisedBy_eq_none.1 (h _ hk)

lemma Clears.size (hk : .size ∈ ks) : ∃ size, a.size = .ok size := by
  obtain ⟨record, hrecord⟩ := h.measured hk
  exact ⟨_, (a.measured_ok hrecord).1⟩

end

structure Systemic (a : Answers) : Prop where
  capacity : ∀ f, a.capacity = .error f → ∃ e, f = .system e
  residency : ∀ size f, a.size = .ok size → a.residency size = .error f → ∃ e, f = .system e

/-- The queries of the platform are such, unless a file has more pages than there are bytes of
memory. -/
lemma systemic_of_mincore {s : Session} {filter : Filter} {path : String} {p : Platform}
    {pageSize : Int}
    (hdevice : s.prober.deviceSize = .ofPlatform p) (hresidency : s.prober.residency = .mincore pageSize)
    (hpageSize : 0 < pageSize) (hmemory : s.machine.memory ≤ 0x8000000000000000)
    (hsize : ∀ size, (s.answers filter path).size = .ok size →
      size ≤ (s.machine.memory - 1) * pageSize) :
    (s.answers filter path).Systemic := by
  constructor
  · intro f hf
    change s.prober.deviceSize.answer _ = _ at hf
    rw [hdevice] at hf
    exact DeviceSize.answer_error hf
  · intro size f hok hf
    change s.prober.residency.answer _ _ _ _ = _ at hf
    rw [hresidency] at hf
    exact Residency.answer_error hpageSize hmemory (hsize size hok) hf

lemma systemic_onFile {node : Node} {filter : Filter} {path : String}
    (hsize : ∀ size, ((Session.onFile node).answers filter path).size = .ok size → size ≤ 0x10000000000) :
    ((Session.onFile node).answers filter path).Systemic := by
  have hdevice : (Session.onFile node).prober.deviceSize = .ofPlatform ⟨"linux", "posix"⟩ := rfl
  have hresidency : (Session.onFile node).prober.residency = .mincore Residency.defaultPageSize :=
    rfl
  have hmemory : (Session.onFile node).machine.memory = 0x800000000 := rfl
  refine systemic_of_mincore hdevice hresidency (by decide) ?_ fun size h => ?_
  · rw [hmemory]
    decide
  · rw [hmemory]
    exact Int.le_trans (hsize size h) (by decide)

/-- The faults that the steps have no problem for. -/
inductive Stray (a : Answers) : Step → Fault → Prop
  | opening {fault : Fault} (h : a.opening = some fault) (hfault : ∀ e, fault ≠ .system e) :
      Stray a .opening fault
  | directory {metadata : Metadata} {fault : ModeFault} (h : a.metadata = .ok metadata)
    (hmode : FileKind.modeWord metadata.mode = .error fault) : Stray a .directory (.mode fault)
  | inspection {metadata : Metadata} {fault : ModeFault} (h : a.inspection = .ok metadata)
    (hmode : FileKind.modeWord metadata.mode = .error fault) : Stray a .inspection (.mode fault)
  | size {size : Int} (h : a.size = .ok size) (hsize : ¬Numeral.Writable size) :
      Stray a .size .numeralTooLong
  | stamp {metadata : Metadata} {fault : TimeFault} (h : a.metadata = .ok metadata)
    (hmtime : metadata.mtime.toInstant = .error fault) : Stray a .stamp (.ofTime fault)
  | quotient {report : Report} (h : a.report = .ok (some report))
    (hquotient : percentage? report.cached (report.cached + report.missing) = none) :
    Stray a .conclusion .quotientTooLarge
  | counts {report : Report} {percent : Binary64} (h : a.report = .ok (some report))
    (hquotient : percentage? report.cached (report.cached + report.missing) = some percent)
    (hcounts : ¬(Numeral.Writable report.cached ∧ Numeral.Writable (report.cached + report.missing))) :
    Stray a .conclusion .numeralTooLong

lemma metadata_error (h : a.metadata = .error f) : ∃ code, f = .system (.plain code) := by
  rw [metadata, Filter.described] at h
  cases hhead : a.trial.left.head with
  | ok _ => simp [hhead, mapError_ok] at h
  | error code => exact ⟨code, by simpa [hhead, mapError_ok, mapError_error, eq_comm] using h⟩

lemma namedKind_error (h : a.namedKind = .error f) :
    (∃ code, f = .system (.onPath code a.path)) ∨
      ∃ metadata, a.inspection = .ok metadata ∧ metadata.kind = .error f := by
  rw [namedKind] at h
  cases hinspection : a.inspection with
  | error code =>
    exact .inl ⟨code, by simpa [hinspection, mapError_ok, mapError_error, error_bind, eq_comm] using h⟩
  | ok metadata =>
    rw [hinspection] at h
    exact .inr ⟨metadata, rfl, h⟩

lemma size_error {metadata : Metadata} {kind : FileKind} (hmetadata : a.metadata = .ok metadata)
    (hkind : a.namedKind = .ok kind) (h : a.size = .error f) : a.capacity = .error f := by
  rw [size, hmetadata, ok_bind, hkind, ok_bind] at h
  split at h
  · exact h
  · cases h

lemma measured_error (h : a.measured = .error f) :
    a.size = .error f ∨ ∃ n, a.size = .ok n ∧ ¬Numeral.Writable n ∧ f = .numeralTooLong := by
  rw [measured_eq] at h
  cases hsize : a.size with
  | error g =>
    rw [hsize, error_bind, Except.error.injEq] at h
    exact .inl (congrArg _ h)
  | ok n =>
    rw [hsize, ok_bind, Numeral.checkWritable] at h
    split at h
    · cases h
    · exact .inr ⟨n, rfl, ‹_›, (Except.error.inj h).symm⟩

lemma stamped_of_clears {ks : List Step} (h : a.Clears ks) (hsize : .size ∈ ks)
    (hstamp : .stamp ∈ ks) :
    ∃ stamped, a.stamped = .ok stamped := by
  obtain ⟨measured, hmeasured⟩ := h.measured hsize
  obtain ⟨mtime, hmtime⟩ := h.mtime hstamp
  exact ⟨_, by rw [stamped_eq, hmeasured, ok_bind, hmtime, ok_bind]⟩

lemma record_of_none {record : Record} (hstamped : a.stamped = .ok record)
    (hreport : a.report = .ok none) :
    a.record = .ok record := by
  obtain ⟨_, mtime, _, hrecord⟩ := a.stamped_ok hstamped
  have hcached : Numeral.Writable record.cached := by
    rw [hrecord]
    exact Numeral.writable_zero
  have hpages : Numeral.Writable record.pages := by
    rw [hrecord]
    exact Numeral.writable_zero
  rw [a.record_eq hstamped hreport, Record.merge_none, ok_bind, Numeral.checkWritable_ok hcached,
    ok_bind, Numeral.checkWritable_ok hpages, ok_bind]

lemma record_of_some {record : Record} {report : Report} (hstamped : a.stamped = .ok record)
    (hreport : a.report = .ok (some report)) :
    a.record =
      match percentage? report.cached (report.cached + report.missing) with
      | none => .error .quotientTooLarge
      | some percent =>
        if Numeral.Writable report.cached ∧ Numeral.Writable (report.cached + report.missing) then
          .ok { record with
            pages := report.cached + report.missing, cached := report.cached, uncached := report.missing
            percent := percent }
        else .error .numeralTooLong := by
  rw [a.record_eq hstamped hreport]
  simp only [Record.merge]
  cases percentage? report.cached (report.cached + report.missing) with
  | none => rfl
  | some percent =>
    simp only [ok_bind, Numeral.checkWritable]
    by_cases hcached : Numeral.Writable report.cached
    · by_cases hpages : Numeral.Writable (report.cached + report.missing)
      · simp only [hcached, hpages, ok_bind, and_self, if_true]
      · simp only [hcached, hpages, ok_bind, error_bind, and_false, if_true, if_false]
    · simp only [hcached, error_bind, false_and, if_false]

lemma record_eq_error {record : Record} {report : Option Report} (hstamped : a.stamped = .ok record)
    (hreport : a.report = .ok report) : a.record = .error f ↔ a.Stray .conclusion f := by
  constructor
  · intro h
    cases report with
    | none =>
      rw [record_of_none hstamped hreport] at h
      cases h
    | some report =>
      rw [record_of_some hstamped hreport] at h
      cases hquotient : percentage? report.cached (report.cached + report.missing) with
      | none =>
        rw [hquotient] at h
        cases h
        exact .quotient hreport hquotient
      | some percent =>
        simp only [hquotient] at h
        split at h
        · cases h
        · cases h
          exact .counts hreport hquotient ‹_›
  · intro h
    cases h with
    | quotient h hquotient => rw [record_of_some hstamped h, hquotient]
    | counts h hquotient hcounts => simp only [record_of_some hstamped h, hquotient, if_neg hcounts]

lemma mishap_of_stray (hclear : a.Clears k.before) (h : a.Stray k f) :
    a.mishap k = some (.raised f) := by
  cases h with
  | opening h hfault =>
    rw [mishap, h]
    rfl
  | @directory metadata fault h hmode =>
    have hkind : a.kind = .error (.mode fault) := by
      rw [kind, h]
      exact Metadata.kind_eq_error.2 ⟨fault, hmode, rfl⟩
    simp [mishap, hkind, Except.toOption, raisedBy]
  | inspection h hmode =>
    apply raisedBy_eq_some.2
    rw [namedKind, h]
    exact Metadata.kind_eq_error.2 ⟨_, hmode, rfl⟩
  | size h hsize =>
    apply raisedBy_eq_some.2
    rw [measured_eq, h, ok_bind, Numeral.checkWritable, if_neg hsize, error_bind]
  | stamp h hmtime =>
    apply raisedBy_eq_some.2
    rw [a.mtime_eq h, hmtime]
    rfl
  | quotient h hquotient =>
    obtain ⟨stamped, hstamped⟩ := stamped_of_clears hclear (by decide) (by decide)
    exact raisedBy_eq_some.2 ((record_eq_error hstamped h).2 (.quotient h hquotient))
  | counts h hquotient hcounts =>
    obtain ⟨stamped, hstamped⟩ := stamped_of_clears hclear (by decide) (by decide)
    exact raisedBy_eq_some.2 ((record_eq_error hstamped h).2 (.counts h hquotient hcounts))

lemma Stray.handle (h : a.Stray k f) : k.handle (.raised f) = .error f := by
  cases h with
  | opening _ hfault =>
    cases f with
    | system e => exact absurd rfl (hfault e)
    | _ => rfl
  | _ => simp only [Step.handle]

lemma mishap_directory (h : a.mishap k = some .directory) : k = .directory := by
  cases k with
  | directory => rfl
  | opening => simp [mishap] at h
  | _ => exact absurd h (raisedBy_ne_directory _)

lemma kind_of_mishap_directory (h : a.mishap .directory = some (.raised f)) :
    a.kind = .error f := by
  rw [mishap] at h
  split at h
  · cases h
  · exact raisedBy_eq_some.1 h

lemma stray_of_handle (hsystemic : a.Systemic) (hclear : a.Clears k.before)
    (hk : a.mishap k = some (.raised f))
    {g : Fault} (h : k.handle (.raised f) = .error g) : a.Stray k f := by
  cases k with
  | opening =>
    obtain ⟨fault, hfault, hmishap⟩ := Option.map_eq_some_iff.1 hk
    obtain rfl := Mishap.raised.inj hmishap
    refine .opening hfault ?_
    rintro e rfl
    simp [Step.handle] at h
  | filter => simp [Step.handle] at h
  | description =>
    obtain ⟨code, rfl⟩ := metadata_error (raisedBy_eq_some.1 hk)
    simp [Step.handle] at h
  | directory =>
    have hkind := kind_of_mishap_directory hk
    obtain ⟨metadata, hmetadata⟩ := hclear.metadata (by decide)
    rw [kind, hmetadata, ok_bind] at hkind
    obtain ⟨fault, hmode, rfl⟩ := Metadata.kind_eq_error.1 hkind
    exact .directory hmetadata hmode
  | inspection =>
    obtain ⟨code, rfl⟩ | ⟨metadata, hinspection, hkind⟩ := namedKind_error (raisedBy_eq_some.1 hk)
    · simp [Step.handle] at h
    · obtain ⟨fault, hmode, rfl⟩ := Metadata.kind_eq_error.1 hkind
      exact .inspection hinspection hmode
  | size =>
    obtain ⟨metadata, hmetadata⟩ := hclear.metadata (by decide)
    obtain ⟨kind, hkind⟩ := hclear.namedKind (by decide)
    obtain hsize | ⟨n, hsize, hn, rfl⟩ := measured_error (raisedBy_eq_some.1 hk)
    · obtain ⟨e, rfl⟩ := hsystemic.capacity f (size_error hmetadata hkind hsize)
      simp [Step.handle] at h
    · exact .size hsize hn
  | stamp =>
    have hmtime := raisedBy_eq_some.1 hk
    obtain ⟨metadata, hmetadata⟩ := hclear.metadata (by decide)
    rw [a.mtime_eq hmetadata] at hmtime
    cases hinstant : metadata.mtime.toInstant with
    | error fault =>
      rw [hinstant] at hmtime
      cases hmtime
      exact .stamp hmetadata hinstant
    | ok mtime =>
      rw [hinstant] at hmtime
      cases hmtime
  | residency =>
    have hreport := raisedBy_eq_some.1 hk
    obtain ⟨size, hsize⟩ := hclear.size (by decide)
    rw [report, hsize, ok_bind] at hreport
    obtain ⟨e, rfl⟩ := hsystemic.residency size f hsize hreport
    simp [Step.handle] at h
  | conclusion =>
    obtain ⟨stamped, hstamped⟩ := stamped_of_clears hclear (by decide) (by decide)
    obtain ⟨report, hreport⟩ := hclear.report (by decide)
    exact (record_eq_error hstamped hreport).1 (raisedBy_eq_some.1 hk)

lemma failure_of_handle {p : Problem} (hk : a.mishap k = some x) (h : k.handle x = .ok p) :
    k.failureKind = some p.kind ∧ p.cause = x.exception ∧
      p.reason = if k = .filter then x.exception else none := by
  cases x with
  | directory =>
    obtain rfl := mishap_directory hk
    cases h
    exact ⟨rfl, rfl, rfl⟩
  | raised g => cases k <;> cases g <;> cases h <;> exact ⟨rfl, rfl, rfl⟩

lemma failing?_of_verdict (hopening : a.opening = none) (hverdict : a.trial.verdict = .error f) :
    a.failing? = some (.filter, .raised f) := by
  rw [failing?_eq_some_iff]
  refine ⟨List.forall_mem_singleton.2 ?_, raisedBy_eq_some.2 hverdict⟩
  rw [mishap, hopening]
  rfl

lemma ended_ok (h : a.failing? = none) :
    ∃ record, a.record = .ok record ∧ a.ended = .ok record := by
  obtain ⟨record, hrecord⟩ := raisedBy_eq_none.1 (failing?_eq_none_iff.1 h .conclusion (by decide))
  refine ⟨record, hrecord, ?_⟩
  rw [ended, h, hrecord]
  rfl

lemma taken_of_failing (h : a.failing? = some (k, x)) : a.taken = k.before ++ [k] := by
  obtain ⟨hclear, hk⟩ := failing?_eq_some_iff.1 h
  rw [taken, h, (a.failing?_eq k.all_eq hclear hk).2]
  rfl

lemma taken_of_none (h : a.failing? = none) : a.taken = Step.all := by
  rw [taken, h, (a.failing?_eq_none (failing?_eq_none_iff.1 h)).2]
  rfl

/-- A step that nothing before goes wrong for is taken, and those that are taken later are behind it. -/
lemma taken_of_clears (h : a.Clears k.before) :
    ∃ rest, a.taken = k.before ++ k :: rest ∧ ∀ j ∈ rest, j ∈ k.behind := by
  have htaken : k.before ++ [k] <+: a.taken ∧ a.taken <+: Step.all := by
    cases hfailing : a.failing? with
    | none =>
      rw [taken_of_none hfailing]
      exact ⟨⟨k.behind, by rw [k.all_eq, List.append_assoc]; rfl⟩, List.prefix_rfl⟩
    | some mishap =>
      obtain ⟨j, x⟩ := mishap
      obtain ⟨-, hj⟩ := failing?_eq_some_iff.1 hfailing
      have hnot : j ∉ k.before := by
        intro hmem
        cases (h j hmem).symm.trans hj
      rw [taken_of_failing hfailing]
      exact ⟨Step.before_concat hnot, ⟨j.behind, by rw [j.all_eq, List.append_assoc]; rfl⟩⟩
  obtain ⟨⟨rest, hrest⟩, later, hlater⟩ := htaken
  have hbehind : rest ++ later = k.behind := by
    rw [← hrest, k.all_eq, List.append_assoc, List.append_assoc] at hlater
    exact (List.cons.inj (List.append_cancel_left hlater)).2
  refine ⟨rest, ?_, fun j hj => hbehind ▸ List.mem_append_left later hj⟩
  rw [← hrest, List.append_assoc]
  rfl

lemma calls_of_opened (h : a.opening = none) :
    ∃ body, a.calls = .open a.path .nonblocking :: body ++ [.close a.number] ∧
    ∀ c ∈ body, ∃ k, k ≠ .opening ∧ c ∈ a.stepCalls k := by
  have hfirst : a.Clears Step.opening.before := fun _ hk => absurd hk List.not_mem_nil
  obtain ⟨ks, htaken, hbehind⟩ := taken_of_clears hfirst
  have hks : ∀ k ∈ ks, k ≠ .opening := by
    rintro k hk rfl
    exact absurd (hbehind _ hk) (by decide)
  refine ⟨ks.flatMap a.stepCalls, ?_, ?_⟩
  · rw [calls, htaken, if_pos h, List.flatMap_append, List.flatMap_cons, a.stepCalls_opening h]
    rfl
  · intro c hc
    obtain ⟨k, hk, hck⟩ := List.mem_flatMap.1 hc
    exact ⟨k, hks k hk, hck⟩

end Answers

end PageCache
