import PageCache.Proofs.CommandLine.Findings
import PageCache.Proofs.Descriptors
import PageCache.Proofs.Probe.Entries

/-! The ceiling on sizes. It is held against one answer about the file, and the size that is listed
comes from a later one, or from the device: what is listed has been under the ceiling, and what is
above it is skipped, as far as both are the same. -/

namespace PageCache

open Sequencing

namespace Node

/-- What is left of the answers about a file when the ceiling comes to be tested. -/
def underCeiling (n : Node) (regularOnly : Bool) : Script (Except ErrorCode Metadata) :=
  if regularOnly then n.described.advance else n.described

def IsDevice (n : Node) : Prop := ∃ named, n.named = .ok named ∧ named.kind = .ok .block

/-- A file that is no block device and is described with this size whenever it is. -/
structure HasSize (n : Node) (size : Int) : Prop where
  not_device : ¬ n.IsDevice
  described : ∀ m, .ok m ∈ n.described.head :: n.described.tail → m.size = size

end Node

namespace Script

variable {α : Type} {s : Script α}

lemma cons_advance_subset : s.advance.head :: s.advance.tail ⊆ s.head :: s.tail := by
  rcases s with ⟨a, _ | ⟨b, rest⟩⟩
  · exact fun _ h => h
  · exact List.subset_cons_self a _

end Script

lemma Node.underCeiling_subset (n : Node) (regularOnly : Bool) :
    (n.underCeiling regularOnly).head :: (n.underCeiling regularOnly).tail ⊆
      n.described.head :: n.described.tail := by
  cases regularOnly with
  | false => exact List.Subset.refl _
  | true => exact Script.cons_advance_subset

lemma Trial.followedBy_ok {first : Trial} {next : Script (Except ErrorCode Metadata) → Trial}
    (h : (first.followedBy next).verdict = .ok ()) :
    first.verdict = .ok () ∧ (next first.left).verdict = .ok () ∧
      (first.followedBy next).left = (next first.left).left := by
  cases hfirst : first.verdict with
  | error f =>
    rw [followedBy, hfirst] at h
    cases hfirst.symm.trans h
  | ok u =>
    rw [followedBy, hfirst] at h ⊢
    exact ⟨rfl, h, rfl⟩

namespace Filter

lemma le_of_checkSize {limit : Nat} {size : Int} (h : checkSize limit size = .ok ()) :
    size ≤ limit := by
  by_contra hlt
  rw [checkSize, if_pos (Int.not_le.1 hlt)] at h
  cases hsize : Numeral.checkWritable size <;> rw [hsize] at h
  · cases h
  · cases hlimit : Numeral.checkWritable (limit : Int) <;> rw [hlimit] at h <;> cases h

variable {number limit : Nat} {script : Script (Except ErrorCode Metadata)}

lemma trial_maxSize (h : ((maxSize limit).trial number script).verdict = .ok ()) :
    ∃ m, script.head = .ok m ∧ m.size ≤ limit := by
  change (described script >>= fun m => checkSize limit m.size) = .ok () at h
  rw [described] at h
  cases hhead : script.head with
  | error code =>
    rw [hhead] at h
    cases h
  | ok m =>
    rw [hhead] at h
    exact ⟨m, rfl, le_of_checkSize h⟩

/-- The filter that the command line builds for a ceiling. -/
def ceiling (regularOnly : Bool) (limit : Nat) : Filter :=
  .chain (if regularOnly then [.regularOnly, .maxSize limit] else [.maxSize limit])

lemma trial_ceiling {regularOnly : Bool} {n : Node}
    (h : ((ceiling regularOnly limit).trial number n.described).verdict = .ok ()) :
    (∃ m, (n.underCeiling regularOnly).head = .ok m ∧ m.size ≤ limit) ∧
      ((ceiling regularOnly limit).trial number n.described).left =
        (n.underCeiling regularOnly).advance := by
  cases regularOnly with
  | false =>
    obtain ⟨hsize, -, hleft⟩ := Trial.followedBy_ok h
    exact ⟨trial_maxSize hsize, hleft⟩
  | true =>
    obtain ⟨-, hrest, hleft⟩ := Trial.followedBy_ok h
    obtain ⟨hsize, -, hrestLeft⟩ := Trial.followedBy_ok hrest
    exact ⟨trial_maxSize hsize, hleft.trans hrestLeft⟩

end Filter

namespace Answers

variable {a : Answers} {record : Record}

lemma sized_of_record (hclear : a.Clears Step.all) (h : a.record = .ok record) :
    record.name = a.path ∧ a.size = .ok record.size := by
  obtain ⟨stamped, hstamped⟩ := stamped_of_clears hclear (by decide) (by decide)
  obtain ⟨report, hreport⟩ := hclear.report (by decide)
  obtain ⟨hname, hsize, -⟩ := Record.file_merge (merge_of_record hstamped hreport h)
  rw [hname, hsize]
  exact ⟨a.stamped_name hstamped, (a.stamped_ok hstamped).1⟩

end Answers

namespace Session

variable {s t : Session} {path : String} {record : Record} {failure : Failure}

lemma Follows.fileAt_eq (h : s.Follows t) (path : String) :
    t.machine.fileAt path = s.machine.fileAt path := by
  rw [Machine.fileAt, Machine.fileAt, h.files]

/-- What is known of a record that comes from behind a ceiling. -/
structure UnderCeiling (s : Session) (regularOnly : Bool) (limit : Nat) (record : Record) : Prop where
  tested : ∃ m, ((s.machine.fileAt record.name).underCeiling regularOnly).head = .ok m ∧ m.size ≤ limit
  size : (s.machine.fileAt record.name).IsDevice ∨
    ∃ m, ((s.machine.fileAt record.name).underCeiling regularOnly).advance.head = .ok m ∧
      record.size = m.size

variable {regularOnly : Bool} {limit : Nat}

lemma Follows.underCeiling (h : s.Follows t) (hunder : t.UnderCeiling regularOnly limit record) :
    s.UnderCeiling regularOnly limit record := by
  obtain ⟨htested, hsize⟩ := hunder
  rw [h.fileAt_eq] at htested hsize
  exact ⟨htested, hsize⟩

lemma underCeiling_of_probe
    (h : ((probe (.ceiling regularOnly limit) path).run.run s).1 = .ok record) :
    record.name = path ∧ s.UnderCeiling regularOnly limit record := by
  obtain ⟨hfailing, hrecord, -⟩ := record_of_run (Prod.ext h rfl)
  have hclear := Answers.failing?_eq_none_iff.1 hfailing
  obtain ⟨hname, hsize⟩ := Answers.sized_of_record hclear hrecord
  obtain rfl : record.name = path := hname
  refine ⟨rfl, ?_⟩
  obtain ⟨⟨⟩, hverdict⟩ := raisedBy_eq_none.1 (hclear .filter (by decide))
  obtain ⟨htested, hleft⟩ := Filter.trial_ceiling hverdict
  obtain ⟨metadata, hmetadata⟩ := hclear.metadata (by decide)
  obtain ⟨kind, hkind⟩ := hclear.namedKind (by decide)
  refine ⟨htested, ?_⟩
  rw [Answers.size_of_kind hmetadata hkind] at hsize
  by_cases hblock : kind = .block
  · subst hblock
    exact .inl (Answers.named_of_namedKind hkind)
  · rw [if_neg hblock] at hsize
    exact .inr ⟨metadata, hleft ▸ Answers.head_of_metadata hmetadata, (Except.ok.inj hsize).symm⟩

lemma UnderCeiling.of_hasSize {size : Int} (h : s.UnderCeiling regularOnly limit record)
    (hsize : (s.machine.fileAt record.name).HasSize size) : record.size = size ∧ size ≤ limit := by
  obtain ⟨m, htested, hle⟩ := h.tested
  obtain ⟨later, hlater, hrecord⟩ := h.size.resolve_left hsize.not_device
  -- The answer that was tested and the one that is listed are both among those of the file.
  have hunder := (s.machine.fileAt record.name).underCeiling_subset regularOnly
  have hm := hsize.described m (hunder (htested ▸ List.mem_cons_self))
  have hlaterSize := hsize.described later
    (hunder (Script.cons_advance_subset (hlater ▸ List.mem_cons_self)))
  exact ⟨hrecord.trans hlaterSize, hm ▸ hle⟩

lemma kind_of_rejected {filter : Filter} {f : Fault}
    (hopening : (s.answers filter path).opening = none)
    (hverdict : (s.answers filter path).trial.verdict = .error f)
    (h : ((probe filter path).run.run s).1 = .error (.failure failure)) :
    failure.kind = .rejection := by
  obtain ⟨-, k, x, p, hfailing, hhandle, rfl⟩ := failure_of_run (Prod.ext h rfl)
  obtain ⟨rfl, rfl⟩ := Prod.mk.inj (Option.some.inj
    (hfailing.symm.trans (Answers.failing?_of_verdict hopening hverdict)))
  obtain rfl := Except.ok.inj hhandle
  rfl

end Session

namespace CommandLine

open Session

variable {filter : Filter} {paths : List String} {s : Session} {o : Options} {settings : Settings}

lemma run_probeAll_fault {path : String} {fault : Fault}
    (h : ((probe filter path).run.run s).1 = .error (.fault fault)) (paths : List String) :
    ((probeAll filter (path :: paths)).run s).1 = { fault := some fault } := by
  have hrun : (probe filter path).run.run s =
      (.error (.fault fault), ((probe filter path).run.run s).2) := Prod.ext h rfl
  rw [probeAll, StateT.run_bind, hrun]
  rfl

/-- Every finding is what a probe came to later in the run; and if no fault ended it, there is one
for each path. -/
lemma findings_probeAll (filter : Filter) (paths : List String) (s : Session) :
    let findings := ((probeAll filter paths).run s).1
    (∀ x ∈ findings.outcomes, ∃ t, s.Follows t ∧
      ((probe filter x.1).run.run t).1 = x.2.mapError .failure) ∧
      (findings.fault = none → findings.outcomes.map Prod.fst = paths) := by
  induction paths generalizing s with
  | nil => exact ⟨fun _ h => absurd h List.not_mem_nil, fun _ => rfl⟩
  | cons path paths ih =>
    obtain ⟨fault, hfault⟩ | ⟨outcome, houtcome⟩ :=
      fault_or_mapError ((probe filter path).run.run s).1
    · rw [run_probeAll_fault hfault]
      exact ⟨fun _ h => absurd h List.not_mem_nil, fun hnone => nomatch hnone⟩
    · obtain ⟨hfound, hall⟩ := ih ((probe filter path).run.run s).2
      rw [run_probeAll_cons (Prod.ext houtcome rfl)]
      refine ⟨fun x hx => ?_, fun hnone => congrArg _ (hall hnone)⟩
      obtain rfl | hx := List.mem_cons.1 hx
      · exact ⟨s, .refl s, houtcome⟩
      · obtain ⟨t, ht, hprobe⟩ := hfound x hx
        exact ⟨t, (keeps_probe filter path s).trans ht, hprobe⟩

section

variable {regularOnly : Bool} {limit : Nat} {t : Session} {path : String}

lemma underCeiling_of_mem {record : Record} (hfollows : s.Follows t) (h : (path, .ok record) ∈
      ((probeAll (.ceiling regularOnly limit) paths).run t).1.outcomes) :
    record.name = path ∧ s.UnderCeiling regularOnly limit record := by
  obtain ⟨u, hu, hprobe⟩ := (findings_probeAll _ paths t).1 _ h
  exact (underCeiling_of_probe hprobe).imp_right (hfollows.trans hu).underCeiling

lemma exists_skipped (hfollows : s.Follows t)
    (hfault : ((probeAll (.ceiling regularOnly limit) paths).run t).1.fault = none)
    (hpath : path ∈ paths)
    (habove : ∀ m, ((s.machine.fileAt path).underCeiling regularOnly).head = .ok m →
      limit < m.size) :
    ∃ failure, (path, .error failure) ∈
        ((probeAll (.ceiling regularOnly limit) paths).run t).1.outcomes ∧
      ((s.machine.fileAt path).openFault = none → failure.kind = .rejection) := by
  obtain ⟨hfound, hall⟩ := findings_probeAll (.ceiling regularOnly limit) paths t
  rw [← hall hfault] at hpath
  obtain ⟨⟨path, outcome⟩, hmem, rfl⟩ := List.mem_map.1 hpath
  have hnot : ¬ ∃ m, ((s.machine.fileAt path).underCeiling regularOnly).head = .ok m ∧
      m.size ≤ limit := fun ⟨m, hhead, hle⟩ => absurd (habove m hhead) (Int.not_lt.2 hle)
  -- A record would have been under the ceiling; and what opens can only have been turned away.
  cases outcome with
  | ok record =>
    obtain ⟨rfl, hunder⟩ := underCeiling_of_mem hfollows hmem
    exact absurd hunder.tested hnot
  | error failure =>
    refine ⟨failure, hmem, fun hopen => ?_⟩
    obtain ⟨u, hu, hprobe⟩ := hfound _ hmem
    rw [← (hfollows.trans hu).fileAt_eq] at hnot hopen
    have htakes : u.machine.Takes path := by
      by_contra hrefused
      rw [run_probe_of_not_takes hrefused] at hprobe
      cases hprobe
    have hopening : (u.answers (.ceiling regularOnly limit) path).opening = none :=
      Machine.openingFault_eq_none_iff.2 ⟨htakes, hopen⟩
    cases hverdict : (u.answers (.ceiling regularOnly limit) path).trial.verdict with
    | ok => exact absurd (Filter.trial_ceiling hverdict).1 hnot
    | error f => exact kind_of_rejected hopening hverdict hprobe

end

lemma exists_append_of_mem {line : String} {lines : List String} (h : line ∈ lines) :
    ∃ before behind, String.join lines = before ++ line ++ behind := by
  obtain ⟨front, rear, rfl⟩ := List.append_of_mem h
  exact ⟨String.join front, String.join rear, by
    rw [String.join_append, String.join_cons, String.append_assoc]⟩

lemma stdout_report (o : Options) (format : Listing.Format) (log : Option Log) (f : Findings) :
    (report o format log f).stdout = "" ∨
      listing o format f.records = .ok (report o format log f).stdout := by
  rw [report]
  cases f.fault with
  | some fault => exact .inl rfl
  | none =>
    cases hlisting : listing o format f.records with
    | error fault => exact .inl rfl
    | ok stdout => exact .inr rfl

lemma runOptions_cases (hsettings : Settings.ofEnvironment s.machine.environment = .ok settings)
    (hfilter : filterOf o settings = .ok filter) :
    let transcript := ((runOptions o).run s).1
    (transcript.stdout = "" ∧
        ∀ paths, ((pathsOf o).run.run s.machine).1 = .ok paths → paths = []) ∨
      ∃ paths t log, ((pathsOf o).run.run s.machine).1 = .ok paths ∧ s.Follows t ∧
        transcript = report o (formatOf o settings) log ((probeAll filter paths).run t).1 := by
  intro transcript
  have hkeeps := keeps_pathsOf o s
  have htranscript : transcript = ((runSettled o settings).run s).1 :=
    congrArg Prod.fst (run_runOptions_of_settings hsettings)
  rw [run_onMachine] at hkeeps
  rcases hpaths : (pathsOf o).run.run s.machine with ⟨fault | paths, m⟩
  · rw [run_runSettled_error hpaths] at htranscript
    refine .inl ⟨htranscript ▸ stdout_stopped fault, ?_⟩
    rintro _ ⟨⟩
  cases paths with
  | nil =>
    rw [run_runSettled_nil hpaths] at htranscript
    exact .inl ⟨congrArg Transcript.stdout htranscript, fun _ h => (Except.ok.inj h).symm⟩
  | cons path paths =>
    let t : Session := { s with machine := m }
    let probed := (probeAll filter (path :: paths)).run t
    have hfiles : ((probeFiles o settings (path :: paths)).run t).1 =
        report o (formatOf o settings) probed.2.prober.log probed.1 := by
      rw [probeFiles, hfilter]
      rfl
    rw [run_runSettled_cons hpaths] at htranscript
    rw [hpaths] at hkeeps
    exact .inr ⟨path :: paths, t, _, rfl, hkeeps, htranscript.trans hfiles⟩

lemma filterOf_of_limit {limit : Nat} (h : limitOf o settings = some (.integer limit)) :
    filterOf o settings = .ok (.ceiling o.regularOnly limit) := by
  rw [filterOf, h]
  rfl

theorem run_under_ceiling {args : List String} {limit : Nat} (hargs : Options.ofArguments args = .ok o)
    (hsettings : Settings.ofEnvironment s.machine.environment = .ok settings)
    (hlimit : limitOf o settings = some (.integer limit)) :
    let transcript := ((run args).run s).1
    (∃ records, (transcript.stdout = "" ∨
        listing o (formatOf o settings) records = .ok transcript.stdout) ∧
      ∀ record ∈ records, s.UnderCeiling o.regularOnly limit record ∧
        ∀ size, (s.machine.fileAt record.name).HasSize size → record.size = size ∧ size ≤ limit) ∧
      ∀ paths status, ((pathsOf o).run.run s.machine).1 = .ok paths →
        transcript.ending = .returned status → ∀ path ∈ paths,
          (∀ m, ((s.machine.fileAt path).underCeiling o.regularOnly).head = .ok m → limit < m.size) →
            status = statusSkipped ∧ ∃ failure before behind,
              transcript.stderr = before ++ Findings.skipLine path failure ++ behind ∧
                ((s.machine.fileAt path).openFault = none → failure.kind = .rejection) := by
  intro transcript
  have htranscript : transcript = ((runOptions o).run s).1 := by
    simp only [transcript, run, hargs]
  obtain ⟨hstdout, hnone⟩ | ⟨probed, t, log, hprobed, hfollows, hreport⟩ :=
    runOptions_cases hsettings (filterOf_of_limit hlimit)
  · refine ⟨⟨[], .inl (htranscript ▸ hstdout), fun _ h => absurd h List.not_mem_nil⟩, ?_⟩
    rintro paths status hpaths - path hpath
    rw [hnone paths hpaths] at hpath
    cases hpath
  rw [← htranscript] at hreport
  constructor
  · refine ⟨_, hreport ▸ stdout_report o _ log _, fun record hrecord => ?_⟩
    obtain ⟨⟨path, outcome⟩, hmem, houtcome⟩ := List.mem_filterMap.1 hrecord
    cases outcome with
    | error failure => cases houtcome
    | ok found =>
      obtain rfl := Option.some.inj houtcome
      have hunder := (underCeiling_of_mem hfollows hmem).2
      exact ⟨hunder, fun size hsize => hunder.of_hasSize hsize⟩
  · intro paths status hpaths hending path hpath habove
    obtain rfl := Except.ok.inj (hprobed.symm.trans hpaths)
    rw [hreport] at hending ⊢
    obtain ⟨hfault, hstatus, rest, hstderr⟩ := report_of_returned hending
    obtain ⟨failure, hmem, hkind⟩ := exists_skipped hfollows hfault hpath habove
    have hline : Findings.skipLine path failure ∈
        ((probeAll (.ceiling o.regularOnly limit) probed).run t).1.skipLines :=
      List.mem_filterMap.2 ⟨_, hmem, rfl⟩
    obtain ⟨before, behind, hjoin⟩ := exists_append_of_mem hline
    rw [if_neg (List.ne_nil_of_mem hline)] at hstatus
    refine ⟨hstatus, failure, before, behind ++ rest, ?_, hkind⟩
    rw [hstderr, hjoin, String.append_assoc]

theorem run_under_ceiling_large_file :
    let s := Session.onFile (.holding ⟨0o100644, 5000, ⟨0, 0⟩⟩)
    let o : Options := { files := ["f"], maxSize := some (.integer (10 : Nat)) }
    let transcript := ((run ["--max-size", "10", "f"]).run s).1
    Options.ofArguments ["--max-size", "10", "f"] = .ok o ∧
      Settings.ofEnvironment s.machine.environment = .ok {} ∧
      limitOf o {} = some (.integer (10 : Nat)) ∧ (s.machine.fileAt "f").HasSize 5000 ∧
      (∃ records, (transcript.stdout = "" ∨ listing o .table records = .ok transcript.stdout) ∧
        ∀ record ∈ records, record.name ≠ "f") ∧
      ∃ failure before behind,
        transcript.stderr = before ++ Findings.skipLine "f" failure ++ behind ∧
          failure.kind = .rejection := by
  intro s o transcript
  have hargs : Options.ofArguments ["--max-size", "10", "f"] = .ok o := by decide +kernel
  have hsettings : Settings.ofEnvironment s.machine.environment = .ok {} := rfl
  have hlimit : limitOf o {} = some (.integer (10 : Nat)) := rfl
  have hsize : (s.machine.fileAt "f").HasSize 5000 := by
    refine ⟨fun ⟨named, hnamed, hkind⟩ => ?_, fun m hm => ?_⟩
    · obtain rfl := Except.ok.inj hnamed
      exact absurd hkind (by decide)
    · obtain rfl := Except.ok.inj (List.mem_singleton.1 hm)
      rfl
  have hending : transcript.ending = .returned 1 := by decide +kernel
  obtain ⟨⟨records, hlisted, hunder⟩, hskipped⟩ := run_under_ceiling hargs hsettings hlimit
  have habove : ∀ m, ((s.machine.fileAt "f").underCeiling false).head = .ok m → 10 < m.size := by
    intro m hm
    obtain rfl := Except.ok.inj hm
    decide
  obtain ⟨-, failure, before, behind, hstderr, hkind⟩ :=
    hskipped ["f"] 1 rfl hending "f" List.mem_cons_self habove
  refine ⟨hargs, hsettings, hlimit, hsize, ⟨records, hlisted, fun record hrecord hname => ?_⟩,
    failure, before, behind, hstderr, hkind rfl⟩
  have hle := (hunder record hrecord).2 5000 (hname ▸ hsize)
  exact absurd hle.2 (by decide)

/-- A block device is described as empty, and listed with what it can hold. -/
theorem run_under_ceiling_block_device :
    let s := Session.onFile (.holding ⟨0o060660, 0, ⟨0, 0⟩⟩)
    let device := { s with machine.devices := [(0x80081272, .ok 1048576)] }
    let args := ["--max-size", "10", "--terse", "--nohdr", "f"]
    (Options.ofArguments args).map (limitOf · {}) = .ok (some (.integer 10)) ∧
      ((run args).run device).1 =
        { stdout := "f,1048576,0,0,256,256,100.000\n", ending := .returned 0 } := by
  decide +kernel

end CommandLine

end PageCache
