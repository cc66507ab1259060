import PageCache.Proofs.CommandLine.Findings
import PageCache.Proofs.Descriptors

/-! Runs of the command line that end before they probe anything. All that they do to the machine is
to read a process map, if one is asked for; and a run that has come to its first probe does not end
like that any more. -/

namespace PageCache

/-- The session when nothing more was done in it than to read the map of a process. -/
def Session.reading (s : Session) (pid : CommandLine.Value) : Session :=
  let read := Call.read (ProcessMap.location ProcessMap.defaultRoot pid.process)
  { s with machine := s.machine.noting [read] }

namespace CommandLine

open Sequencing Session

variable {o : Options} {settings : Settings} {filter : Filter} {s : Session}
  {paths : List String} {m : Machine}

lemma report_ne_usage {format : Listing.Format} {log : Option Log} {f : Findings} :
    (report o format log f).ending ≠ .returned statusUsage := by
  intro h
  obtain ⟨-, hstatus, -⟩ := report_of_returned h
  split at hstatus <;> exact absurd hstatus (by decide)

lemma calls_probe {path : String} (htakes : s.machine.Takes path) (filter : Filter) :
    ∃ more, ((probe filter path).run.run s).2.machine.calls =
      s.machine.calls ++ .open path .nonblocking :: more := by
  rw [run_probe]
  cases hopening : (s.answers filter path).opening with
  | some f =>
    have hnull : f ≠ .embeddedNull := by
      rintro rfl
      exact Machine.openingFault_eq_embeddedNull_iff.1 hopening htakes
    exact ⟨[], by rw [calls_after, Answers.calls_of_refused _ hopening, if_neg hnull]; rfl⟩
  | none =>
    obtain ⟨body, hcalls, -⟩ := Answers.calls_of_opened hopening
    exact ⟨body ++ [.close _], by rw [calls_after, hcalls]; rfl⟩

lemma calls_probeAll {path : String} (htakes : s.machine.Takes path) (filter : Filter)
    (paths : List String) :
    ∃ more, ((probeAll filter (path :: paths)).run s).2.machine.calls =
      s.machine.calls ++ .open path .nonblocking :: more := by
  obtain ⟨first, hfirst⟩ := calls_probe htakes filter
  have hfollows : ((probe filter path).run.run s).2.Follows
      ((probeAll filter (path :: paths)).run s).2 := by
    rw [probeAll, StateT.run_bind]
    generalize (probe filter path).run.run s = r
    obtain ⟨stray | record, t⟩ := r
    · cases stray with
      | failure failure => exact keeps_probeAll filter paths t
      | fault fault => exact .refl t
    · exact keeps_probeAll filter paths t
  obtain ⟨more, hmore, -⟩ := hfollows.calls
  exact ⟨first ++ more, by rw [hmore, hfirst, List.append_assoc]; rfl⟩

/-- A run that has come to its first probe, on a machine as this one is then. It does not find fault
with how it was asked, and it opens the first file, if the path can be handed over. -/
structure StartsProbing (path : String) (m : Machine) (r : Transcript × Session) : Prop where
  ending : r.1.ending ≠ .returned statusUsage
  opens (htakes : m.Takes path) : ∃ more, r.2.machine.calls = m.calls ++ .open path .nonblocking :: more

lemma startsProbing (h : filterOf o settings = .ok filter) (path : String) (paths : List String)
    (s : Session) : StartsProbing path s.machine ((probeFiles o settings (path :: paths)).run s) := by
  rw [probeFiles, h]
  exact ⟨report_ne_usage, fun htakes => calls_probeAll htakes filter paths⟩

lemma stopped_ne_usage (fault : Fault) : (stopped fault).ending ≠ .returned statusUsage := by
  intro h
  cases fault <;> cases h

lemma probeFiles_of_usage
    (h : ((probeFiles o settings paths).run s).1.ending = .returned statusUsage) :
    ((probeFiles o settings paths).run s).1.stdout = "" ∧
      ((probeFiles o settings paths).run s).2 = s := by
  rw [probeFiles] at h ⊢
  cases hfilter : filterOf o settings with
  | ok filter =>
    rw [hfilter] at h
    exact absurd h report_ne_usage
  | error fault => cases fault <;> exact ⟨rfl, rfl⟩

lemma runSettled_of_usage (h : ((runSettled o settings).run s).1.ending = .returned statusUsage) :
    ((runSettled o settings).run s).1.stdout = "" ∧
      ((runSettled o settings).run s).2 = { s with machine := s.machine.noting (mapReads o) } := by
  rw [← run_pathsOf]
  rcases hpaths : (pathsOf o).run.run s.machine with ⟨fault | paths, m⟩
  · rw [run_runSettled_error hpaths] at h
    exact absurd h (stopped_ne_usage fault)
  · cases paths with
    | nil =>
      rw [run_runSettled_nil hpaths]
      exact ⟨rfl, rfl⟩
    | cons path paths =>
      rw [run_runSettled_cons hpaths] at h ⊢
      exact probeFiles_of_usage h

lemma runOptions_of_usage (h : ((runOptions o).run s).1.ending = .returned statusUsage) :
    ((runOptions o).run s).1.stdout = "" ∧
      (((runOptions o).run s).2 = s ∨
        ((runOptions o).run s).2 = { s with machine := s.machine.noting (mapReads o) }) := by
  cases hsettings : Settings.ofEnvironment s.machine.environment with
  | error e =>
    rw [run_runOptions_of_error hsettings]
    exact ⟨rfl, .inl rfl⟩
  | ok settings =>
    rw [run_runOptions_of_settings hsettings] at h ⊢
    exact (runSettled_of_usage h).imp_right .inr

lemma mapReads_of_unreadable {pid : Value} {p : Process} {e : SystemError} (hpid : o.pid = some pid)
    (h : ((ProcessMap.filesOf ProcessMap.defaultRoot pid.process).run.run m).1 =
      .error (.unreadableMap p e)) :
    mapReads o = [.read (ProcessMap.location ProcessMap.defaultRoot pid.process)] := by
  rw [mapReads, hpid]
  refine if_pos (by_contra fun hname => ?_)
  rw [ProcessMap.run_filesOf, if_pos hname] at h
  cases h

/-- The session behind a run that has at most read the map of the process that it was asked about. -/
inductive ReadsAtMostMap (args : List String) (s : Session) : Session → Prop
  | nothing : ReadsAtMostMap args s s
  | map {o : Options} {pid : Value} (hargs : Options.ofArguments args = .ok o) (hpid : o.pid = some pid) :
    ReadsAtMostMap args s (s.reading pid)

lemma readsAtMostMap {args : List String} (hargs : Options.ofArguments args = .ok o) :
    ReadsAtMostMap args s { s with machine := s.machine.noting (mapReads o) } := by
  rw [mapReads]
  split
  · rw [Machine.noting_nil]
    exact .nothing
  · split
    · exact .map hargs ‹_›
    · rw [Machine.noting_nil]
      exact .nothing

/-- A run that does nothing, as its settings cannot be read. -/
structure StopsAtSettings (e : SettingsError) (s : Session) (r : Transcript × Session) : Prop where
  transcript : r.1 = { stderr := complaint e.message, ending := .returned statusUsage }
  session : r.2 = s

/-- A run that has read the map of a process, to no avail, and does nothing else. -/
structure StopsAtMap (pid : Value) (p : Process) (e : SystemError) (s : Session)
    (r : Transcript × Session) : Prop where
  transcript : r.1 = { stderr := complaint (Fault.unreadableMap p e).message
                       ending := .returned statusSkipped }
  session : r.2 = s.reading pid

/-- What a run does before its first probe. If it returns that it was asked for something wrong,
there was no probe: it has printed no listing and has at most read the map of a process. That is all
it has done as well when this map could not be read, and with settings that cannot be read it has
not even done that. Once it has come to its first probe, it was not asked for anything wrong. -/
theorem run_before_probes (args : List String) (s : Session) :
    let r := (run args).run s
    (r.1.ending = .returned statusUsage → r.1.stdout = "" ∧ ReadsAtMostMap args s r.2) ∧
      (∀ stop, Options.ofArguments args = .error stop → r = (stop.transcript, s)) ∧
      ∀ o, Options.ofArguments args = .ok o →
        (∀ e, Settings.ofEnvironment s.machine.environment = .error e → StopsAtSettings e s r) ∧
        ∀ settings, Settings.ofEnvironment s.machine.environment = .ok settings →
          (∀ pid p e, o.pid = some pid →
            ((ProcessMap.filesOf ProcessMap.defaultRoot pid.process).run.run s.machine).1 =
              .error (.unreadableMap p e) → StopsAtMap pid p e s r) ∧
          ∀ path paths m filter, (pathsOf o).run.run s.machine = (.ok (path :: paths), m) →
            filterOf o settings = .ok filter → StartsProbing path m r := by
  intro r
  cases hargs : Options.ofArguments args with
  | error stop =>
    have hrun : r = (stop.transcript, s) := by
      unfold r
      rw [run, hargs]
      rfl
    refine ⟨fun h => ?_, ?_, ?_⟩
    · rw [hrun] at h
      cases stop <;> cases h
    · rintro _ ⟨⟩
      exact hrun
    · rintro o ⟨⟩
  | ok o =>
    have hrun : run args = runOptions o := by rw [run, hargs]
    unfold r
    rw [hrun]
    refine ⟨fun h => ?_, by rintro stop ⟨⟩, ?_⟩
    · obtain ⟨hstdout, hlast | hlast⟩ := runOptions_of_usage h
      · rw [hlast]
        exact ⟨hstdout, .nothing⟩
      · rw [hlast]
        exact ⟨hstdout, readsAtMostMap hargs⟩
    · rintro _ ⟨⟩
      refine ⟨fun e he => ?_, fun settings hsettings => ⟨fun pid p e hpid h => ?_, ?_⟩⟩
      · rw [run_runOptions_of_error he]
        exact ⟨rfl, rfl⟩
      · rw [run_runOptions_of_settings hsettings,
          run_runSettled_error (run_pathsOf_of_error hpid h), mapReads_of_unreadable hpid h]
        exact ⟨rfl, rfl⟩
      · intro path paths m filter hpaths hfilter
        rw [run_runOptions_of_settings hsettings, run_runSettled_cons hpaths]
        exact startsProbing hfilter path paths { s with machine := m }

theorem run_before_probes_negative_limit :
    let s := Session.onFile (.holding ⟨0o100644, 5000, ⟨0, 0⟩⟩)
    let wrong := { s with machine.environment := [("PY_PCSTAT_MAX_SIZE", "ten")] }
    let limited := (run ["f", "--max-size", "-1"]).run s
    let unread := (run ["f", "--max-size", "-1", "--pid", "7"]).run s
    let probing := (run ["f"]).run s
    (limited.1.ending = .returned statusUsage ∧ limited.1.stdout = "" ∧
        limited.2.machine.calls = []) ∧
      (unread.1.ending = .returned statusSkipped ∧ unread.1.stdout = "" ∧
        unread.2.machine.calls = [.read "/proc/7/maps"]) ∧
      (run ["f", "--pid", "7"]).run wrong =
        ({ stderr := "py-pcstat: PY_PCSTAT_MAX_SIZE='ten': not an integer\n"
           ending := .returned statusUsage }, wrong) ∧
      probing.1.ending ≠ .returned statusUsage ∧ .open "f" .nonblocking ∈ probing.2.machine.calls := by
  intro s wrong limited unread probing
  refine ⟨?_, ?_, ?_, ?_⟩
  · have hargs : Options.ofArguments ["f", "--max-size", "-1"] =
        .ok { files := ["f"], maxSize := some (.integer (-1)) } := by
      decide +kernel
    have hending : limited.1.ending = .returned statusUsage := by decide +kernel
    have hlimited : (run ["f", "--max-size", "-1"]).run s = limited := rfl
    obtain ⟨husage, -⟩ := run_before_probes ["f", "--max-size", "-1"] s
    rw [hlimited] at husage
    obtain ⟨hstdout, hreads⟩ := husage hending
    refine ⟨hending, hstdout, ?_⟩
    generalize limited.2 = last at hreads ⊢
    cases hreads with
    | nothing => rfl
    | map ho hpid =>
      cases hargs.symm.trans ho
      cases hpid
  · let args := ["f", "--max-size", "-1", "--pid", "7"]
    let p := Process.numbered 7
    let e := SystemError.onPath ErrorCode.noSuchFile "/proc/7/maps"
    have hargs : Options.ofArguments args =
        .ok { files := ["f"], maxSize := some (.integer (-1)), pid := some (.integer 7) } := by
      decide +kernel
    have hunreadable : ((ProcessMap.filesOf ProcessMap.defaultRoot p).run.run s.machine).1 =
        .error (.unreadableMap p e) := by
      decide +kernel
    have hlocation : ProcessMap.location ProcessMap.defaultRoot p = "/proc/7/maps" := by
      decide +kernel
    obtain ⟨-, -, hsome⟩ := run_before_probes args s
    have hstops : StopsAtMap (.integer 7) p e s unread :=
      ((hsome _ hargs).2 {} rfl).1 (.integer 7) p e rfl hunreadable
    rw [hstops.transcript, hstops.session]
    exact ⟨rfl, rfl, congrArg (fun path => [Call.read path]) hlocation⟩
  · let args := ["f", "--pid", "7"]
    have hargs : Options.ofArguments args = .ok { files := ["f"], pid := some (.integer 7) } := by
      decide +kernel
    have hsettings : Settings.ofEnvironment wrong.machine.environment =
        .error (.notAnInteger "ten") := by
      decide +kernel
    obtain ⟨-, -, hsome⟩ := run_before_probes args wrong
    obtain ⟨htranscript, hsession⟩ := (hsome _ hargs).1 _ hsettings
    refine Prod.ext (htranscript.trans ?_) hsession
    decide +kernel
  · let args := ["f"]
    have hargs : Options.ofArguments args = .ok { files := ["f"] } := by decide +kernel
    have hprobing : (run args).run s = probing := rfl
    obtain ⟨-, -, hsome⟩ := run_before_probes args s
    rw [hprobing] at hsome
    have hstarts := ((hsome _ hargs).2 {} rfl).2 "f" [] s.machine .allowAll rfl rfl
    obtain ⟨more, hcalls⟩ := hstarts.opens (by decide)
    refine ⟨hstarts.ending, ?_⟩
    rw [hcalls]
    exact List.mem_cons_self

end CommandLine

end PageCache
