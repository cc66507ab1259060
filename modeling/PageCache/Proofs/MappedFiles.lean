import PageCache.CommandLine.Run
import PageCache.Proofs.Probe.Steps
import PageCache.Proofs.Text.Utf8

/-! What comes of the memory map of a process. One that cannot be read is reported; one that is read
and is no text, one below a root whose path cannot be handed over, and a process whose number cannot
be written, are faults that nobody reports. -/

namespace PageCache

open Sequencing

namespace ProcessMap

/-- The files of a map, by what reading it gives. -/
def filesIn (p : Process) (content : Except SystemError (List UInt8)) :
    Except Fault (List String) := do
  let bytes ← content.mapError (Fault.unreadableMap p)
  let text ← (Text.Utf8.decode bytes).mapError Fault.malformed
  return (livePaths text).map String.ofList

lemma run_filesOf (root : String) (p : Process) (m : Machine) :
    (filesOf root p).run.run m =
      if ¬p.Nameable then (.error .numeralTooLong, m)
      else if ¬m.Takes (location root p) then (.error .embeddedNull, m)
      else (filesIn p (m.textAt (location root p)), m.noting [.read (location root p)]) := by
  rw [filesOf]
  by_cases hname : p.Nameable
  · rw [if_neg (not_not_intro hname), if_neg (not_not_intro hname)]
    simp only [run_bind, run_adapt, run_liftExcept, run_pure]
    by_cases htakes : m.Takes (location root p)
    · rw [if_neg (not_not_intro htakes), Machine.run_readText htakes, filesIn]
      cases m.textAt (location root p) with
      | error e => rfl
      | ok bytes =>
        simp only [mapError_ok, ok_bind]
        cases Text.Utf8.decode bytes <;> rfl
    · rw [if_pos htakes, Machine.readText, Machine.run_onPath_refused htakes]
      rfl
  · rw [if_pos hname, if_pos hname]
    rfl

lemma null_not_mem_name (p : Process) : '\x00' ∉ p.name.toList := by
  cases p with
  | blank => decide
  | numbered id =>
    rw [Process.name, Numeral.text, String.toList_ofList]
    intro hnull
    obtain hminus | hdigit := Numeral.mem_chars hnull
    · cases hminus
    · cases hdigit

/-- Below the default root every process has a map that can be asked for. -/
lemma takes_location (m : Machine) (p : Process) : m.Takes (location defaultRoot p) := by
  have hlocation : location defaultRoot p = "/" ++ ("proc" ++ "/" ++ p.name ++ "/" ++ "maps") := by
    have hroot : Path.root defaultRoot.toList = ['/'] := by decide
    have hparts : Path.components defaultRoot.toList = ["proc".toList] := by decide
    rw [location, Path.join, hroot, hparts]
    rfl
  intro _
  rw [hlocation]
  simp [null_not_mem_name p]

variable {p : Process}

lemma filesIn_error (e : SystemError) : filesIn p (.error e) = .error (.unreadableMap p e) := rfl

lemma filesIn_text (text : String) : filesIn p (.ok text.toUTF8.toList) = .ok (paths text) := by
  have hdecode : Text.Utf8.decode text.toUTF8.toList = .ok text.toList := by
    rw [Text.Utf8.decode_eq_ok_iff, String.ofList_toList]
  rw [filesIn, mapError_ok, ok_bind, hdecode]
  rfl

lemma filesIn_of_not_text {bytes : List UInt8} (h : ¬∃ text : String, text.toUTF8.toList = bytes) :
    ∃ flaw, filesIn p (.ok bytes) = .error (.malformed flaw) := by
  rw [filesIn, mapError_ok, ok_bind]
  cases hdecode : Text.Utf8.decode bytes with
  | error flaw => exact ⟨flaw, rfl⟩
  | ok text => exact absurd ⟨_, Text.Utf8.decode_eq_ok_iff.1 hdecode⟩ h

lemma filesIn_reported_iff {content : Except SystemError (List UInt8)} :
    ((∃ paths, filesIn p content = .ok paths) ∨
        ∃ e, filesIn p content = .error (.unreadableMap p e)) ↔
      ∀ bytes, content = .ok bytes → ∃ text : String, text.toUTF8.toList = bytes := by
  cases content with
  | error e =>
    refine iff_of_true (.inr ⟨e, filesIn_error e⟩) ?_
    rintro _ ⟨⟩
  | ok bytes =>
    refine ⟨fun hreported => ?_, fun htext => ?_⟩
    · rintro _ ⟨⟩
      by_contra htext
      obtain ⟨flaw, hflaw⟩ := filesIn_of_not_text (p := p) htext
      rw [hflaw] at hreported
      obtain ⟨_, ⟨⟩⟩ | ⟨_, ⟨⟩⟩ := hreported
    · obtain ⟨text, rfl⟩ := htext bytes rfl
      exact .inl ⟨_, filesIn_text text⟩

end ProcessMap

namespace CommandLine

variable {o : Options} {pid : Value} {s : Session} {m : Machine} {settings : Settings} {fault : Fault}
  {path : String} {paths : List String}

/-- What a run reads of the machine to learn its files. -/
def mapReads (o : Options) : List Call :=
  match o.pid with
  | none => []
  | some pid =>
    if pid.process.Nameable then [.read (ProcessMap.location ProcessMap.defaultRoot pid.process)]
    else []

lemma run_pathsOf (o : Options) (m : Machine) :
    ((pathsOf o).run.run m).2 = m.noting (mapReads o) := by
  rw [pathsOf, mapReads]
  cases o.pid with
  | none => exact m.noting_nil.symm
  | some pid =>
    dsimp only
    have htakes := ProcessMap.takes_location m pid.process
    rw [run_bind, ProcessMap.run_filesOf]
    by_cases hname : pid.process.Nameable
    · rw [if_neg (not_not_intro hname), if_neg (not_not_intro htakes), if_pos hname]
      cases ProcessMap.filesIn pid.process _ <;> rfl
    · rw [if_pos hname, if_neg hname]
      exact m.noting_nil.symm

lemma run_pathsOf_of_error (hpid : o.pid = some pid)
    (h : ((ProcessMap.filesOf ProcessMap.defaultRoot pid.process).run.run m).1 = .error fault) :
    (pathsOf o).run.run m = (.error fault, m.noting (mapReads o)) := by
  refine Prod.ext ?_ (run_pathsOf o m)
  rw [pathsOf, hpid]
  dsimp only
  rw [run_bind]
  generalize (ProcessMap.filesOf ProcessMap.defaultRoot pid.process).run.run m = r at h
  obtain ⟨answer, t⟩ := r
  obtain rfl : answer = .error fault := h
  rfl

/-- What is left of a run once the settings are read. -/
def runSettled (o : Options) (settings : Settings) : StateM Session Transcript := do
  match ← Session.onMachine (pathsOf o).run with
  | .error (.unreadableMap process e) =>
    return { stderr := complaint (Fault.unreadableMap process e).message
             ending := .returned statusSkipped }
  | .error fault => return { ending := .escaped fault }
  | .ok [] =>
    return { stderr := usage ++ complaint "no files to probe", ending := .returned statusUsage }
  | .ok paths => probeFiles o settings paths

lemma run_runOptions_of_error {e : SettingsError}
    (h : Settings.ofEnvironment s.machine.environment = .error e) :
    (runOptions o).run s = ({ stderr := complaint e.message, ending := .returned statusUsage }, s) := by
  rw [runOptions, StateT.run_bind, StateT.run_get, pure_bind]
  simp only [h]
  rfl

lemma run_runOptions_of_settings
    (h : Settings.ofEnvironment s.machine.environment = .ok settings) :
    (runOptions o).run s = (runSettled o settings).run s := by
  rw [runOptions, StateT.run_bind, StateT.run_get, pure_bind]
  simp only [h]
  rfl

/-- How a run ends that does not learn its files. -/
def stopped : Fault → Transcript
  | .unreadableMap process e =>
    { stderr := complaint (Fault.unreadableMap process e).message
      ending := .returned statusSkipped }
  | fault => { ending := .escaped fault }

lemma stdout_stopped (fault : Fault) : (stopped fault).stdout = "" := by
  cases fault <;> rfl

lemma run_runSettled_error
    (h : (pathsOf o).run.run s.machine = (.error fault, m)) :
    (runSettled o settings).run s = (stopped fault, { s with machine := m }) := by
  rw [runSettled, StateT.run_bind, Session.run_onMachine, h]
  cases fault <;> rfl

lemma run_runSettled_nil (h : (pathsOf o).run.run s.machine = (.ok [], m)) :
    (runSettled o settings).run s =
      ({ stderr := usage ++ complaint "no files to probe", ending := .returned statusUsage },
        { s with machine := m }) := by
  rw [runSettled, StateT.run_bind, Session.run_onMachine, h]
  rfl

lemma run_runSettled_cons (h : (pathsOf o).run.run s.machine = (.ok (path :: paths), m)) :
    (runSettled o settings).run s =
      (probeFiles o settings (path :: paths)).run { s with machine := m } := by
  rw [runSettled, StateT.run_bind, Session.run_onMachine, h]
  rfl

/-- The faults that a run with a process reports, and those it does not. -/
lemma run_runOptions_of_fault (hpid : o.pid = some pid)
    (hsettings : Settings.ofEnvironment s.machine.environment = .ok settings)
    (h : ((ProcessMap.filesOf ProcessMap.defaultRoot pid.process).run.run s.machine).1 =
      .error fault) :
    (∀ process e, fault = .unreadableMap process e → ((runOptions o).run s).1 =
        { stderr := complaint fault.message, ending := .returned statusSkipped }) ∧
      ((∀ process e, fault ≠ .unreadableMap process e) →
        ((runOptions o).run s).1 = { ending := .escaped fault }) := by
  rw [run_runOptions_of_settings hsettings, run_runSettled_error (run_pathsOf_of_error hpid h)]
  refine ⟨?_, fun hother => ?_⟩
  · rintro process e rfl
    rfl
  · cases fault with
    | unreadableMap process e => exact absurd rfl (hother process e)
    | _ => rfl

/-- Asked for the files of a process, the answer is a list or an unreadable map just if the number
of the process can be written, the path of its map can be handed over, and what is read, if
anything, is a text. Only an unreadable map is reported by a run; any other fault escapes from it. -/
theorem filesOf_reported_iff (root : String) (p : Process) (m : Machine) :
    let answer := ((ProcessMap.filesOf root p).run.run m).1
    let content := m.textAt (ProcessMap.location root p)
    (((∃ paths, answer = .ok paths) ∨ ∃ e, answer = .error (.unreadableMap p e)) ↔
        p.Nameable ∧ m.Takes (ProcessMap.location root p) ∧
          ∀ bytes, content = .ok bytes → ∃ text : String, text.toUTF8.toList = bytes) ∧
      (p.Nameable → m.Takes (ProcessMap.location root p) →
        (∀ e, content = .error e → answer = .error (.unreadableMap p e)) ∧
        ∀ text : String, content = .ok text.toUTF8.toList → answer = .ok (ProcessMap.paths text)) ∧
      (p.Nameable → ¬m.Takes (ProcessMap.location root p) → answer = .error .embeddedNull) ∧
      ∀ args o pid settings fault (s : Session), Options.ofArguments args = .ok o →
        o.pid = some pid → Settings.ofEnvironment s.machine.environment = .ok settings →
        ((ProcessMap.filesOf ProcessMap.defaultRoot pid.process).run.run s.machine).1 =
          .error fault →
        (∀ process e, fault = .unreadableMap process e → ((run args).run s).1 =
            { stderr := complaint fault.message, ending := .returned statusSkipped }) ∧
          ((∀ process e, fault ≠ .unreadableMap process e) →
            ((run args).run s).1 = { ending := .escaped fault }) := by
  intro answer content
  have hread : p.Nameable → m.Takes (ProcessMap.location root p) →
      answer = ProcessMap.filesIn p content := by
    intro hname htakes
    unfold answer
    rw [ProcessMap.run_filesOf, if_neg (not_not_intro hname), if_neg (not_not_intro htakes)]
  have hrefused : p.Nameable → ¬m.Takes (ProcessMap.location root p) →
      answer = .error .embeddedNull := by
    intro hname htakes
    unfold answer
    rw [ProcessMap.run_filesOf, if_neg (not_not_intro hname), if_pos htakes]
  have hunnamed : ¬p.Nameable → answer = .error .numeralTooLong := by
    intro hname
    unfold answer
    rw [ProcessMap.run_filesOf, if_pos hname]
  refine ⟨?_, fun hname htakes => ⟨fun e hcontent => ?_, fun text hcontent => ?_⟩, hrefused, ?_⟩
  · by_cases hname : p.Nameable
    · by_cases htakes : m.Takes (ProcessMap.location root p)
      · rw [hread hname htakes, ProcessMap.filesIn_reported_iff, and_iff_right hname,
          and_iff_right htakes]
      · rw [hrefused hname htakes]
        refine iff_of_false ?_ fun hall => htakes hall.2.1
        rintro (⟨_, ⟨⟩⟩ | ⟨_, ⟨⟩⟩)
    · rw [hunnamed hname]
      refine iff_of_false ?_ fun hall => hname hall.1
      rintro (⟨_, ⟨⟩⟩ | ⟨_, ⟨⟩⟩)
  · rw [hread hname htakes, hcontent, ProcessMap.filesIn_error]
  · rw [hread hname htakes, hcontent, ProcessMap.filesIn_text]
  · intro args o pid settings fault s hargs hpid hsettings hfault
    have hrun : run args = runOptions o := by
      rw [run, hargs]
    rw [hrun]
    exact run_runOptions_of_fault hpid hsettings hfault

theorem filesOf_reported_iff_one_mapping :
    let s := Session.onFile (.holding ⟨0o100644, 5000, ⟨0, 0⟩⟩)
    let text := "7f2c4e5d1000-7f2c4e5f3000 r--p 00000000 08:01 1311    /lib/x\n"
    let mapped := { s.machine with texts := [("/proc/7/maps", .ok text.toUTF8.toList)] }
    ((ProcessMap.filesOf "/proc" (.numbered 7)).run.run mapped).1 = .ok ["/lib/x"] ∧
      ((run ["--pid", "7"]).run s).1 =
        { stderr := "py-pcstat: could not read memory map of pid 7: " ++
            "[Errno 2] No such file or directory: '/proc/7/maps'\n"
          ending := .returned 1 } := by
  intro s text mapped
  let p := Process.numbered 7
  have hname : p.Nameable := by decide +kernel
  have hlocation : ProcessMap.location "/proc" p = "/proc/7/maps" := by decide +kernel
  constructor
  · have hcontent : mapped.textAt (ProcessMap.location "/proc" p) = .ok text.toUTF8.toList := by
      rw [hlocation]
      rfl
    have hpaths : ProcessMap.paths text = ["/lib/x"] := by decide +kernel
    rw [← hpaths]
    obtain ⟨-, hread, -⟩ := filesOf_reported_iff "/proc" p mapped
    exact (hread hname (ProcessMap.takes_location mapped p)).2 text hcontent
  · let e := SystemError.onPath ErrorCode.noSuchFile "/proc/7/maps"
    have hcontent : s.machine.textAt (ProcessMap.location "/proc" p) = .error e := by
      rw [hlocation]
      rfl
    have hargs : Options.ofArguments ["--pid", "7"] = .ok { pid := some (.integer 7) } := by
      decide +kernel
    obtain ⟨-, hread, -, hrun⟩ := filesOf_reported_iff "/proc" p s.machine
    have hfiles := (hread hname (ProcessMap.takes_location s.machine p)).1 e hcontent
    have hreported := (hrun _ _ _ {} _ s hargs rfl rfl hfiles).1 p e rfl
    rw [hreported]
    decide +kernel

/-- The names of files are bytes, and a map that holds one which is no UTF-8 ends the run. -/
theorem filesOf_reported_iff_latin_name :
    let s := Session.onFile (.holding ⟨0o100644, 5000, ⟨0, 0⟩⟩)
    let latin := { s with machine.texts := [("/proc/7/maps", .ok [0x2f, 0xff])] }
    let flaw : Text.Utf8.Malformed := ⟨.start, 1, 0xff, 1⟩
    ((ProcessMap.filesOf "/proc" (.numbered 7)).run.run latin.machine).1 =
        .error (.malformed flaw) ∧
      ((run ["--pid", "7"]).run latin).1 = { ending := .escaped (.malformed flaw) } := by
  decide +kernel

end CommandLine

end PageCache
