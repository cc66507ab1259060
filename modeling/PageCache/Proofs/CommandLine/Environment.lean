import PageCache.Proofs.MappedFiles
import PageCache.Proofs.Probe.Course

/-! Runs in another environment. Of a session a probe does not see the environment at all, and of a
run only the settings do. Where the options say the format and the limit, these are looked at just
to see whether they can be read. -/

namespace PageCache

open Sequencing

def Machine.within (m : Machine) (environment : List (String × String)) : Machine :=
  { m with environment }

namespace Session

def within (s : Session) (environment : List (String × String)) : Session :=
  { s with machine := s.machine.within environment }

/-- What it comes to does not depend on the environment, which it leaves as it is. -/
def Blind {α : Type} (x : StateM Session α) : Prop :=
  ∀ s environment, x.run (s.within environment) = ((x.run s).1, (x.run s).2.within environment)

section

variable {α β : Type}

lemma blind_pure (a : α) : Blind (pure a) := fun _ _ => rfl

lemma Blind.bind {x : StateM Session α} {f : α → StateM Session β} (hx : Blind x)
    (hf : ∀ a, Blind (f a)) : Blind (x >>= f) := by
  intro s environment
  rw [StateT.run_bind, hx]
  exact hf _ _ environment

lemma blind_prober (f : Prober → α) : Blind (get >>= fun s => pure (f s.prober)) := fun _ _ => rfl

lemma blind_onMachine {x : StateM Machine α}
    (hx : ∀ m environment, x.run (m.within environment) =
      ((x.run m).1, (x.run m).2.within environment)) :
    Blind (onMachine x) := by
  intro s environment
  have hrun : x.run (s.within environment).machine = _ := hx s.machine environment
  rw [run_onMachine, run_onMachine, hrun]
  rfl

end

section

variable (s : Session) (environment : List (String × String)) (a : Answers)

lemma answers_within (filter : Filter) (path : String) :
    (s.within environment).answers filter path = s.answers filter path := rfl

lemma drawing_within (k : Step) :
    (s.within environment).drawing a k = (s.drawing a k).within environment := by
  cases k with
  | size =>
    rw [drawing, drawing]
    split <;> rfl
  | _ => rfl

lemma drawn_within (ks : List Step) :
    ks.foldl (·.drawing a ·) (s.within environment) =
      (ks.foldl (·.drawing a ·) s).within environment := by
  induction ks generalizing s with
  | nil => rfl
  | cons k ks ih => rw [List.foldl_cons, List.foldl_cons, drawing_within, ih]

lemma after_within : (s.within environment).after a = (s.after a).within environment := by
  rw [after, after, drawn_within]
  split <;> rfl

end

theorem blind_probe (filter : Filter) (path : String) : Blind (probe filter path).run := by
  intro s environment
  rw [run_probe, run_probe, answers_within, after_within]

end Session

namespace CommandLine

open Session

lemma blind_probeAll (filter : Filter) (paths : List String) : Blind (probeAll filter paths) := by
  induction paths with
  | nil => exact blind_pure _
  | cons path rest ih =>
    refine (blind_probe filter path).bind fun outcome => ?_
    match outcome with
    | .ok record => exact ih.bind fun _ => blind_pure _
    | .error (.failure failure) => exact ih.bind fun _ => blind_pure _
    | .error (.fault fault) => exact blind_pure _

lemma blind_probeFiles (o : Options) (settings : Settings) (paths : List String) :
    Blind (probeFiles o settings paths) := by
  rw [probeFiles]
  split
  · exact blind_pure _
  · exact blind_pure _
  · exact (blind_probeAll _ paths).bind fun findings =>
      blind_prober fun prober => report o (formatOf o settings) prober.log findings

lemma run_filesOf_within (root : String) (p : Process) (m : Machine)
    (environment : List (String × String)) :
    (ProcessMap.filesOf root p).run.run (m.within environment) =
      (((ProcessMap.filesOf root p).run.run m).1,
        ((ProcessMap.filesOf root p).run.run m).2.within environment) := by
  have htakes : (m.within environment).Takes (ProcessMap.location root p) ↔
      m.Takes (ProcessMap.location root p) := Iff.rfl
  simp only [ProcessMap.run_filesOf, htakes]
  repeat' split
  all_goals rfl

lemma run_pathsOf_within (o : Options) (m : Machine) (environment : List (String × String)) :
    (pathsOf o).run.run (m.within environment) =
      (((pathsOf o).run.run m).1, ((pathsOf o).run.run m).2.within environment) := by
  rw [pathsOf]
  split
  · rfl
  · rw [run_bind, run_bind, run_filesOf_within]
    generalize (ProcessMap.filesOf _ _).run.run m = r
    obtain ⟨files | fault, t⟩ := r <;> rfl

lemma blind_runSettled (o : Options) (settings : Settings) : Blind (runSettled o settings) := by
  refine (blind_onMachine (run_pathsOf_within o)).bind fun paths => ?_
  split
  · exact blind_pure _
  · exact blind_pure _
  · exact blind_pure _
  · exact blind_probeFiles o settings _

/-- The arguments say a format and a limit, if they can be read at all. -/
def Overriding (args : List String) : Prop :=
  ∀ o, Options.ofArguments args = .ok o → (o.json || o.terse) ∧ o.maxSize.isSome

variable {o : Options} {s : Session} {settings other : Settings} {e : SettingsError}
  {environment : List (String × String)}

lemma probeFiles_of_overriding (hformat : o.json || o.terse) (hlimit : o.maxSize.isSome) :
    probeFiles o settings = probeFiles o other := by
  have hformats : formatOf o settings = formatOf o other := by
    rw [formatOf, formatOf]
    cases hjson : o.json
    · rw [hjson, Bool.false_or] at hformat
      rw [if_neg Bool.false_ne_true, if_neg Bool.false_ne_true, if_pos hformat, if_pos hformat]
    · rfl
  have hlimits : limitOf o settings = limitOf o other := by
    obtain ⟨limit, h⟩ := Option.isSome_iff_exists.1 hlimit
    rw [limitOf, limitOf, h]
    rfl
  funext paths
  rw [probeFiles, probeFiles, hformats, filterOf, filterOf, hlimits]

/-- Under a format and a limit of its own a run is the same in every environment whose settings can
be read. Settings that cannot be read end it before the first call. -/
theorem run_overriding {args : List String} (h : Overriding args) (s : Session) :
    ∃ (transcript : Transcript) (last : Session), ∀ environment,
      ((∀ o e, Options.ofArguments args = .ok o → Settings.ofEnvironment environment ≠ .error e) →
        (run args).run (s.within environment) = (transcript, last.within environment)) ∧
      ∀ o e, Options.ofArguments args = .ok o → Settings.ofEnvironment environment = .error e →
        (run args).run (s.within environment) =
          ({ stderr := complaint e.message, ending := .returned statusUsage },
            s.within environment) := by
  cases hargs : Options.ofArguments args with
  | error stop =>
    refine ⟨stop.transcript, s, fun environment => ⟨fun _ => ?_, ?_⟩⟩
    · rw [run, hargs]
      rfl
    · rintro o e ⟨⟩
  | ok o =>
    obtain ⟨hformat, hlimit⟩ := h o hargs
    have hrun : run args = runOptions o := by rw [run, hargs]
    let settled := (runSettled o {}).run s
    refine ⟨settled.1, settled.2, fun environment => ⟨fun hreadable => ?_, ?_⟩⟩
    · cases hsettings : Settings.ofEnvironment environment with
      | error e => exact absurd hsettings (hreadable o e rfl)
      | ok settings =>
        have hsettled : runSettled o settings = runSettled o {} := by
          rw [runSettled, runSettled, probeFiles_of_overriding hformat hlimit]
        rw [hrun, run_runOptions_of_settings (s := s.within environment) hsettings, hsettled]
        exact blind_runSettled o {} s environment
    · rintro _ e ⟨⟩ hsettings
      rw [hrun, run_runOptions_of_error (s := s.within environment) hsettings]

theorem run_overriding_terse :
    let s := Session.onFile (.holding ⟨0o100644, 5000, ⟨0, 0⟩⟩)
    let args := ["--json", "--max-size", "10000", "f"]
    let terse := [("PY_PCSTAT_FORMAT", " Terse"), ("PY_PCSTAT_MAX_SIZE", "10")]
    let wrong := [("PY_PCSTAT_MAX_SIZE", "ten")]
    let runWithin := fun environment => (run args).run (s.within environment)
    Overriding args ∧ (runWithin terse).1 = (runWithin []).1 ∧
      (runWithin terse).2.machine.calls = (runWithin []).2.machine.calls ∧
      (runWithin wrong).1 = { stderr := "py-pcstat: PY_PCSTAT_MAX_SIZE='ten': not an integer\n"
                              ending := .returned 2 } ∧
      (runWithin wrong).2.machine.calls = [] := by
  intro s args terse wrong runWithin
  let o : Options := { files := ["f"], json := true, maxSize := some (.integer 10000) }
  have hargs : Options.ofArguments args = .ok o := by decide +kernel
  have hoverriding : Overriding args := by
    intro o' ho'
    obtain rfl := Except.ok.inj (hargs.symm.trans ho')
    exact ⟨rfl, rfl⟩
  obtain ⟨transcript, last, h⟩ := run_overriding hoverriding s
  have hread : ∀ environment settings, Settings.ofEnvironment environment = .ok settings →
      runWithin environment = (transcript, last.within environment) := by
    intro environment settings hsettings
    refine (h environment).1 fun _ e _ he => ?_
    cases hsettings.symm.trans he
  have hnone : runWithin [] = _ := hread [] {} rfl
  have hterse : runWithin terse = _ := hread terse ⟨.terse, some 10⟩ (by decide +kernel)
  have hwrong : runWithin wrong = _ :=
    (h wrong).2 o (.notAnInteger "ten") hargs (by decide +kernel)
  refine ⟨hoverriding, ?_, ?_, ?_, ?_⟩
  · rw [hterse, hnone]
  · rw [hterse, hnone]
    rfl
  · rw [hwrong]
    decide +kernel
  · rw [hwrong]
    rfl

/-- A format that nobody asks for still ends the run if there is no such format. -/
theorem run_overriding_unknown_format :
    let s := Session.onFile (.holding ⟨0o100644, 5000, ⟨0, 0⟩⟩)
    let args := ["--terse", "--nohdr", "--max-size", "10000", "f"]
    (Options.ofArguments args).map (fun o => (o.terse, o.maxSize)) =
        .ok (true, some (.integer 10000)) ∧
      ((run args).run (s.within [])).1 =
        { stdout := "f,5000,0,0,2,2,100.000\n", ending := .returned 0 } ∧
      ((run args).run (s.within [("PY_PCSTAT_FORMAT", "yaml")])).1 =
        { stderr := "py-pcstat: PY_PCSTAT_FORMAT='yaml': expected one of table, terse, json\n"
          ending := .returned 2 } := by
  decide +kernel

end CommandLine

end PageCache
