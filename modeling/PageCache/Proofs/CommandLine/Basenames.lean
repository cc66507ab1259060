import PageCache.Proofs.CommandLine.Ceiling
import PageCache.Proofs.CommandLine.Outset
import PageCache.Proofs.Listing.Basenames

/-! Runs that are asked for the last components of names. This is asked for beside all other
options, and only the report looks at it; and there it is done to the records before they are
written, in whichever format. -/

namespace PageCache

open Sequencing

lemma Session.name_of_probe {filter : Filter} {path : String} {s : Session} {record : Record}
    (h : ((probe filter path).run.run s).1 = .ok record) : record.name = path := by
  obtain ⟨hfailing, hrecord, -⟩ := record_of_run (Prod.ext h rfl)
  exact (Answers.sized_of_record (Answers.failing?_eq_none_iff.1 hfailing) hrecord).1

namespace CommandLine

open Session

namespace Options

def shortened (o : Options) : Options := { o with bname := true }

lemma beside_shortened : Beside shortened where
  enable o s := by
    cases s with
    | json =>
      rw [enable, enable, shortened]
      split <;> rfl
    | terse =>
      rw [enable, enable, shortened]
      split <;> rfl
    | _ => rfl
  pid _ _ := rfl
  maxSize _ _ := rfl
  operand _ _ := rfl

lemma ofArguments_bname {args : List String} {o : Options} (h : ofArguments args = .ok o) :
    ofArguments ("--bname" :: args) = .ok o.shortened :=
  ofArguments_flag .bname beside_shortened rfl rfl (by decide) h

end Options

variable {o : Options}

/-- The records are named by the paths that were not skipped. -/
lemma names_probeAll (filter : Filter) (paths : List String) (s : Session) :
    (((probeAll filter paths).run s).1.records.map Record.name).Sublist paths := by
  induction paths generalizing s with
  | nil => exact List.nil_sublist []
  | cons path paths ih =>
    obtain ⟨fault, hfault⟩ | ⟨outcome, houtcome⟩ :=
      fault_or_mapError ((probe filter path).run.run s).1
    · rw [run_probeAll_fault hfault]
      exact List.nil_sublist _
    · rw [run_probeAll_cons (Prod.ext houtcome rfl)]
      cases outcome with
      | ok record =>
        rw [← name_of_probe houtcome]
        exact (ih _).cons_cons record.name
      | error failure => exact (ih _).cons path

lemma listing_json_cases (o : Options) (records : List Record) :
    (∀ bname, listing { o with bname } .json records = .error .numeralTooLong) ∨
      ∀ bname, listing { o with bname } .json records =
        .ok (String.ofList (Listing.Object.text
          (if bname then records.map Record.withBasename else records)) ++ "\n") := by
  have hlisting : ∀ bname, listing { o with bname } .json records = (Listing.render .json
      (if bname then records.map Record.withBasename else records) !o.nohdr).map (· ++ "\n") :=
    fun bname => listing_eq_map_render { o with bname } fun h => h.2 rfl
  by_cases h : ∀ record ∈ records, ∀ n ∈ Listing.integers .json record, Numeral.Writable n
  · refine .inr fun bname => (hlisting bname).trans (congrArg _ (if_pos ?_))
    exact integers_of_shown (exists_shown bname records) h
  · refine .inl fun bname => (hlisting bname).trans (congrArg _ (if_neg ?_))
    cases bname with
    | false => exact h
    | true => exact fun hcut => h (List.forall_mem_map.1 hcut)

lemma report_json_cases (o : Options) (log : Option Log) (f : Findings) :
    (∃ transcript, transcript.stdout = "" ∧
        ∀ bname, report { o with bname } .json log f = transcript) ∨
      ∃ stderr ending, ∀ bname, report { o with bname } .json log f =
        { stdout := String.ofList (Listing.Object.text
            (if bname then f.records.map Record.withBasename else f.records)) ++ "\n"
          stderr, ending } := by
  let stderr := String.join (f.skipLines ++ logLines o.verbosity log)
  cases hfault : f.fault with
  | some fault =>
    refine .inl ⟨{ stderr := String.join f.skipLines, ending := .escaped fault }, rfl, ?_⟩
    intro bname
    rw [report, hfault]
  | none =>
    obtain hlisting | hlisting := listing_json_cases o f.records
    · refine .inl ⟨{ stderr, ending := .escaped .numeralTooLong }, rfl, fun bname => ?_⟩
      rw [report, hfault]
      simp only [hlisting, stderr, String.join_append]
    · exact .inr ⟨stderr, .returned (if f.skipLines = [] then statusOk else statusSkipped),
        fun bname => report_of_listing _ log hfault (hlisting bname)⟩

/-- Whether names are cut is seen in the report, and before it nowhere. -/
lemma runOptions_cases_bname (o : Options) (s : Session) :
    (∃ transcript last, transcript.stdout = "" ∧
        ∀ bname, (runOptions { o with bname }).run s = (transcript, last)) ∨
      ∃ settings filter paths m findings last, (pathsOf o).run.run s.machine = (.ok paths, m) ∧
        (probeAll filter paths).run { s with machine := m } = (findings, last) ∧
        ∀ bname, (runOptions { o with bname }).run s =
          (report { o with bname } (formatOf o settings) last.prober.log findings, last) := by
  cases hsettings : Settings.ofEnvironment s.machine.environment with
  | error e => exact .inl ⟨_, s, rfl, fun bname => run_runOptions_of_error hsettings⟩
  | ok settings =>
    have hrun : ∀ bname, (runOptions { o with bname }).run s =
        (runSettled { o with bname } settings).run s :=
      fun bname => run_runOptions_of_settings hsettings
    rcases hpaths : (pathsOf o).run.run s.machine with ⟨fault | paths, m⟩
    · exact .inl ⟨stopped fault, _, stdout_stopped fault,
        fun bname => (hrun bname).trans (run_runSettled_error hpaths)⟩
    cases paths with
    | nil => exact .inl ⟨_, _, rfl, fun bname => (hrun bname).trans (run_runSettled_nil hpaths)⟩
    | cons path paths =>
      have hfiles : ∀ bname, (runOptions { o with bname }).run s = _ :=
        fun bname => (hrun bname).trans (run_runSettled_cons hpaths)
      have hfilters : ∀ bname, filterOf { o with bname } settings = filterOf o settings :=
        fun _ => rfl
      simp only [probeFiles, hfilters] at hfiles
      cases hfilter : filterOf o settings with
      | ok filter =>
        simp only [hfilter] at hfiles
        exact .inr ⟨settings, filter, path :: paths, m, _, _, rfl, rfl, hfiles⟩
      | error fault =>
        simp only [hfilter] at hfiles
        cases fault with
        | blankLimit => exact .inl ⟨_, _, rfl, hfiles⟩
        | _ => exact .inl ⟨_, _, rfl, hfiles⟩

lemma runOptions_json_cases (hjson : o.json = true) (s : Session) :
    ∃ (stdout : Bool → String) (stderr : String) (ending : Ending) (last : Session),
      (∀ bname, (runOptions { o with bname }).run s =
        ({ stdout := stdout bname, stderr, ending }, last)) ∧
      ((∀ bname, stdout bname = "") ∨
        ∃ paths m records, (pathsOf o).run.run s.machine = (.ok paths, m) ∧
          (records.map Record.name).Sublist paths ∧
          ∀ bname, stdout bname = String.ofList (Listing.Object.text
            (if bname then records.map Record.withBasename else records)) ++ "\n") := by
  obtain ⟨transcript, last, hstdout, hrun⟩ |
    ⟨settings, filter, paths, m, findings, last, hpaths, hprobed, hrun⟩ :=
    runOptions_cases_bname o s
  · exact ⟨fun _ => transcript.stdout, transcript.stderr, transcript.ending, last, hrun,
      .inl fun _ => hstdout⟩
  · have hformat : formatOf o settings = .json := if_pos hjson
    rw [hformat] at hrun
    obtain ⟨transcript, hstdout, hreport⟩ | ⟨stderr, ending, hreport⟩ :=
      report_json_cases o last.prober.log findings
    · exact ⟨fun _ => transcript.stdout, transcript.stderr, transcript.ending, last,
        fun bname => by rw [hrun, hreport], .inl fun _ => hstdout⟩
    · have hnames := names_probeAll filter paths { s with machine := m }
      rw [hprobed] at hnames
      exact ⟨_, stderr, ending, last, fun bname => by rw [hrun, hreport],
        .inr ⟨paths, m, findings.records, hpaths, hnames, fun _ => rfl⟩⟩

lemma ofList_append_newline_inj {t u : List Char} :
    String.ofList t ++ "\n" = String.ofList u ++ "\n" ↔ t = u := by
  rw [String.append_left_inj, String.ofList_inj]

/-- Asked for basenames, a run that lists as JSON probes the same files, says the same about those
that were skipped and ends in the same way; but in place of the path of a record it prints the last
component. So it prints the same just if no path of a record has a slash in it. -/
theorem run_json_bname {args : List String} {o : Options} (hargs : Options.ofArguments args = .ok o)
    (hjson : o.json = true) (hbname : o.bname = false) (s : Session) :
    let full := (run args).run s
    Options.ofArguments ("--bname" :: args) = .ok { o with bname := true } ∧
      ∀ shorter, Options.ofArguments shorter = .ok { o with bname := true } →
        let cut := (run shorter).run s
        cut.2 = full.2 ∧ cut.1.stderr = full.1.stderr ∧ cut.1.ending = full.1.ending ∧
          (full.1.stdout = "" ∧ cut.1.stdout = "" ∨
            ∃ paths m records, (pathsOf o).run.run s.machine = (.ok paths, m) ∧
              (records.map Record.name).Sublist paths ∧
              full.1.stdout = String.ofList (Listing.Object.text records) ++ "\n" ∧
              cut.1.stdout = String.ofList (Listing.Object.text
                (records.map fun r => { r with name := Path.basename r.name })) ++ "\n" ∧
              (cut.1.stdout = full.1.stdout ↔ ∀ r ∈ records, '/' ∉ r.name.toList)) := by
  intro full
  refine ⟨Options.ofArguments_bname hargs, fun shorter hshorter => ?_⟩
  intro cut
  have hfull : full = (runOptions { o with bname := false }).run s := by
    rw [← hbname]
    simp only [full, run, hargs]
  have hcut : cut = (runOptions { o with bname := true }).run s := by
    simp only [cut, run, hshorter]
  obtain ⟨stdout, stderr, ending, last, hrun, hstdout⟩ := runOptions_json_cases hjson s
  rw [hfull, hcut, hrun, hrun]
  refine ⟨rfl, rfl, rfl, ?_⟩
  obtain hempty | ⟨paths, m, records, hpaths, hnames, htext⟩ := hstdout
  · exact .inl ⟨hempty false, hempty true⟩
  · refine .inr ⟨paths, m, records, hpaths, hnames, htext false, htext true, ?_⟩
    rw [htext, htext, ofList_append_newline_inj]
    exact Listing.Object.text_map_withBasename_eq_iff

theorem run_json_bname_directory :
    let node := Node.holding ⟨0o100644, 5000, ⟨0, 0⟩⟩
    let s := { Session.onFile node with machine.files := [("/d/f", node)] }
    let o : Options := { files := ["/d/f"], json := true }
    let full := (run ["--json", "/d/f"]).run s
    let cut := (run ["/d/f", "--bname", "--json"]).run s
    (Options.ofArguments ["--json", "/d/f"] = .ok o ∧ o.json = true ∧ o.bname = false) ∧
      Options.ofArguments ["--bname", "--json", "/d/f"] = .ok { o with bname := true } ∧
      cut.2 = full.2 ∧ cut.1.stderr = full.1.stderr ∧ cut.1.ending = full.1.ending := by
  intro node s o full cut
  have hargs : Options.ofArguments ["--json", "/d/f"] = .ok o := by decide +kernel
  have hshorter : Options.ofArguments ["/d/f", "--bname", "--json"] = .ok { o with bname := true } := by
    decide +kernel
  have hfull : (run ["--json", "/d/f"]).run s = full := rfl
  have hcut : (run ["/d/f", "--bname", "--json"]).run s = cut := rfl
  obtain ⟨hfront, hrun⟩ := run_json_bname hargs rfl rfl s
  have hboth := hrun _ hshorter
  rw [hfull, hcut] at hboth
  obtain ⟨hlast, hstderr, hending, -⟩ := hboth
  exact ⟨⟨hargs, rfl, rfl⟩, hfront, hlast, hstderr, hending⟩

/-- The path that was probed is not in the listing any more. -/
theorem run_json_bname_file :
    let node := Node.holding ⟨0o100644, 5000, ⟨0, 0⟩⟩
    let s := { Session.onFile node with machine.files := [("/d/f", node)] }
    let behind := ", \"size\": 5000, \"timestamp\": \"1970-01-01T00:00:00+00:00\", " ++
      "\"mtime\": \"1970-01-01T00:00:00+00:00\", " ++
      "\"pages\": 2, \"cached\": 2, \"uncached\": 0, \"percent\": 100.0\x7d]\n"
    ((run ["--json", "/d/f"]).run s).1 =
        { stdout := "[\x7b\"filename\": \"/d/f\"" ++ behind, ending := .returned 0 } ∧
      ((run ["--json", "--bname", "/d/f"]).run s).1 =
        { stdout := "[\x7b\"filename\": \"f\"" ++ behind, ending := .returned 0 } := by
  decide +kernel

end CommandLine

end PageCache
