import PageCache.Proofs.Json.Reading
import PageCache.Proofs.Service.Status

/-! A request about several files comes to what requests about each of them, one after the other,
come to. -/

namespace PageCache.Service

open Sequencing

variable {s t : Session} {r : Request} {j : Json} {paths : List String}
  {outcomes : List (Except Failure Record)}

lemma pathTexts?_texts (h : ∀ path ∈ paths, path ≠ "") :
    pathTexts? (paths.map .text) = some paths := by
  induction paths with
  | nil => rfl
  | cons path paths ih =>
    obtain ⟨hpath, hpaths⟩ := List.forall_mem_cons.1 h
    rw [List.map_cons, pathTexts?, if_neg hpath, ih hpaths]
    rfl

lemma eq_texts_of_pathTexts? {items : List Json} (h : pathTexts? items = some paths) :
    items = paths.map .text ∧ ∀ path ∈ paths, path ≠ "" := by
  fun_induction pathTexts? items generalizing paths with
  | case1 =>
    obtain rfl := Option.some.inj h
    exact ⟨rfl, fun _ hpath => absurd hpath List.not_mem_nil⟩
  | case2 => cases h
  | case3 path rest hne ih =>
    obtain ⟨others, hothers, rfl⟩ := Option.map_eq_some_iff.1 h
    obtain ⟨hrest, hnonempty⟩ := ih hothers
    exact ⟨congrArg (Json.text path :: ·) hrest, List.forall_mem_cons.2 ⟨hne, hnonempty⟩⟩
  | case4 => cases h

lemma field?_of_pathItems? {items : List Json} (h : pathItems? j = some items) :
    j.field? "paths" = some (.array items) := by
  rw [pathItems?] at h
  split at h
  · rename_i hfield
    rw [hfield, Option.some.inj h]
  · cases h

def failure? : Except Failure Record → Option Failure
  | .ok _ => none
  | .error failure => some failure

lemma run_probeEach_cons {path : String} {outcome : Except Failure Record}
    (h : (probe path).run s = (outcome.mapError .failure, t)) (paths : List String) :
    (probeEach (path :: paths)).run s =
      (((probeEach paths).run t).1.map fun (records, failures) =>
          (outcome.toOption.toList ++ records, (failure? outcome).toList ++ failures),
        ((probeEach paths).run t).2) := by
  rw [probeEach, StateT.run_bind, h]
  cases outcome <;> rfl

lemma run_probeEach (h : (paths.mapM probe).run s = (outcomes.map (·.mapError .failure), t)) :
    (probeEach paths).run s =
      (some (outcomes.filterMap Except.toOption, outcomes.filterMap failure?), t) := by
  induction paths generalizing s outcomes with
  | nil =>
    obtain ⟨rfl, rfl⟩ := eq_nil_of_run_mapM_nil h
    rfl
  | cons path paths ih =>
    obtain ⟨outcome, rest, u, rfl, hpath, hrest⟩ := exists_of_run_mapM_cons h
    rw [run_probeEach_cons hpath, ih hrest]
    cases outcome <;> rfl

lemma writable_failures (h : (paths.mapM probe).run s = (outcomes.map (·.mapError .failure), t)) :
    ∀ failure ∈ outcomes.filterMap failure?, (Body.failure failure).Writable := by
  have houtcomes : ∀ outcome ∈ outcomes, ∀ failure, failure? outcome = some failure →
      (Body.failure failure).Writable := by
    refine forall_of_run_mapM (I := fun _ => True)
      (fun path outcome s t _ hrun => ⟨fun failure hfailure => ?_, trivial⟩) trivial h
    cases outcome with
    | ok _ => cases hfailure
    | error _ =>
      obtain rfl := Option.some.inj hfailure
      exact writable_failure hrun
  intro failure hfailure
  obtain ⟨outcome, houtcome, hfailed⟩ := List.mem_filterMap.1 hfailure
  exact houtcomes outcome houtcome failure hfailed

lemma writable_batch (hr : s.prober.residency.Writable)
    (h : (paths.mapM probe).run s = (outcomes.map (·.mapError .failure), t)) :
    (Body.batch (outcomes.filterMap Except.toOption) (outcomes.filterMap failure?)).Writable := by
  intro record hrecord
  rcases List.mem_append.1 hrecord with hrecord | hrecord
  · exact Session.integers_of_run_mapM (fun _ => hr) h record hrecord
  · obtain ⟨failure, hfailure, hstatus⟩ := List.mem_filterMap.1 hrecord
    have hmem : record ∈ (Body.failure failure).records := by
      change record ∈ failure.status.toList
      rw [hstatus]
      exact List.mem_singleton_self record
    exact writable_failures h failure hfailure record hmem

lemma method_of_statusMany (h : r.destination = .view .statusMany) : r.method = .post := by
  rw [Request.destination] at h
  split at h
  · rw [socketDestination] at h
    split at h
    · split at h <;> cases h
    · cases h
  · rw [destination] at h
    split at h
    · rename_i route hroute
      split at h
      · cases h
      · rename_i hoptions
        have hmem : route ∈ routes := (List.mem_filter.1 (List.mem_of_find?_eq_some hroute)).1
        have hmethod := List.find?_some hroute
        simp only [routes, List.mem_cons, List.not_mem_nil, or_false] at hmem
        rcases hmem with rfl | rfl | rfl | rfl
        · cases h
        · cases h
        · have hpost : r.method = .options ∨ r.method = .post := by simpa using hmethod
          exact hpost.resolve_left hoptions
        · cases h
    · split at h
      · cases h
      · split at h <;> cases h

lemma withoutBody_of_statusMany (h : r.destination = .view .statusMany) : r.withoutBody = false := by
  have hmethod := method_of_statusMany h
  rw [Request.withoutBody, beq_eq_false_iff_ne]
  intro hverb
  rw [Request.method, hverb] at hmethod
  exact absurd hmethod (by decide)

lemma run_answer_statusMany (h : r.destination = .view .statusMany) :
    (answer r).run s = (answerMany r).run s :=
  run_answer h (withoutBody_of_statusMany h)

/-- A body that asks for these paths, none of which is empty. -/
def Request.Lists (r : Request) (paths : List String) : Prop :=
  ∃ j, r.json = .ok j ∧ j.field? "paths" = some (.array (paths.map .text)) ∧
    ∀ path ∈ paths, path ≠ ""

lemma run_answerMany_lists (hlists : r.Lists paths) :
    (answerMany r).run s = (match ((probeEach paths).run s).1 with
      | none => .broken
      | some (records, failures) => .ofBody 200 (.batch records failures),
        ((probeEach paths).run s).2) := by
  obtain ⟨j, hjson, hfield, hne⟩ := hlists
  rw [answerMany, hjson]
  simp only [pathItems?, hfield]
  rw [answerItems, pathTexts?_texts hne]
  change (probeEach paths >>= _).run s = _
  rw [StateT.run_bind]
  rcases (probeEach paths).run s with ⟨_ | ⟨records, failures⟩, t⟩ <;> rfl

lemma run_answerMany_outcomes (hr : s.prober.residency.Writable) (hlists : r.Lists paths)
    (h : (paths.mapM probe).run s = (outcomes.map (·.mapError .failure), t)) :
    (answerMany r).run s = ({ status := 200, body := some (.batch
      (outcomes.filterMap Except.toOption) (outcomes.filterMap failure?)) }, t) := by
  rw [run_answerMany_lists hlists, run_probeEach h]
  exact congrArg (·, t) (ofBody_of_writable (writable_batch hr h) 200)

/-- The session is left as it is: no path is probed before all of them were looked at. -/
lemma run_answerMany_refused (hdeep : r.json ≠ .error .tooDeep)
    (h : ∀ paths, ¬r.Lists paths) :
    ∃ body, (answerMany r).run s = ({ status := 400, body := some body }, s) := by
  have hmissing : Body.missingPaths.Writable := fun _ h => absurd h List.not_mem_nil
  have hbad : Body.badPaths.Writable := fun _ h => absurd h List.not_mem_nil
  rw [answerMany]
  cases hjson : r.json with
  | error e =>
    cases e with
    | tooDeep => exact absurd hjson hdeep
    | malformed => exact ⟨_, congrArg (·, s) (ofBody_of_writable hmissing 400)⟩
  | ok j =>
    cases hitems : pathItems? j with
    | none =>
      simp only [hitems]
      exact ⟨_, congrArg (·, s) (ofBody_of_writable hmissing 400)⟩
    | some items =>
      simp only [hitems]
      rw [answerItems]
      cases htexts : pathTexts? items with
      | none => exact ⟨_, congrArg (·, s) (ofBody_of_writable hbad 400)⟩
      | some paths =>
        obtain ⟨rfl, hne⟩ := eq_texts_of_pathTexts? htexts
        exact absurd ⟨j, hjson, field?_of_pathItems? hitems, hne⟩ (h paths)

lemma run_mapM_answer {gets : List Request} (hr : s.prober.residency.Writable)
    (hgets : ∀ r ∈ gets, r.destination = .view .status ∧ r.withoutBody = false)
    (hparameters : gets.map (·.parameter? "path") = paths.map some)
    (hne : ∀ path ∈ paths, path ≠ "")
    (h : (paths.mapM probe).run s = (outcomes.map (·.mapError .failure), t)) :
    (gets.mapM answer).run s = (outcomes.map answerTo, t) := by
  induction paths generalizing s gets outcomes with
  | nil =>
    obtain rfl := List.map_eq_nil_iff.1 hparameters
    obtain ⟨rfl, rfl⟩ := eq_nil_of_run_mapM_nil h
    rfl
  | cons path paths ih =>
    obtain ⟨r, gets, rfl, hpath, hrest⟩ := List.map_eq_cons_iff.1 hparameters
    obtain ⟨outcome, rest, u, rfl, hprobe, hprobes⟩ := exists_of_run_mapM_cons h
    obtain ⟨⟨hview, hbody⟩, hgets⟩ := List.forall_mem_cons.1 hgets
    obtain ⟨hpath_ne, hne⟩ := List.forall_mem_cons.1 hne
    have hanswer : (answer r).run s = (answerTo outcome, u) := by
      rw [run_answer hview hbody]
      exact run_answerStatus hr hpath hpath_ne hprobe
    rw [run_mapM_cons, hanswer, ih (Session.writable_of_run hr hprobe) hgets hrest hne hprobes]
    rfl

/-- The bodies, in order, of the responses with one of these statuses. -/
def bodiesWith (statuses : List Nat) (responses : List Response) : List Json :=
  (responses.filter fun r => statuses.contains r.status).filterMap fun r => r.body.map Body.toJson

lemma bodiesWith_answerTo (outcomes : List (Except Failure Record)) :
    bodiesWith [200] (outcomes.map answerTo) =
        (outcomes.filterMap Except.toOption).map Listing.Object.ofRecord ∧
      bodiesWith [404, 422] (outcomes.map answerTo) =
        (outcomes.filterMap failure?).map Body.ofFailure := by
  induction outcomes with
  | nil => exact ⟨rfl, rfl⟩
  | cons outcome outcomes ih =>
    cases outcome with
    | ok record => exact ⟨congrArg (Listing.Object.ofRecord record :: ·) ih.1, ih.2⟩
    | error failure =>
      have hstatus := failureStatus_eq failure
      have hone : [200].contains (answerTo (.error failure)).status = false := by
        rcases hstatus with h | h <;> simp [answerTo, h]
      have htwo : [404, 422].contains (answerTo (.error failure)).status = true := by
        rcases hstatus with h | h <;> simp [answerTo, h]
      rw [List.map_cons, bodiesWith, bodiesWith, List.filter_cons_of_neg (by rw [hone]; decide),
        List.filter_cons_of_pos (p := fun r : Response => [404, 422].contains r.status) htwo]
      exact ⟨ih.1, congrArg (Body.ofFailure failure :: ·) ih.2⟩

lemma length_split :
    (outcomes.filterMap Except.toOption).length + (outcomes.filterMap failure?).length =
      outcomes.length := by
  induction outcomes with
  | nil => rfl
  | cons outcome outcomes ih =>
    cases outcome with
    | ok record =>
      change (outcomes.filterMap Except.toOption).length + 1 + (outcomes.filterMap failure?).length =
        outcomes.length + 1
      omega
    | error failure =>
      change (outcomes.filterMap Except.toOption).length + ((outcomes.filterMap failure?).length + 1) =
        outcomes.length + 1
      omega

def statusAddress : Address := ⟨[], "/api/status".toList, []⟩

def posting (j : Json) : Request := ⟨"POST", statusAddress, [], "application/json", String.ofList j.chars⟩

def getting (path : String) : Request := ⟨"GET", statusAddress, [("path", path)], "application/json", ""⟩

/-- Neither a body nor a parameter counts for where a request goes and how its body is read. -/
lemma reads_requests : (posting .null).destination = .view .statusMany ∧
    (getting "").destination = .view .status ∧ (posting .null).isJson = true := by
  decide +kernel

lemma destination_posting (j : Json) : (posting j).destination = .view .statusMany := reads_requests.1

lemma destination_getting (path : String) : (getting path).destination = .view .status :=
  reads_requests.2.1

lemma json_posting (h : Text.Ascii j.chars) : (posting j).json = Json.parse j.chars := by
  have hjson : (posting j).isJson = true := reads_requests.2.2
  have hdecode : Json.Encoding.decode? (posting j).body.toUTF8.toList = some j.chars :=
    Json.Encoding.decode?_ascii h
  rw [Request.json, if_pos hjson, hdecode]

section

open Json Token

lemma chars_nested_paths (n : Nat) : (object [("paths", nest n)]).chars =
    '\x7b' :: Text.doubleQuote :: ("paths\": ".toList ++
      (List.replicate (n + 1) '[' ++ (List.replicate (n + 1) ']' ++ ['\x7d']))) := by
  change '\x7b' :: Text.doubleQuote :: ("paths\": ".toList ++ (nest n).chars ++ ['\x7d']) = _
  rw [chars_nest, List.append_assoc, List.append_assoc]

lemma ascii_nested_paths (n : Nat) : Text.Ascii (object [("paths", nest n)]).chars := by
  have hfront : Text.Ascii ('\x7b' :: Text.doubleQuote :: "paths\": ".toList) := by
    decide
  have hbehind : Text.Ascii ['\x7d'] := by
    decide
  rw [chars_nested_paths]
  exact Text.ascii_append.2 ⟨hfront, Text.ascii_append.2 ⟨Text.ascii_replicate (by decide) _,
    Text.ascii_append.2 ⟨Text.ascii_replicate (by decide) _, hbehind⟩⟩⟩

lemma parse_nested_paths {n : Nat} (h : maxDepth ≤ n) :
    parse (object [("paths", nest n)]).chars = .error .tooDeep := by
  let behind := List.replicate (n + 1) ']' ++ ['\x7d']
  have hquoted : Quoted.decode? ("paths\": ".toList ++ (List.replicate (n + 1) '[' ++ behind)) =
      some ("paths".toList, ": ".toList ++ (List.replicate (n + 1) '[' ++ behind)) := rfl
  have htokens : ofText (object [("paths", nest n)]).chars = .objectOpen :: .text "paths" :: .colon ::
      .arrayOpen :: (List.replicate n .arrayOpen ++ ofText behind) := by
    rw [chars_nested_paths, ofText_mark rfl rfl, ofText_quote hquoted]
    change _ :: _ :: ofText (':' :: ' ' :: (List.replicate (n + 1) '[' ++ behind)) = _
    rw [ofText_mark rfl rfl, ofText_space rfl, ofText_opens]
    rfl
  have hrun : Reader.start.run (.objectOpen :: .text "paths" :: .colon ::
      .arrayOpen :: (List.replicate n .arrayOpen ++ ofText behind)) = .error .tooDeep :=
    run_opens [.object [] "paths"] (Nat.lt_of_lt_of_le (by decide) h) (Nat.le_add_left_of_le h) _
  rw [parse, htokens, hrun]
  rfl

end

/-- What is nested too deep breaks the service: that is told apart from all other bodies that are
not read. -/
theorem batch_eq_requests (s : Session) :
    (∀ (many : Request) (gets : List Request) (paths : List String)
        (outcomes : List (Except Failure Record)) (t : Session),
      s.prober.residency.Writable → many.destination = .view .statusMany → many.Lists paths →
      (∀ r ∈ gets, r.destination = .view .status ∧ r.withoutBody = false) →
      gets.map (·.parameter? "path") = paths.map some →
      (paths.mapM fun path => (Session.probe .allowAll path).run).run s =
        (outcomes.map (·.mapError .failure), t) →
      ∃ responses body, (gets.mapM answer).run s = (responses, t) ∧
        (answer many).run s = ({ status := 200, body := some body }, t) ∧
        body.toJson = .object [("results", .array (bodiesWith [200] responses)),
          ("errors", .array (bodiesWith [404, 422] responses))] ∧
        (bodiesWith [200] responses).length + (bodiesWith [404, 422] responses).length =
          paths.length) ∧
    (∀ many : Request, many.destination = .view .statusMany →
      (many.json ≠ .error .tooDeep → (∀ paths, ¬many.Lists paths) →
        ∃ body, (answer many).run s = ({ status := 400, body := some body }, s)) ∧
      (many.json = .error .tooDeep → (answer many).run s = (.broken, s))) ∧
    ∀ r : Request, r.destination = .view .status →
      (∀ path, r.parameter? "path" = some path → path = "") →
        ((answer r).run s).1.status = 400 ∧ ((answer r).run s).2 = s := by
  refine ⟨?_, ?_, ?_⟩
  · intro many gets paths outcomes t hr hmany hlists hgets hparameters hprobes
    obtain ⟨hresults, herrors⟩ := bodiesWith_answerTo outcomes
    have hanswers : (gets.mapM answer).run s = (outcomes.map answerTo, t) := by
      obtain ⟨-, -, -, hne⟩ := hlists
      exact run_mapM_answer hr hgets hparameters hne hprobes
    have hbatch := (run_answer_statusMany hmany).trans (run_answerMany_outcomes hr hlists hprobes)
    refine ⟨outcomes.map answerTo, _, hanswers, hbatch, ?_, ?_⟩
    · rw [hresults, herrors]
      rfl
    · rw [hresults, herrors, List.length_map, List.length_map, length_split]
      exact length_of_run_mapM hprobes
  · intro many hmany
    rw [run_answer_statusMany hmany]
    refine ⟨run_answerMany_refused, fun hdeep => ?_⟩
    rw [answerMany, hdeep]
    rfl
  · intro r hview hempty
    have hrefused : (View.status.answer r).run s = _ := run_answerStatus_missing hempty
    rw [run_answer_view hview, hrefused]
    cases r.withoutBody <;> exact ⟨rfl, rfl⟩

open Json Token in
theorem batch_eq_requests_missing_file :
    let many := posting (.object [("paths", .array (["f", "g"].map .text))])
    let gets := ["f", "g"].map getting
    let s := Session.onFile (.holding ⟨0o100644, 5000, ⟨0, 0⟩⟩)
    ∃ responses body t, (gets.mapM answer).run s = (responses, t) ∧
      (answer many).run s = ({ status := 200, body := some body }, t) ∧
      body.toJson = .object [("results", .array (bodiesWith [200] responses)),
        ("errors", .array (bodiesWith [404, 422] responses))] := by
  intro many gets s
  obtain ⟨t, hprobes⟩ := Session.run_mapM_onFile
  have hlists : many.Lists ["f", "g"] := by
    have hchars : (object [("paths", .array (["f", "g"].map .text))]).chars =
        "\x7b\"paths\": [\"f\", \"g\"]\x7d".toList := rfl
    have hascii : Text.Ascii "\x7b\"paths\": [\"f\", \"g\"]\x7d".toList := by
      decide +kernel
    refine ⟨.object [("paths", .array (["f", "g"].map .text))], ?_, rfl, by decide⟩
    refine (json_posting (hchars ▸ hascii)).trans ?_
    have htokens : ofText "\x7b\"paths\": [\"f\", \"g\"]\x7d".toList = [.objectOpen, .text "paths",
        .colon, .arrayOpen, .text "f", .comma, .text "g", .arrayClose, .objectClose] := by
      decide +kernel
    rw [hchars, parse, htokens]
    rfl
  have hgets : ∀ r ∈ gets, r.destination = .view .status ∧ r.withoutBody = false := by
    refine List.forall_mem_map.2 fun path _ => ⟨destination_getting path, rfl⟩
  obtain ⟨responses, body, hanswers, hanswer, hbody, -⟩ :=
    (batch_eq_requests s).1 many gets ["f", "g"] _ t (Residency.writable_ofPlatform ⟨"linux", "posix"⟩)
      (destination_posting _) hlists hgets rfl hprobes
  exact ⟨responses, body, t, hanswers, hanswer, hbody⟩

/-- The list holds a list and no text, but it is not read so far. -/
theorem nested_batch_breaks :
    let many := posting (.object [("paths", .array [Json.nest 1999])])
    let s := Session.onFile (.holding ⟨0o100644, 5000, ⟨0, 0⟩⟩)
    many.destination = .view .statusMany ∧ ((answer many).run s).1.status = 500 := by
  intro many s
  have hmany := destination_posting (.object [("paths", .array [Json.nest 1999])])
  have hdeep : many.json = .error .tooDeep :=
    (json_posting (ascii_nested_paths 2000)).trans (parse_nested_paths (by decide))
  refine ⟨hmany, ?_⟩
  rw [run_answer_statusMany hmany, answerMany, hdeep]
  rfl

end PageCache.Service
