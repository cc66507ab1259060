import PageCache.Probe.Basic
import PageCache.Service.Body
import PageCache.Service.Route
/-!
The service: one file or several are probed on request, and the log can be read.
-/

namespace PageCache.Service

structure Response where
  status : Nat
  body : Option Body := none
  /-- The methods that the path allows, where they are asked for or the method is refused. -/
  allow : Option (List Method) := none

def defaultPort : Nat := 8080

namespace Response

def broken : Response := { status := 500 }

/-- Bodies that cannot be written are faults. -/
def ofBody (status : Nat) (b : Body) : Response := if b.Writable then { status, body := some b } else broken

end Response

def failureStatus (f : Failure) : Nat := if f.kind = .opening then 404 else 422

/-- Probes of a service turn no file away. -/
def probe (path : String) : StateM Session (Except Abort Record) := (Session.probe .allowAll path).run

def answerStatus (r : Request) : StateM Session Response := do
  let path := (r.parameter? "path").getD ""
  if path = "" then return .ofBody 400 .missingPath
  match ← probe path with
  | .ok record => return .ofBody 200 (.record record)
  | .error (.failure f) => return .ofBody (failureStatus f) (.failure f)
  | .error (.fault _) => return .broken

def pathItems? (j : Json) : Option (List Json) :=
  match j.field? "paths" with
  | some (.array items) => some items
  | _ => none

def pathTexts? : List Json → Option (List String)
  | [] => some []
  | .text s :: rest => if s = "" then none else (pathTexts? rest).map (s :: ·)
  | _ :: _ => none

def probeEach : List String → StateM Session (Option (List Record × List Failure))
  | [] => return some ([], [])
  | path :: rest => do
    match ← probe path with
    | .ok record => return (← probeEach rest).map fun (rs, fs) => (record :: rs, fs)
    | .error (.failure f) => return (← probeEach rest).map fun (rs, fs) => (rs, f :: fs)
    | .error (.fault _) => return none

/-- The whole list is looked at before the first probe. -/
def answerItems (items : List Json) : StateM Session Response := do
  match pathTexts? items with
  | none => return .ofBody 400 .badPaths
  | some paths =>
    match ← probeEach paths with
    | none => return .broken
    | some (records, failures) => return .ofBody 200 (.batch records failures)

/-- A body that is not read counts as one without a list, unless it is nested too deep. -/
def answerMany (r : Request) : StateM Session Response :=
  match r.json with
  | .error .tooDeep => return .broken
  | .error .malformed => return .ofBody 400 .missingPaths
  | .ok j =>
    match pathItems? j with
    | none => return .ofBody 400 .missingPaths
    | some items => answerItems items

/-- The level that a request asks for; a level that there is not asks for all entries. -/
def levelOf (r : Request) : Level :=
  let name := Text.latinCapitals ((r.parameter? "level").getD Level.debug.name).toList
  (Level.ofName? (String.ofList name)).getD .debug

def answerLog (r : Request) : StateM Session Response := do
  let entries :=
    match (← get).prober.log with
    | none => []
    | some log => log.select { level := some (levelOf r), path := r.parameter? "path" }
  return .ofBody 200 (.entries entries)

/-- There are no static files. -/
def View.answer : View → Request → StateM Session Response
  | .log, r => answerLog r
  | .status, r => answerStatus r
  | .statusMany, r => answerMany r
  | .staticFile, _ => return { status := 404 }

def Request.destination (r : Request) : Destination :=
  if r.target.isWebSocket then socketDestination r.target.location r.method
  else Service.destination r.target.location r.method

/-- `HEAD` is answered like `GET`, but for the body. -/
def answer (r : Request) : StateM Session Response := do
  match r.destination with
  | .view v =>
    let response ← v.answer r
    return if r.withoutBody then { response with body := none } else response
  | .described methods => return { status := 200, allow := some methods }
  | .refused methods => return { status := 405, allow := some methods }
  | .moved => return { status := 308 }
  | .mismatched => return { status := 400 }
  | .nowhere => return { status := 404 }

end PageCache.Service
