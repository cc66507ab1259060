import PageCache.Service.Request
/-!
The routes of the service, those that Flask 3.0 adds among them, and how Werkzeug 3.0 finds the one of a request.
-/

namespace PageCache.Service

inductive View where
  | log
  | status
  | statusMany
  | staticFile
  deriving DecidableEq

structure Route where
  view : View
  rule : String
  methods : List Method

/-- In the order of their rules. Every route answers `OPTIONS`, and a route that is read answers `HEAD`. -/
def routes : List Route :=
  [⟨.log, "/api/log", [.get, .head, .options]⟩,
   ⟨.status, "/api/status", [.get, .head, .options]⟩,
   ⟨.statusMany, "/api/status", [.options, .post]⟩,
   ⟨.staticFile, "/static/<path:filename>", [.get, .head, .options]⟩]

def staticRoot : List Char := "/static/".toList

namespace Route

/-- The name of a file below the static root: it does not start with a slash, and no line ends behind its first
character. -/
def isFileName : List Char → Bool
  | [] => false
  | c :: rest => c != '/' && !rest.contains '\n'

def covers (r : Route) (path : List Char) : Bool :=
  match r.view with
  | .staticFile => staticRoot.isPrefixOf path && isFileName (path.drop staticRoot.length)
  | _ => path == r.rule.toList

end Route

def routesFor (path : List Char) : List Route := routes.filter (·.covers path)

def allowed (rs : List Route) : List Method := Method.known.filter fun m => rs.any (·.methods.contains m)

def mergeSlashes : List Char → List Char
  | [] => []
  | c :: rest => if c = '/' ∧ rest.head? = some '/' then mergeSlashes rest else c :: mergeSlashes rest

inductive Destination where
  | view (v : View)
  | described (methods : List Method)
  | refused (methods : List Method)
  | moved
  /-- A web socket, which no route has. -/
  | mismatched
  | nowhere
  deriving DecidableEq

def routeOf? (path : List Char) (m : Method) : Option Route := (routesFor path).find? (·.methods.contains m)

def routesNear (path : List Char) : List Route := routesFor path ++ routesFor (mergeSlashes path)

/-- A path with runs of slashes is sent on to the path without them, if that leads anywhere. -/
def destination (path : List Char) (m : Method) : Destination :=
  match routeOf? path m with
  | some r => if m = .options then .described (allowed (routesFor path)) else .view r.view
  | none =>
    if (routeOf? (mergeSlashes path) m).isSome then .moved
    else match allowed (routesNear path) with
      | [] => .nowhere
      | methods => .refused methods

/-- Of the routes, a web socket is told first that they have other methods. -/
def socketDestination (path : List Char) (m : Method) : Destination :=
  match allowed ((routesNear path).filter fun r => !r.methods.contains m) with
  | [] => if (routesNear path).isEmpty then .nowhere else .mismatched
  | methods => .refused methods

end PageCache.Service
