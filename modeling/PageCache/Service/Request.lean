import PageCache.Json.Encoding
import PageCache.Json.Reader
import PageCache.Service.Address
import PageCache.Text.Blank
import PageCache.Text.Capital
import PageCache.Text.Lowercase
/-!
Requests to the service, as Flask 3.0 with Werkzeug 3.0 hands them to a view. Texts are of whole characters: where a
body spells out half of a surrogate pair alone, a path with a replacement character is asked for.
-/

namespace PageCache.Service

inductive Method where
  | get
  | head
  | options
  | post
  | other (name : String)
  deriving DecidableEq

namespace Method

def name : Method → String
  | .get => "GET"
  | .head => "HEAD"
  | .options => "OPTIONS"
  | .post => "POST"
  | .other name => name

def known : List Method := [.get, .head, .options, .post]

/-- Small letters count as capitals. -/
def ofName (s : String) : Method :=
  let name := String.ofList (Text.latinCapitals s.toList)
  (known.find? (·.name == name)).getD (.other name)

end Method

structure Request where
  /-- The method as it is written. -/
  verb : String
  target : Address
  /-- Of several with one name the first counts. -/
  parameters : List (String × String)
  contentType : String
  body : String

namespace Request

structure Draft where
  verb : String
  address : String
  query : Option (List (String × String)) := none
  contentType : String := "application/json"
  body : String := ""

def isHeaderValue (s : String) : Bool := s.toList.all fun c => c != '\n' && c != '\r'

def Draft.send (d : Draft) : Except RequestFault Request := do
  let target ← Address.requested d.address.toList d.query.isNone
  if !isHeaderValue d.contentType then throw .brokenHeader
  return ⟨d.verb, target, d.query.getD target.parameters, d.contentType, d.body⟩

def method (r : Request) : Method := .ofName r.verb

/-- Only a method written in capitals leaves the body out. -/
def withoutBody (r : Request) : Bool := r.verb == Method.head.name

def parameter? (r : Request) (name : String) : Option String := r.parameters.lookup name

def isHeaderSpace (c : Char) : Bool := c = ' ' || c = '\t'

def mediaType (r : Request) : List Char :=
  Text.lowercase (Text.trim isHeaderSpace (Text.cut ';' r.contentType.toList).1)

def isJson (r : Request) : Bool :=
  r.mediaType == "application/json".toList ||
    ("application/".toList.isPrefixOf r.mediaType && "+json".toList.isSuffixOf r.mediaType)

def json (r : Request) : Except Json.ReadError Json :=
  if r.isJson then
    match Json.Encoding.decode? r.body.toUTF8.toList with
    | some text => Json.parse text
    | none => .error .malformed
  else .error .malformed

end Request

end PageCache.Service
