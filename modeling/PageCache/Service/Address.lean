import PageCache.Service.Authority
import PageCache.Text.Percent
/-!
The address of a request: a scheme, a path and a query, with an authority and a fragment that do not count. A client
puts path and query together again and takes them apart a second time, so a second authority behind the first is
dropped as well; what looks like a third one belongs to the path. This is how the test client of Werkzeug 3.0 sends
a request, and nothing about the views of the service rests on it.
-/

namespace PageCache.Service

structure Address where
  scheme : List Char
  path : List Char
  query : List Char
  deriving DecidableEq

namespace Address

/-- Controls and spaces in front of an address do not belong to it. -/
def isLeading (c : Char) : Bool := c.toNat ≤ 0x20

/-- Tabs and ends of lines do not count anywhere. -/
def isIgnored (c : Char) : Bool := c = '\t' || c = '\n' || c = '\r'

def isSchemeChar (c : Char) : Bool := c.isAlphanum || c = '+' || c = '-' || c = '.'

/-- A scheme starts with a letter and ends at a colon. -/
def cutScheme (s : List Char) : List Char × List Char :=
  match s.dropWhile isSchemeChar with
  | ':' :: rest => if s.head?.any Char.isAlpha then (s.takeWhile isSchemeChar, rest) else ([], s)
  | _ => ([], s)

def isInAuthority (c : Char) : Bool := c != '/' && c != '?' && c != '#'

/-- An authority stands behind two slashes. -/
def cutAuthority : List Char → List Char × List Char
  | '/' :: '/' :: rest => (rest.takeWhile isInAuthority, rest.dropWhile isInAuthority)
  | s => ([], s)

def ofText (s : List Char) : Except RequestFault (List Char × Address) := do
  let (scheme, body) := cutScheme ((s.dropWhile isLeading).filter fun c => !isIgnored c)
  let (authority, rest) := cutAuthority body
  Authority.check authority
  let (path, query) := Text.cut '?' (Text.cut '#' rest).1
  return (authority, ⟨scheme.map Char.toLower, path, query.getD []⟩)

def target (a : Address) : List Char := if a.query = [] then a.path else a.path ++ '?' :: a.query

/-- The address that a client asks for, `alone` or with parameters beside it. -/
def requested (s : List Char) (alone : Bool) : Except RequestFault Address := do
  let (authority, first) ← ofText s
  if !alone && first.query ≠ [] then throw .secondQuery
  let (_, second) ← ofText first.target
  Authority.check (← (Authority.ofText authority).place)
  return { second with scheme := first.scheme }

def isWebSocket (a : Address) : Bool := a.scheme == "ws".toList || a.scheme == "wss".toList

/-- The path that is looked up: without escapes, and with one slash in front. -/
def location (a : Address) : List Char := '/' :: (Text.Percent.decode a.path).dropWhile (· == '/')

/-- Reads a name or a value of a query, where a plus sign stands for a space. -/
def readPart (s : List Char) : String :=
  String.ofList (Text.Percent.decode (s.map fun c => if c = '+' then ' ' else c))

/-- The parameters of the query: the pieces between ampersands, each with a name before its first equals sign. -/
def parameters (a : Address) : List (String × String) :=
  ((Text.pieces '&' a.query).filter (· != [])).map fun piece =>
    let (name, value) := Text.cut '=' piece
    (readPart name, readPart (value.getD []))

end Address

end PageCache.Service
