import PageCache.Service.IpAddress
import PageCache.Service.RequestFault
import PageCache.Text.Lowercase
/-!
The authority of an address: the host and its port, perhaps behind the name of a user. Nothing of it reaches the
service, but one that is badly written is refused, as by the test client of Werkzeug 3.0.
-/

namespace PageCache.Service

structure Authority where
  host : List Char
  port : List Char
  deriving DecidableEq

namespace Authority

/-- Characters whose plain form holds a separator of addresses. -/
def disguises : List Nat :=
  [0x2047, 0x2048, 0x2049, 0x2100, 0x2101, 0x2105, 0x2106, 0x2a74, 0xfe13, 0xfe16, 0xfe55, 0xfe56, 0xfe5f,
   0xfe6b, 0xff03, 0xff0f, 0xff1a, 0xff1f, 0xff20]

/-- An address of a later version: the letter, a version in hexadecimal digits, a point and the rest. -/
def isFuture : List Char → Bool
  | 'v' :: s =>
    let (version, rest) := Text.cut '.' s
    version != [] && version.all (fun c => (Text.hexValue? c).isSome) && rest.any (· != [])
  | _ => false

/-- Where brackets stand, the host is a network address. -/
def checkNumeric (s : List Char) : Except RequestFault Unit :=
  if s.head? = some 'v' then if isFuture s then return else throw .badFutureAddress
  else if IpAddress.isV4 s then throw .bracketedV4
  else if IpAddress.isScopedV6 s then return
  else throw (.badAddress s)

/-- What stands behind the user. The last at sign ends what is said of the user. -/
def dropUser (s : List Char) : List Char := (Text.cut '@' s.reverse).1.reverse

/-- Nothing stands before an opening bracket, and nothing but a port behind the closing one. -/
def checkBracketed (s : List Char) : Except RequestFault Unit :=
  match Text.cut '[' s with
  | ([], some bracketed) =>
    let (host, rest) := Text.cut ']' bracketed
    if (rest.getD []).head?.all (· = ':') then checkNumeric host else throw .badBrackets
  | (_, some _) => throw .badBrackets
  | (_, none) => checkNumeric (Text.cut ':' s).1

/-- Brackets come in pairs around a network address, and no character passes for a separator. -/
def check (s : List Char) : Except RequestFault Unit := do
  if s.contains '[' != s.contains ']' then throw .badBrackets
  if s.contains '[' then checkBracketed (dropUser s)
  if s.any fun c => disguises.contains c.toNat then throw (.disguisedSeparator s)

/-- Host and port: a host in brackets may hold colons. -/
def cutPort (s : List Char) : List Char × List Char :=
  match Text.cut '[' s with
  | (_, some bracketed) =>
    let (host, rest) := Text.cut ']' bracketed
    (host, (Text.cut ':' (rest.getD [])).2.getD [])
  | (_, none) => let (host, port) := Text.cut ':' s; (host, port.getD [])

/-- Small letters, but for the zone of a network address. -/
def lowercaseHost (s : List Char) : List Char :=
  Text.lowercase (s.takeWhile (· != '%')) ++ s.dropWhile (· != '%')

def ofText (s : List Char) : Authority :=
  let (host, port) := cutPort (dropUser s)
  ⟨lowercaseHost host, port⟩

def portNumber (a : Authority) : Except RequestFault Nat := do
  if a.port = [] then return 0
  if !a.port.all Char.isDigit then throw (.badPort a.port)
  match Numeral.natural? a.port with
  | none => throw (.longPort a.port.length)
  | some n => if n < 0x10000 then return n else throw .portOutOfRange

def isPoint (c : Char) : Bool := c = '.' || c = '\u3002' || c = '\uff0e' || c = '\uff61'

def isAscii (s : List Char) : Bool := s.all (·.toNat < 0x80)

def labels (host : List Char) : List (List Char) :=
  Text.pieces '.' (host.map fun c => if isPoint c then '.' else c)

def fits (label : List Char) : Bool := 0 < label.length && label.length < 64

/-- A label holds between 1 and 63 characters, and the last one may be empty. In a host that is not ASCII, the
labels beyond ASCII are taken as they are. -/
def checkLabels (host : List Char) : Except RequestFault Unit := do
  let labels := labels host
  let last := labels.getLastD []
  if isAscii host then
    if !labels.dropLast.all fits then throw .badLabel
    if 64 ≤ last.length then throw .longLastLabel
  else
    let named := if last = [] then labels.dropLast else labels
    if !named.all fun label => !isAscii label || fits label then throw .badLabel

def place (a : Authority) : Except RequestFault (List Char) := do
  if a.host ≠ [] then checkLabels a.host
  let port ← a.portNumber
  let host := if a.host.contains ':' then '[' :: a.host ++ [']'] else a.host
  return if port = 0 then host else host ++ ':' :: Numeral.chars port

end Authority

end PageCache.Service
