import PageCache.Json.Token
/-!
Reading JSON, token by token. A state holds the arrays and objects that are still open, with what they hold
so far, and tells what may come next.
-/

namespace PageCache.Json

/-- Why a text is not read. What is wrong first counts. -/
inductive ReadError where
  | malformed
  | tooDeep
  deriving DecidableEq

/-- How many arrays and objects may be open at once. Calls nest 1000 deep at most, and where the body of a request is
read, 25 of them are open already; that is the number for a test client of Flask 3.0, and a server adds its own. -/
def maxDepth : Nat := 1000 - 25

/-- An array or an object that is still open, with the last of its values in front; in an object, also the name that
the next value is for. -/
inductive Frame where
  | array (items : List Json)
  | object (fields : List (String × Json)) (name : String)

inductive Reader where
  | value (outer : List Frame)
  | itemOrEnd (outer : List Frame)
  | nameOrEnd (outer : List Frame)
  | nextName (fields : List (String × Json)) (outer : List Frame)
  | colon (fields : List (String × Json)) (name : String) (outer : List Frame)
  | done (v : Json) (outer : List Frame)

namespace Reader

def start : Reader := .value []

def opening (r : List Frame → Reader) (outer : List Frame) : Except ReadError Reader :=
  if outer.length < maxDepth then .ok (r outer) else .error .tooDeep

def startValue (outer : List Frame) : Token → Except ReadError Reader
  | .arrayOpen => opening .itemOrEnd outer
  | .objectOpen => opening .nameOrEnd outer
  | .text s => .ok (.done (.text s) outer)
  | .word s =>
    match ofWord? s with
    | some v => .ok (.done v outer)
    | none => .error .malformed
  | _ => .error .malformed

def step : Reader → Token → Except ReadError Reader
  | .value outer, t => startValue outer t
  | .itemOrEnd outer, .arrayClose => .ok (.done (.array []) outer)
  | .itemOrEnd outer, t => startValue (.array [] :: outer) t
  | .nameOrEnd outer, .objectClose => .ok (.done (.object []) outer)
  | .nameOrEnd outer, .text s => .ok (.colon [] s outer)
  | .nextName fields outer, .text s => .ok (.colon fields s outer)
  | .colon fields name outer, .colon => .ok (.value (.object fields name :: outer))
  | .done v (.array items :: outer), .comma => .ok (.value (.array (v :: items) :: outer))
  | .done v (.array items :: outer), .arrayClose => .ok (.done (.array (v :: items).reverse) outer)
  | .done v (.object fields name :: outer), .comma => .ok (.nextName ((name, v) :: fields) outer)
  | .done v (.object fields name :: outer), .objectClose =>
    .ok (.done (.object ((name, v) :: fields).reverse) outer)
  | _, _ => .error .malformed

def run (r : Reader) (ts : List Token) : Except ReadError Reader := ts.foldlM step r

end Reader

def parse (s : List Char) : Except ReadError Json := do
  match ← Reader.start.run (Token.ofText s) with
  | .done v [] => return v
  | _ => throw .malformed

end PageCache.Json
