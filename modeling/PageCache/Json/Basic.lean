import PageCache.Json.Quoted
import PageCache.Numeral
import PageCache.Text.Line
/-!
JSON values and their text on one line. Objects keep the order of their fields.
-/

namespace PageCache

inductive Json where
  | null
  | bool (b : Bool)
  | integer (n : Int)
  /-- A number with a fraction or an exponent, by its text. -/
  | decimal (literal : String)
  | text (s : String)
  | array (items : List Json)
  | object (fields : List (String × Json))
  deriving Inhabited

namespace Json

/-- A field by its name; of several, the last one. -/
def field? (name : String) : Json → Option Json
  | .object fields => fields.reverse.lookup name
  | _ => none

mutual

def chars : Json → List Char
  | .null => "null".toList
  | .bool b => if b then "true".toList else "false".toList
  | .integer n => Numeral.chars n
  | .decimal literal => literal.toList
  | .text s => Quoted.encode s.toList
  | .array items => '[' :: Text.joinWith ", ".toList (itemChars items) ++ [']']
  | .object fields => '\x7b' :: Text.joinWith ", ".toList (fieldChars fields) ++ ['\x7d']

def itemChars : List Json → List (List Char)
  | [] => []
  | v :: rest => chars v :: itemChars rest

def fieldChars : List (String × Json) → List (List Char)
  | [] => []
  | (name, v) :: rest => (Quoted.encode name.toList ++ ": ".toList ++ chars v) :: fieldChars rest

end

end Json

end PageCache
