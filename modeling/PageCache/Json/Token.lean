import PageCache.Json.Basic
/-!
The tokens of JSON: marks, quoted texts, and words, which are the runs of all other characters that are not
white space.
-/

namespace PageCache.Json

inductive Token where
  | arrayOpen
  | arrayClose
  | objectOpen
  | objectClose
  | colon
  | comma
  | text (s : String)
  | word (s : List Char)
  /-- A quoted text that is not well formed; nothing is read behind it. -/
  | flaw
  deriving DecidableEq

namespace Token

def isSpace (c : Char) : Bool := c = ' ' || c = '\t' || c = '\n' || c = '\r'

def ofMark? : Char → Option Token
  | '[' => some .arrayOpen
  | ']' => some .arrayClose
  | '\x7b' => some .objectOpen
  | '\x7d' => some .objectClose
  | ':' => some .colon
  | ',' => some .comma
  | _ => none

def isWordChar (c : Char) : Bool := !isSpace c && (ofMark? c).isNone && c != Text.doubleQuote

def ofText (s : List Char) : List Token :=
  match s with
  | [] => []
  | c :: rest =>
    if isSpace c then ofText rest
    else match ofMark? c with
      | some token => token :: ofText rest
      | none =>
        if c = Text.doubleQuote then
          match h : Quoted.decode? rest with
          | none => [.flaw]
          | some (t, after) =>
            have := Quoted.length_lt_of_decode? h
            .text (String.ofList t) :: ofText after
        else
          have : (rest.dropWhile isWordChar).length ≤ rest.length := (List.dropWhile_suffix _).length_le
          .word (c :: rest.takeWhile isWordChar) :: ofText (rest.dropWhile isWordChar)
termination_by s.length
decreasing_by all_goals simp only [List.length_cons]; omega

end Token

def isDigits (s : List Char) : Bool := s != [] && s.all Char.isDigit

def isWhole (s : List Char) : Bool := isDigits s && (s.length == 1 || s.head? != some '0')

def isExponent : List Char → Bool
  | '+' :: rest => isDigits rest
  | '-' :: rest => isDigits rest
  | rest => isDigits rest

def isExponentMark (c : Char) : Bool := c = 'e' || c = 'E'

/-- What may follow the whole part of a number: a fraction, an exponent, or both. -/
def isTail : List Char → Bool
  | [] => false
  | '.' :: rest =>
    let fraction := rest.takeWhile Char.isDigit
    fraction != [] && match rest.dropWhile Char.isDigit with
      | [] => true
      | c :: more => isExponentMark c && isExponent more
  | c :: rest => isExponentMark c && isExponent rest

def number? (s : List Char) : Option Json :=
  let unsigned := if s.head? = some '-' then s.tail else s
  let whole := unsigned.takeWhile Char.isDigit
  if !isWhole whole then none
  else if unsigned.length = whole.length then (Numeral.integer? s).map .integer
  else if isTail (unsigned.dropWhile Char.isDigit) then some (.decimal (String.ofList s))
  else none

def notFinite : List String := ["NaN", "Infinity", "-Infinity"]

def ofWord? (s : List Char) : Option Json :=
  let word := String.ofList s
  if word = "null" then some .null
  else if word = "true" then some (.bool true)
  else if word = "false" then some (.bool false)
  else if word ∈ notFinite then some (.decimal word)
  else number? s

end PageCache.Json
