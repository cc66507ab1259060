import PageCache.Numeral
import PageCache.Text.Quoted
/-!
What keeps a request from being sent at all. `RequestFault.message` is the one place for the wording.
-/

namespace PageCache.Service

inductive RequestFault where
  /-- Square brackets of one kind only, or with text around them. -/
  | badBrackets
  | badFutureAddress
  | bracketedV4
  | badAddress (text : List Char)
  | disguisedSeparator (authority : List Char)
  | badLabel
  | longLastLabel
  | badPort (text : List Char)
  | longPort (digits : Nat)
  | portOutOfRange
  | secondQuery
  | brokenHeader
  deriving DecidableEq

namespace RequestFault

def labelMessage (problem : String) : String := "encoding with 'idna' codec failed (UnicodeError: " ++ problem ++ ")"

def message : RequestFault → String
  | .badBrackets => "Invalid IPv6 URL"
  | .badFutureAddress => "IPvFuture address is invalid"
  | .bracketedV4 => "An IPv4 address cannot be in brackets"
  | .badAddress text => Text.quote (String.ofList text) ++ " does not appear to be an IPv4 or IPv6 address"
  | .disguisedSeparator authority =>
    "netloc '" ++ String.ofList authority ++ "' contains invalid characters under NFKC normalization"
  | .badLabel => labelMessage "label empty or too long"
  | .longLastLabel => labelMessage "label too long"
  | .badPort text => "Port could not be cast to integer value as " ++ Text.quote (String.ofList text)
  | .longPort digits =>
    "Exceeds the limit (4300 digits) for integer string conversion: value has " ++ Numeral.text digits ++
      " digits; use sys.set_int_max_str_digits() to increase the limit"
  | .portOutOfRange => "Port out of range 0-65535"
  | .secondQuery => "Query string is defined in the path and as an argument"
  | .brokenHeader => "Header values must not contain newline characters."

end RequestFault

end PageCache.Service
