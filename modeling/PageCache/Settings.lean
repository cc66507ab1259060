import PageCache.Listing.Format
import PageCache.Text.Lowercase
/-!
Settings from the environment: a format, and a limit on the size of the files to probe. A variable that is not
set, or blank, leaves its setting as it is.
-/

namespace PageCache

structure Settings where
  format : Listing.Format := .table
  maxSize : Option Nat := none
  deriving DecidableEq

inductive SettingsError where
  | badFormat (text : String)
  | notAnInteger (text : String)
  | negative (text : String)
  deriving DecidableEq

namespace Settings

def formatVariable : String := "PY_PCSTAT_FORMAT"

def sizeVariable : String := "PY_PCSTAT_MAX_SIZE"

def value (environment : List (String × String)) (name : String) : List Char :=
  Text.strip ((environment.lookup name).getD "").toList

def readFormat (text : List Char) : Except SettingsError Listing.Format :=
  let name := String.ofList (Text.lowercase text)
  if text = [] then .ok .table
  else match Listing.Format.ofName? name with
    | some format => .ok format
    | none => .error (.badFormat name)

def readSize (text : List Char) : Except SettingsError (Option Nat) :=
  if text = [] then .ok none
  else match Numeral.integer? text with
    | none => .error (.notAnInteger (String.ofList text))
    | some (.ofNat n) => .ok (some n)
    | some (.negSucc _) => .error (.negative (String.ofList text))

/-- A bad format is reported before a bad size. -/
def ofEnvironment (environment : List (String × String)) : Except SettingsError Settings := do
  let format ← readFormat (value environment formatVariable)
  let maxSize ← readSize (value environment sizeVariable)
  return { format, maxSize }

end Settings

def SettingsError.message : SettingsError → String
  | .badFormat text =>
    Settings.formatVariable ++ "=" ++ Text.quote text ++ ": expected one of " ++
      ", ".intercalate (Listing.Format.all.map Listing.Format.name)
  | .notAnInteger text => Settings.sizeVariable ++ "=" ++ Text.quote text ++ ": not an integer"
  | .negative text => Settings.sizeVariable ++ "=" ++ Text.quote text ++ ": must be non-negative"

end PageCache
