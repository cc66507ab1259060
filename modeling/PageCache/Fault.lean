import PageCache.FileKind
import PageCache.Instant.FileTime
import PageCache.Process
import PageCache.SystemError
import PageCache.Text.Utf8
/-!
Faults: everything that can go wrong, by its cause. `Fault.message` is the one place for the wording.
-/

namespace PageCache

inductive Refusal where
  | irregular
  | oversized (size limit : Int)
  | stated (message : String)
  deriving DecidableEq

/-- The kinds of error that a caller's hook may raise beside system errors and refusals. -/
inductive HookError where
  | value
  | runtime
  | type
  deriving DecidableEq

inductive Fault where
  | system (error : SystemError)
  | embeddedNull
  | refusal (reason : Refusal)
  | hook (kind : HookError) (message : String)
  | negativeLimit (limit : Int)
  | blankLimit
  | divisionByZero
  | quotientTooLarge
  | numeralTooLong
  | negativeCount (count : Int)
  | countTooLarge
  | outOfMemory
  | notANumber
  | secondsTooLarge
  | yearOutOfRange (year : Int)
  | mode (fault : ModeFault)
  | malformed (bytes : Text.Utf8.Malformed)
  | unreadableMap (process : Process) (error : SystemError)
  | unknownFormat (name : String)
  deriving DecidableEq

def Refusal.message : Refusal → String
  | .irregular => "not a regular file or block device"
  | .oversized size limit => "size " ++ Numeral.text size ++ " exceeds limit " ++ Numeral.text limit
  | .stated message => message

namespace Fault

def message : Fault → String
  | .system error => error.message
  | .embeddedNull => "embedded null byte"
  | .refusal reason => reason.message
  | .hook _ message => message
  | .negativeLimit limit => "size limit must be non-negative, got " ++ Numeral.text limit
  | .blankLimit => "'<' not supported between instances of 'list' and 'int'"
  | .divisionByZero => "integer division or modulo by zero"
  | .quotientTooLarge => "integer division result too large for a float"
  | .numeralTooLong =>
    "Exceeds the limit (4300 digits) for integer string conversion; use sys.set_int_max_str_digits() to " ++
      "increase the limit"
  | .negativeCount count => "Array length must be >= 0, not " ++ Numeral.text count
  | .countTooLarge => "cannot fit 'int' into an index-sized integer"
  | .outOfMemory => ""
  | .notANumber => "Invalid value NaN (not a number)"
  | .secondsTooLarge => "timestamp out of range for platform time_t"
  | .yearOutOfRange year => "year " ++ Numeral.text year ++ " is out of range"
  | .mode .negative => "can't convert negative value to unsigned int"
  | .mode .wide => "mode out of range"
  | .mode .huge => "Python int too large to convert to C unsigned long"
  | .malformed bytes => bytes.message
  | .unreadableMap process error => "could not read memory map of pid " ++ process.name ++ ": " ++ error.message
  | .unknownFormat name => Text.quote name ++ " is not a valid OutputFormat"

/-- The calendar of the system refuses a year that it cannot hold; the other refusals are faults of their own. -/
def ofTime : TimeFault → Fault
  | .notANumber => .notANumber
  | .secondsTooLarge => .secondsTooLarge
  | .yearTooLarge => .system (.plain ErrorCode.overflow)
  | .yearOutOfRange year => .yearOutOfRange year

end Fault

def Numeral.checkWritable (n : Int) : Except Fault Unit := if Writable n then .ok () else .error .numeralTooLong

end PageCache
