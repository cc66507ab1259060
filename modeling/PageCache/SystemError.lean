import PageCache.Numeral
import PageCache.Text.Quoted
/-!
Errors that the operating system answers with.
-/

namespace PageCache

abbrev ErrorCode := Int

def ErrorCode.text : ErrorCode → String
  | 0 => "Success"
  | 1 => "Operation not permitted"
  | 2 => "No such file or directory"
  | 3 => "No such process"
  | 5 => "Input/output error"
  | 6 => "No such device or address"
  | 9 => "Bad file descriptor"
  | 11 => "Resource temporarily unavailable"
  | 12 => "Cannot allocate memory"
  | 13 => "Permission denied"
  | 16 => "Device or resource busy"
  | 19 => "No such device"
  | 20 => "Not a directory"
  | 21 => "Is a directory"
  | 22 => "Invalid argument"
  | 24 => "Too many open files"
  | 25 => "Inappropriate ioctl for device"
  | 36 => "File name too long"
  | 38 => "Function not implemented"
  | 40 => "Too many levels of symbolic links"
  | 75 => "Value too large for defined data type"
  | 110 => "Connection timed out"
  | n => "Unknown error " ++ Numeral.text n

namespace ErrorCode

def noSuchFile : ErrorCode := 2

def badDescriptor : ErrorCode := 9

def inappropriateRequest : ErrorCode := 25

def notImplemented : ErrorCode := 38

def overflow : ErrorCode := 75

end ErrorCode

inductive MappingCall where
  | mmap
  | mincore
  deriving DecidableEq

def MappingCall.name : MappingCall → String
  | .mmap => "mmap"
  | .mincore => "mincore"

inductive Service where
  | residency
  | deviceSize
  deriving DecidableEq

def Service.name : Service → String
  | .residency => "page residency"
  | .deviceSize => "block device size"

inductive SystemError where
  | plain (code : ErrorCode)
  | onPath (code : ErrorCode) (path : String)
  | mapping (call : MappingCall) (code : ErrorCode)
  | unsupported (service : Service) (platform : String)
  | stated (permission : Bool) (message : String)
  deriving DecidableEq

namespace SystemError

def numbered (code : ErrorCode) (text : String) : String := "[Errno " ++ Numeral.text code ++ "] " ++ text

def message : SystemError → String
  | .plain code => numbered code code.text
  | .onPath code path => numbered code (code.text ++ ": " ++ Text.quote path)
  | .mapping call code => numbered code (call.name ++ ": " ++ code.text)
  | .unsupported service platform =>
    numbered ErrorCode.notImplemented (service.name ++ " queries are not supported on " ++ platform)
  | .stated _ message => message

end PageCache.SystemError
