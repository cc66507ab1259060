import PageCache.Json.Reader
import PageCache.Machine.Basic
/-!
Machines described in JSON. What a description leaves out has a default: an empty regular file, a page that is
cached, a clock that stands still. Such a machine has its files under any names, so it takes every path.
-/

namespace PageCache

namespace Json

def integer? : Json → Option Int
  | .integer n => some n
  | _ => none

def text? : Json → Option String
  | .text s => some s
  | _ => none

def items? : Json → Option (List Json)
  | .array items => some items
  | _ => none

def fields? : Json → Option (List (String × Json))
  | .object fields => some fields
  | _ => none

def fieldOr {α : Type} (j : Json) (name : String) (read : Json → Option α) (default : α) : Option α :=
  (j.field? name).elim (some default) read

def optional {α : Type} (j : Json) (name : String) (read : Json → Option α) : Option (Option α) :=
  match j.field? name with
  | none | some .null => some none
  | some v => (read v).map some

def hexBytes? : List Char → Option (List UInt8)
  | [] => some []
  | a :: b :: rest => do
    let byte := (← Text.hexValue? a) * 16 + (← Text.hexValue? b)
    return UInt8.ofNat byte :: (← hexBytes? rest)
  | _ => none

def bytes? (j : Json) : Option (List UInt8) := do hexBytes? (← j.text?).toList

end Json

namespace Snapshot

def emptyFile : Metadata := { mode := 0x81a4, size := 0, mtime := ⟨0, 0⟩ }

def time? (j : Json) : Option FileTime := do
  match ← j.items? with
  | [seconds, nanoseconds] => return ⟨← seconds.integer?, ← nanoseconds.integer?⟩
  | _ => none

def metadata? (base : Metadata) (j : Json) : Option Metadata := do
  return {
    mode := ← j.fieldOr "mode" Json.integer? base.mode
    size := ← j.fieldOr "size" Json.integer? base.size
    mtime := ← j.fieldOr "mtime" time? base.mtime }

def answer? (base : Metadata) (j : Json) : Option (Except ErrorCode Metadata) := do
  match ← j.optional "errno" Json.integer? with
  | some code => return .error code
  | none => return .ok (← metadata? base j)

/-- A mapping can also fail without an error code of its own. -/
def core? (j : Json) : Option Core := do
  let mapFault ← j.optional "mmap" Json.integer?
  let isNull := match j.field? "null" with
    | some (.bool b) => b
    | _ => false
  return {
    status := ← j.fieldOr "vec" Json.bytes? [1]
    mapFault := if isNull then some (mapFault.getD 0) else mapFault
    inspectFault := ← j.optional "mincore" Json.integer? }

def script? {α : Type} (default : Script α) (read : Json → Option α) (j : Json) : Option (Script α) := do
  return (Script.ofList? (← (← j.items?).mapM read)).getD default

def node? (core : Core) (j : Json) : Option Node := do
  let base ← metadata? emptyFile j
  return {
    openFault := ← j.optional "open" Json.integer?
    described := ← j.fieldOr "fstat" (script? ⟨.ok base, []⟩ (answer? base)) ⟨.ok base, []⟩
    named := ← j.fieldOr "stat" (answer? base) (.ok base)
    closeFault := ← j.optional "close" Json.integer?
    core := ← j.fieldOr "core" core? core }

def textFile? (j : Json) : Option TextFile := do
  match ← j.optional "errno" Json.integer?, ← j.optional "hex" Json.bytes? with
  | some code, _ => return .error code
  | none, some bytes => return .ok bytes
  | none, none => return .ok (← (← j.field? "text").text?).toUTF8.toList

def number? (j : Json) : Option (Except ErrorCode Nat) := do
  match ← j.optional "errno" Json.integer? with
  | some code => return .error code
  | none => return .ok ((← (← j.field? "value").integer?) % 0x10000000000000000).toNat

def instant? : Json → Option (Option Instant)
  | .null => some none
  | j => do return some (← Instant.ofMicros? (← j.integer?))

def entries? {α : Type} (read : Json → Option α) (j : Json) : Option (List (String × α)) := do
  (← j.fields?).mapM fun (name, v) => return (name, ← read v)

def defaultCore? (j : Json) : Option Core := j.fieldOr "core" core? {}

def platform? (j : Json) : Option Platform := do
  return { name := ← j.fieldOr "platform" Json.text? "linux", family := ← j.fieldOr "os_name" Json.text? "posix" }

def memory : Int := 0x800000000

def machine? (j : Json) : Option Machine := do
  let core ← defaultCore? j
  let still : Script (Option Instant) := ⟨some Instant.epoch, []⟩
  let devices ← j.fieldOr "ioctl" (entries? number?) []
  return {
    files := ← j.fieldOr "files" (entries? (node? core)) []
    texts := ← j.fieldOr "texts" (entries? textFile?) []
    environment := ← j.fieldOr "env" (entries? Json.text?) []
    platform := ← platform? j
    devices := ← devices.mapM fun (request, answer) => return (← Numeral.natural? request.toList, answer)
    clock := ← j.fieldOr "clock" (script? still instant?) still
    memory := memory
    nullEnded := false }

end Snapshot

end PageCache
