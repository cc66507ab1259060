import PageCache.Machine.Calls
import PageCache.Record
/-!
Residency: which pages at the start of an open file are in the page cache. A file is mapped without being
touched, the system is asked for one status byte per page, and the mapping is released in any case.
-/

namespace PageCache

/-- The least number of pages that covers `length` bytes, for a positive page size. -/
def pageCount (length pageSize : Int) : Except Fault Int :=
  if pageSize = 0 then .error .divisionByZero else .ok ((length + pageSize - 1).fdiv pageSize)

inductive Residency where
  | mincore (pageSize : Int)
  | unsupported
  | scripted (answers : Script (Except Fault (Option Report)))

namespace Residency

def defaultPageSize : Int := 4096

def ofPlatform (p : Platform) : Residency := if p.family = "posix" then .mincore defaultPageSize else .unsupported

def vectorLength (memory count : Int) : Except Fault Nat :=
  if count < -0x8000000000000000 ∨ 0x8000000000000000 ≤ count then .error .countTooLarge
  else if count < 0 then .error (.negativeCount count)
  else if memory ≤ count then .error .outOfMemory
  else .ok count.toNat

def vectorPages (memory length pageSize : Int) : Except Fault Nat :=
  pageCount length pageSize >>= vectorLength memory

def inspect (core : Core) (length pageSize : Int) : ExceptT Fault (StateM Machine) Report := do
  let pages ← liftExcept (vectorPages (← get).memory length pageSize)
  let status ← Machine.faulting (Machine.mincore core length pages)
  return ⟨status.resident, (status.pages : Int) - status.resident⟩

def releasing {α : Type} (length : Int) (x : ExceptT Fault (StateM Machine) α) :
    ExceptT Fault (StateM Machine) α := ExceptT.mk do
  let outcome ← x.run
  Machine.munmap length
  return outcome

/-- An empty range has no report and needs no call. -/
def ofMapping (number : Nat) (length pageSize : Int) : ExceptT Fault (StateM Machine) (Option Report) := do
  if length ≤ 0 then return none
  let core ← Machine.faulting (Machine.mmap number length)
  return some (← releasing length (inspect core length pageSize))

def query (r : Residency) (number : Nat) (length : Int) : ExceptT Fault (StateM Machine) (Option Report) :=
  match r with
  | .mincore pageSize => ofMapping number length pageSize
  | .unsupported => do
    if length ≤ 0 then return none
    throw (.system (.unsupported .residency (← get).platform.name))
  | .scripted answers => do
    Machine.note (.residency number length)
    liftExcept answers.head

def next : Residency → Residency
  | .scripted answers => .scripted answers.advance
  | r => r

end Residency

end PageCache
