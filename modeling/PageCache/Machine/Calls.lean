import PageCache.Machine.Basic
/-!
The system calls. Each is noted before it is answered, so failed calls stand among the others. A path that cannot be
handed over is refused before there is a call.
-/

namespace PageCache

/-- A computation on a machine that may end in a system error; what it changed stays changed. -/
abbrev Sys := ExceptT SystemError (StateM Machine)

namespace Machine

def note (c : Call) : StateM Machine Unit := modify fun m => { m with calls := m.calls ++ [c] }

def faulting {α : Type} (x : Sys α) : ExceptT Fault (StateM Machine) α := x.adapt Fault.system

/-- A call on a path, if the path can be handed over. -/
def onPath {α : Type} (path : String) (call : Sys α) : ExceptT Fault (StateM Machine) α := do
  if ¬(← get).Takes path then throw .embeddedNull
  faulting call

def openFile (path : String) (access : Access) : ExceptT Fault (StateM Machine) Nat := onPath path do
  note (.open path access)
  match (← get).files.lookup path with
  | none => throw (.onPath ErrorCode.noSuchFile path)
  | some node =>
    match node.openFault with
    | some code => throw (.onPath code path)
    | none => modifyGet fun m => (m.nextDescriptor, m.attach node)

def fstat (number : Nat) : Sys Metadata := do
  note (.fstat number)
  match (← get).descriptor? number with
  | none => throw (.plain ErrorCode.badDescriptor)
  | some d =>
    modify (·.advance number)
    match d.described.head with
    | .error code => throw (.plain code)
    | .ok metadata => return metadata

def stat (path : String) : ExceptT Fault (StateM Machine) Metadata := onPath path do
  note (.stat path)
  match (← get).files.lookup path with
  | none => throw (.onPath ErrorCode.noSuchFile path)
  | some node =>
    match node.named with
    | .error code => throw (.onPath code path)
    | .ok metadata => return metadata

/-- The descriptor is given back even if closing reports an error. -/
def close (number : Nat) : Sys Unit := do
  note (.close number)
  match (← get).descriptor? number with
  | none => throw (.plain ErrorCode.badDescriptor)
  | some d =>
    modify (·.detach number)
    match d.closeFault with
    | some code => throw (.plain code)
    | none => return

def now : StateM Machine (Option Instant) := do
  note .now
  modifyGet fun m => (m.clock.head, { m with clock := m.clock.advance })

/-- Asks a device for a number, which comes back in a buffer of `size` bytes. The devices answer by the request
alone, on whatever descriptor. -/
def ioctl (number : Int) (request size : Nat) : Sys Nat := do
  note (.ioctl number request size)
  match (← get).devices.lookup request with
  | none => throw (.plain ErrorCode.inappropriateRequest)
  | some (.error code) => throw (.plain code)
  | some (.ok value) => return value % 1 <<< (8 * size)

/-- Maps the start of a file. The mapping is told by the pages behind it. -/
def mmap (number : Nat) (length : Int) : Sys Core := do
  note (.mmap number length)
  match (← get).descriptor? number with
  | none => throw (.mapping .mmap ErrorCode.badDescriptor)
  | some d =>
    match d.core.mapFault with
    | some code => throw (.mapping .mmap code)
    | none => return d.core

def mincore (core : Core) (length : Int) (pages : Nat) : Sys PageStatus := do
  note (.mincore length pages)
  match core.inspectFault with
  | some code => throw (.mapping .mincore code)
  | none => return ⟨core.status, pages⟩

def munmap (length : Int) : StateM Machine Unit := note (.munmap length)

def readText (path : String) : ExceptT Fault (StateM Machine) (List UInt8) := onPath path do
  note (.read path)
  match (← get).texts.lookup path with
  | none => throw (.onPath ErrorCode.noSuchFile path)
  | some (.error code) => throw (.onPath code path)
  | some (.ok bytes) => return bytes

end PageCache.Machine
