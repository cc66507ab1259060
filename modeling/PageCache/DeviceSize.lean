import PageCache.Machine.Calls
/-!
The size of a block device, which its metadata do not tell: the device itself is asked.
-/

namespace PageCache

inductive DeviceSize where
  | linux
  | darwin
  | unsupported
  | scripted (answers : Script (Except Fault Int))

namespace DeviceSize

/-- The size in bytes, as a word of eight bytes. -/
def sizeRequest : Nat := 0x80081272

/-- The size of a block, as a word of four bytes. -/
def blockSizeRequest : Nat := 0x40046418

/-- The number of blocks, as a word of eight bytes. -/
def blockCountRequest : Nat := 0x40086419

def ofPlatform (p : Platform) : DeviceSize :=
  if "linux".toList.isPrefixOf p.name.toList then .linux
  else if p.name = "darwin" then .darwin
  else .unsupported

def query (d : DeviceSize) (number : Int) : ExceptT Fault (StateM Machine) Int :=
  match d with
  | .linux => do return (← Machine.faulting (Machine.ioctl number sizeRequest 8) : Nat)
  | .darwin => do
    let size ← Machine.faulting (Machine.ioctl number blockSizeRequest 4)
    let count ← Machine.faulting (Machine.ioctl number blockCountRequest 8)
    return (size * count : Nat)
  | .unsupported => do throw (.system (.unsupported .deviceSize (← get).platform.name))
  | .scripted answers => do
    Machine.note (.capacity number)
    liftExcept answers.head

def next : DeviceSize → DeviceSize
  | .scripted answers => .scripted answers.advance
  | d => d

end DeviceSize

end PageCache
