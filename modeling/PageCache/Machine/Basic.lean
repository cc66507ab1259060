import PageCache.Fault
import PageCache.PageStatus
import PageCache.Script
/-!
The machine on which files are probed: what its files, devices and clock answer, the descriptors that are
open, and the calls made so far.
-/

namespace PageCache

structure Metadata where
  mode : Int
  size : Int
  mtime : FileTime
  deriving DecidableEq

def Metadata.kind (m : Metadata) : Except Fault FileKind := (FileKind.ofMode m.mode).mapError .mode

/-- How the pages of a file answer: the status bytes, repeated over the range, and the calls that fail. -/
structure Core where
  status : List UInt8 := [1]
  mapFault : Option ErrorCode := none
  inspectFault : Option ErrorCode := none
  deriving DecidableEq

/-- A file, by its answers; `described` answers by descriptor in turn, `named` by path. -/
structure Node where
  openFault : Option ErrorCode
  described : Script (Except ErrorCode Metadata)
  named : Except ErrorCode Metadata
  closeFault : Option ErrorCode
  core : Core

abbrev TextFile := Except ErrorCode (List UInt8)

structure Platform where
  name : String
  family : String
  deriving DecidableEq

inductive Access where
  | plain
  | nonblocking
  deriving DecidableEq

inductive Call where
  | open (path : String) (access : Access)
  | fstat (descriptor : Nat)
  | stat (path : String)
  | close (descriptor : Nat)
  | now
  | ioctl (descriptor : Int) (request size : Nat)
  | mmap (descriptor : Nat) (length : Int)
  | mincore (length : Int) (pages : Nat)
  | munmap (length : Int)
  | read (path : String)
  | residency (descriptor : Nat) (length : Int)
  | capacity (descriptor : Int)
  | hook (descriptor : Nat) (label : String)
  deriving DecidableEq

structure Descriptor where
  number : Nat
  described : Script (Except ErrorCode Metadata)
  closeFault : Option ErrorCode
  core : Core

structure Machine where
  files : List (String × Node) := []
  texts : List (String × TextFile) := []
  environment : List (String × String) := []
  platform : Platform
  devices : List (Nat × Except ErrorCode Nat) := []
  clock : Script (Option Instant)
  /-- No vector of this many bytes can be had. -/
  memory : Int
  /-- Whether a path is handed over as a text that ends at its first null. -/
  nullEnded : Bool := true
  nextDescriptor : Nat := 3
  descriptors : List Descriptor := []
  calls : List Call := []
  /-- Numbers are given out in ascending order, so the next one is free. -/
  number_lt : ∀ d ∈ descriptors, d.number < nextDescriptor := by simp

namespace Machine

/-- A path can be handed over whole. -/
def Takes (m : Machine) (path : String) : Prop := m.nullEnded → '\x00' ∉ path.toList

instance (m : Machine) (path : String) : Decidable (m.Takes path) :=
  inferInstanceAs (Decidable (m.nullEnded → '\x00' ∉ path.toList))

def descriptor? (m : Machine) (number : Nat) : Option Descriptor := m.descriptors.find? (·.number == number)

def attach (m : Machine) (node : Node) : Machine :=
  { m with
    nextDescriptor := m.nextDescriptor + 1
    descriptors := m.descriptors ++ [⟨m.nextDescriptor, node.described, node.closeFault, node.core⟩]
    number_lt := by
      intro d hd
      rcases List.mem_append.1 hd with hd | hd
      · exact Nat.lt_succ_of_lt (m.number_lt d hd)
      · rw [List.mem_singleton.1 hd]
        exact Nat.lt_succ_self _ }

def detach (m : Machine) (number : Nat) : Machine :=
  { m with
    descriptors := m.descriptors.filter (·.number != number)
    number_lt := fun d hd => m.number_lt d (List.mem_filter.1 hd).1 }

def advance (m : Machine) (number : Nat) : Machine :=
  { m with
    descriptors := m.descriptors.map fun d =>
      if d.number = number then { d with described := d.described.advance } else d
    number_lt := by
      intro d hd
      obtain ⟨e, he, rfl⟩ := List.mem_map.1 hd
      have := m.number_lt e he
      split <;> exact this }

def setFile (m : Machine) (path : String) (node : Option Node) : Machine :=
  let others := m.files.filter (·.1 != path)
  { m with files := node.elim others fun n => (path, n) :: others }

end PageCache.Machine
