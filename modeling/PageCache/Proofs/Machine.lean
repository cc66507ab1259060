import PageCache.Machine.Calls
import PageCache.Proofs.Sequencing

/-! What each system call does to the machine, told by few changes of it: calls are noted, the clock
moves on, a descriptor is opened, moved on or given back. -/

namespace PageCache

open Sequencing

attribute [ext] Machine

def Node.advance (node : Node) : Node := { node with described := node.described.advance }

/-- A path that leads nowhere can neither be opened nor looked up. -/
def Node.missing : Node where
  openFault := some ErrorCode.noSuchFile
  described := ⟨.error ErrorCode.badDescriptor, []⟩
  named := .error ErrorCode.noSuchFile
  closeFault := none
  core := {}

def Node.descriptor (node : Node) (number : Nat) : Descriptor :=
  ⟨number, node.described, node.closeFault, node.core⟩

namespace Machine

def noting (m : Machine) (calls : List Call) : Machine := { m with calls := m.calls ++ calls }

def ticked (m : Machine) : Machine := { m with clock := m.clock.advance }

def spent (m : Machine) : Machine :=
  { m with
    nextDescriptor := m.nextDescriptor + 1
    number_lt := fun d hd => Nat.lt_succ_of_lt (m.number_lt d hd) }

def fileAt (m : Machine) (path : String) : Node := (m.files.lookup path).getD Node.missing

/-- What keeps a path from being opened. -/
def openingFault (m : Machine) (path : String) : Option Fault :=
  if m.Takes path then (m.fileAt path).openFault.map (.system <| .onPath · path)
  else some .embeddedNull

def deviceAnswer (m : Machine) (request size : Nat) : Except SystemError Nat :=
  match m.devices.lookup request with
  | none => .error (.plain ErrorCode.inappropriateRequest)
  | some (.error code) => .error (.plain code)
  | some (.ok value) => .ok (value % 1 <<< (8 * size))

/-- What a text file holds. -/
def textAt (m : Machine) (path : String) : Except SystemError (List UInt8) :=
  match m.texts.lookup path with
  | none => .error (.onPath ErrorCode.noSuchFile path)
  | some (.error code) => .error (.onPath code path)
  | some (.ok bytes) => .ok bytes

@[simp] lemma noting_nil (m : Machine) : m.noting [] = m := by simp [noting]

@[simp] lemma noting_noting (m : Machine) (a b : List Call) :
    (m.noting a).noting b = m.noting (a ++ b) := by
  simp [noting]

lemma noting_injective {m : Machine} {a b : List Call} (h : m.noting a = m.noting b) : a = b :=
  List.append_cancel_left (congrArg Machine.calls h)

section

variable (m : Machine) (calls : List Call) (number request size : Nat) (path : String)

@[simp] lemma ticked_noting : (m.noting calls).ticked = m.ticked.noting calls := rfl

@[simp] lemma advance_noting : (m.noting calls).advance number = (m.advance number).noting calls :=
  rfl

@[simp] lemma detach_noting : (m.noting calls).detach number = (m.detach number).noting calls := rfl

@[simp] lemma descriptor?_noting : (m.noting calls).descriptor? number = m.descriptor? number := rfl

@[simp] lemma files_noting : (m.noting calls).files = m.files := rfl

@[simp] lemma texts_noting : (m.noting calls).texts = m.texts := rfl

@[simp] lemma devices_noting : (m.noting calls).devices = m.devices := rfl

@[simp] lemma fileAt_noting : (m.noting calls).fileAt path = m.fileAt path := rfl

@[simp] lemma deviceAnswer_noting :
    (m.noting calls).deviceAnswer request size = m.deviceAnswer request size := rfl

end

variable (m : Machine) (node : Node)

@[simp] lemma descriptor?_attach :
    (m.attach node).descriptor? m.nextDescriptor = some (node.descriptor m.nextDescriptor) := by
  have older : m.descriptors.find? (·.number == m.nextDescriptor) = none := by
    rw [List.find?_eq_none]
    intro d hd
    simpa using Nat.ne_of_lt (m.number_lt d hd)
  simp [descriptor?, attach, Node.descriptor, List.find?_append, older]

@[simp] lemma advance_attach :
    (m.attach node).advance m.nextDescriptor = m.attach node.advance := by
  have older : m.descriptors.map (fun d =>
      if d.number = m.nextDescriptor then { d with described := d.described.advance } else d) =
      m.descriptors := by
    refine (List.map_congr_left ?_).trans (List.map_id _)
    intro d hd
    exact if_neg (Nat.ne_of_lt (m.number_lt d hd))
  ext1 <;> simp [advance, attach, Node.advance, older]

@[simp] lemma detach_attach : (m.attach node).detach m.nextDescriptor = m.spent := by
  have older : m.descriptors.filter (·.number != m.nextDescriptor) = m.descriptors := by
    rw [List.filter_eq_self]
    intro d hd
    simpa using Nat.ne_of_lt (m.number_lt d hd)
  ext1 <;> simp [detach, attach, spent, List.filter_append, older]

@[simp] lemma fileAt_attach (path : String) : (m.attach node).fileAt path = m.fileAt path := rfl

lemma run_note (c : Call) : (note c).run m = ((), m.noting [c]) := rfl

lemma run_faulting {α : Type} (x : Sys α) :
    (faulting x).run.run m = ((x.run.run m).1.mapError .system, (x.run.run m).2) := rfl

section

variable {m} {path : String} {access : Access}

lemma run_onPath {α : Type} {call : Sys α} (h : m.Takes path) :
    (onPath path call).run.run m = ((call.run.run m).1.mapError .system, (call.run.run m).2) := by
  simp only [onPath, run_bind, run_get, if_neg (not_not_intro h), run_faulting]

lemma run_onPath_refused {α : Type} {call : Sys α} (h : ¬m.Takes path) :
    (onPath path call).run.run m = (.error .embeddedNull, m) := by
  simp only [onPath, run_bind, run_get, if_pos h, run_throw]

/-- Machines with the same files that hand paths over the same way open the same paths. -/
lemma openingFault_congr {n : Machine} (hfiles : n.files = m.files)
    (hnullEnded : n.nullEnded = m.nullEnded) (path : String) :
    n.openingFault path = m.openingFault path := by
  have htakes : n.Takes path ↔ m.Takes path := by rw [Takes, Takes, hnullEnded]
  simp only [openingFault, fileAt, hfiles, htakes]

lemma takes_of_openingFault (h : m.openingFault path = none) :
    m.Takes path ∧ (m.fileAt path).openFault = none := by
  rw [openingFault] at h
  split at h
  · exact ⟨‹_›, Option.map_eq_none_iff.1 h⟩
  · cases h

lemma openingFault_eq_none_iff :
    m.openingFault path = none ↔ m.Takes path ∧ (m.fileAt path).openFault = none := by
  refine ⟨takes_of_openingFault, fun ⟨htakes, hfile⟩ => ?_⟩
  rw [openingFault, if_pos htakes, hfile]
  rfl

/-- A path that is not opened was refused, or a system error tells why. -/
lemma openingFault_cases {f : Fault} (h : m.openingFault path = some f) :
    (¬m.Takes path ∧ f = .embeddedNull) ∨
      m.Takes path ∧ ∃ code, (m.fileAt path).openFault = some code ∧ f = .system (.onPath code path) := by
  rw [openingFault] at h
  split at h
  · obtain ⟨code, hcode, rfl⟩ := Option.map_eq_some_iff.1 h
    exact .inr ⟨‹_›, code, hcode, rfl⟩
  · exact .inl ⟨‹_›, (Option.some.inj h).symm⟩

lemma openingFault_eq_embeddedNull_iff :
    m.openingFault path = some .embeddedNull ↔ ¬m.Takes path := by
  refine ⟨fun h => ?_, fun h => if_neg h⟩
  obtain ⟨hpath, -⟩ | ⟨-, code, -, hcode⟩ := openingFault_cases h
  · exact hpath
  · cases hcode

lemma run_openFile (h : m.openingFault path = none) :
    (openFile path access).run.run m =
      (.ok m.nextDescriptor, (m.attach (m.fileAt path)).noting [.open path access]) := by
  obtain ⟨htakes, hfile⟩ := takes_of_openingFault h
  rw [openFile, run_onPath htakes]
  simp only [run_bind, run_lift, run_note, run_get, files_noting]
  rw [fileAt] at hfile ⊢
  cases hnode : m.files.lookup path with
  | none =>
    rw [hnode] at hfile
    cases hfile
  | some node =>
    rw [hnode, Option.getD_some] at hfile
    simp only [hfile]
    rfl

lemma run_openFile_error {f : Fault} (h : m.openingFault path = some f) :
    (openFile path access).run.run m =
      (.error f, m.noting (if f = .embeddedNull then [] else [.open path access])) := by
  obtain ⟨hpath, rfl⟩ | ⟨htakes, code, hfile, rfl⟩ := openingFault_cases h
  · rw [openFile, run_onPath_refused hpath, if_pos rfl, noting_nil]
  · rw [openFile, run_onPath htakes, if_neg (by simp)]
    simp only [run_bind, run_lift, run_note, run_get, files_noting]
    rw [fileAt] at hfile
    cases hnode : m.files.lookup path with
    | none =>
      rw [hnode] at hfile
      cases hfile
      rfl
    | some node =>
      rw [hnode, Option.getD_some] at hfile
      simp only [hfile]
      rfl

lemma run_stat (h : m.Takes path) :
    (stat path).run.run m =
      ((m.fileAt path).named.mapError fun code => .system (.onPath code path),
        m.noting [.stat path]) := by
  rw [stat, run_onPath h]
  simp only [run_bind, run_lift, run_note, run_get, files_noting, fileAt]
  cases m.files.lookup path with
  | none => rfl
  | some node =>
    cases node with
    | mk _ _ named => cases named <;> rfl

lemma run_readText (h : m.Takes path) :
    (readText path).run.run m = ((m.textAt path).mapError .system, m.noting [.read path]) := by
  rw [readText, run_onPath h]
  simp only [run_bind, run_lift, run_note, run_get, texts_noting, textAt]
  rcases m.texts.lookup path with _ | _ | _ <;> rfl

end

lemma run_fstat (number : Nat) :
    (fstat number).run.run m =
      match m.descriptor? number with
      | none => (.error (.plain ErrorCode.badDescriptor), m.noting [.fstat number])
      | some d =>
        (d.described.head.mapError .plain, (m.advance number).noting [.fstat number]) := by
  simp only [fstat, run_bind, run_lift, run_note, run_get, descriptor?_noting]
  cases m.descriptor? number with
  | none => rfl
  | some d =>
    simp only [run_bind, run_modify, advance_noting]
    cases d.described.head <;> rfl

lemma run_close (number : Nat) :
    (close number).run.run m =
      match m.descriptor? number with
      | none => (.error (.plain ErrorCode.badDescriptor), m.noting [.close number])
      | some d =>
        (d.closeFault.elim (.ok ()) (.error <| .plain ·), (m.detach number).noting [.close number]) := by
  simp only [close, run_bind, run_lift, run_note, run_get, descriptor?_noting]
  cases m.descriptor? number with
  | none => rfl
  | some d =>
    simp only [run_bind, run_modify, detach_noting]
    cases d.closeFault <;> rfl

lemma run_now : now.run m = (m.clock.head, m.ticked.noting [.now]) := rfl

lemma run_ioctl (number : Int) (request size : Nat) :
    (ioctl number request size).run.run m =
      (m.deviceAnswer request size, m.noting [.ioctl number request size]) := by
  simp only [ioctl, run_bind, run_lift, run_note, run_get, devices_noting, deviceAnswer]
  rcases m.devices.lookup request with _ | _ | _ <;> rfl

lemma run_mmap (number : Nat) (length : Int) :
    (mmap number length).run.run m =
      match m.descriptor? number with
      | none => (.error (.mapping .mmap ErrorCode.badDescriptor), m.noting [.mmap number length])
      | some d =>
        (d.core.mapFault.elim (.ok d.core) (.error <| .mapping .mmap ·),
          m.noting [.mmap number length]) := by
  simp only [mmap, run_bind, run_lift, run_note, run_get, descriptor?_noting]
  cases m.descriptor? number with
  | none => rfl
  | some d => cases h : d.core.mapFault <;> simp only [h] <;> rfl

lemma run_mincore (core : Core) (length : Int) (pages : Nat) :
    (mincore core length pages).run.run m =
      (core.inspectFault.elim (.ok ⟨core.status, pages⟩) (.error <| .mapping .mincore ·),
        m.noting [.mincore length pages]) := by
  simp only [mincore, run_bind, run_lift, run_note]
  cases core.inspectFault <;> rfl

end Machine

end PageCache
