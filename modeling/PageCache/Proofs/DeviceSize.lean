import Mathlib.Algebra.Group.Nat.Defs
import PageCache.DeviceSize
import PageCache.Proofs.Machine

/-! What device size queries answer, and the calls that they take. -/

namespace PageCache.DeviceSize

open Sequencing Machine

def answer (d : DeviceSize) (m : Machine) : Except Fault Int :=
  match d with
  | .linux => do return (← (m.deviceAnswer sizeRequest 8).mapError .system : Nat)
  | .darwin => do
    let size ← (m.deviceAnswer blockSizeRequest 4).mapError .system
    let count ← (m.deviceAnswer blockCountRequest 8).mapError .system
    return (size * count : Nat)
  | .unsupported => .error (.system (.unsupported .deviceSize m.platform.name))
  | .scripted answers => answers.head

/-- The blocks are not counted unless their size is known. -/
def calls (d : DeviceSize) (m : Machine) (number : Int) : List Call :=
  match d with
  | .linux => [.ioctl number sizeRequest 8]
  | .darwin =>
    match m.deviceAnswer blockSizeRequest 4 with
    | .error _ => [.ioctl number blockSizeRequest 4]
    | .ok _ => [.ioctl number blockSizeRequest 4, .ioctl number blockCountRequest 8]
  | .unsupported => []
  | .scripted _ => [.capacity number]

lemma answer_error {p : Platform} {m : Machine} {f : Fault}
    (h : (ofPlatform p).answer m = .error f) :
    ∃ e, f = .system e := by
  rw [ofPlatform] at h
  split at h
  · rw [answer] at h
    cases hsize : m.deviceAnswer sizeRequest 8 with
    | error e =>
      rw [hsize] at h
      cases h
      exact ⟨e, rfl⟩
    | ok size =>
      rw [hsize] at h
      cases h
  · split at h
    · rw [answer] at h
      cases hsize : m.deviceAnswer blockSizeRequest 4 with
      | error e =>
        rw [hsize] at h
        cases h
        exact ⟨e, rfl⟩
      | ok size =>
        rw [hsize] at h
        cases hcount : m.deviceAnswer blockCountRequest 8 with
        | error e =>
          rw [hcount] at h
          cases h
          exact ⟨e, rfl⟩
        | ok count =>
          rw [hcount] at h
          cases h
    · cases h
      exact ⟨_, rfl⟩

lemma mem_calls {d : DeviceSize} {m : Machine} {number : Int} {c : Call}
    (h : c ∈ d.calls m number) :
    (∃ request size, c = .ioctl number request size) ∨ c = .capacity number := by
  cases d with
  | linux => exact .inl ⟨_, _, List.mem_singleton.1 h⟩
  | darwin =>
    rw [calls] at h
    split at h
    · exact .inl ⟨_, _, List.mem_singleton.1 h⟩
    · obtain h | h := List.mem_cons.1 h
      · exact .inl ⟨_, _, h⟩
      · exact .inl ⟨_, _, List.mem_singleton.1 h⟩
  | unsupported => exact absurd h List.not_mem_nil
  | scripted answers => exact .inr (List.mem_singleton.1 h)

lemma run_query (d : DeviceSize) (m : Machine) (number : Int) :
    (d.query number).run.run m = (d.answer m, m.noting (d.calls m number)) := by
  cases d with
  | linux =>
    simp only [query, run_bind, run_faulting, run_ioctl, answer, calls]
    cases m.deviceAnswer sizeRequest 8 <;> rfl
  | darwin =>
    simp only [query, run_bind, run_faulting, run_ioctl, answer, calls]
    cases m.deviceAnswer blockSizeRequest 4 with
    | error e => rfl
    | ok size =>
      simp only [mapError_ok, deviceAnswer_noting, noting_noting, List.singleton_append]
      cases m.deviceAnswer blockCountRequest 8 <;> rfl
  | unsupported =>
    simp only [query, run_bind, run_get, answer, calls, noting_nil]
    rfl
  | scripted answers =>
    simp only [query, run_bind, run_lift, run_note, run_liftExcept, answer, calls]

lemma deviceAnswer_lt {m : Machine} {request size value : Nat}
    (h : m.deviceAnswer request size = .ok value) : value < 2 ^ (8 * size) := by
  rw [deviceAnswer] at h
  split at h
  · cases h
  · cases h
  · obtain rfl := Except.ok.inj h
    rw [Nat.one_shiftLeft]
    exact Nat.mod_lt _ (Nat.two_pow_pos _)

/-- What the query of its platform comes to on a machine, and the requests that it makes. -/
inductive Answered (m : Machine) (number : Int) : Except Fault Int → List Call → Prop
  | linux {size : Nat} {after : Machine} (hname : "linux".toList <+: m.platform.name.toList)
      (hsize : (ioctl number 0x80081272 8).run.run m = (.ok size, after)) (hlt : size < 2 ^ 64) :
      Answered m number (.ok size) [.ioctl number 0x80081272 8]
  | linuxRefused {e : SystemError} {after : Machine}
      (hname : "linux".toList <+: m.platform.name.toList)
      (hsize : (ioctl number 0x80081272 8).run.run m = (.error e, after)) :
      Answered m number (.error (.system e)) [.ioctl number 0x80081272 8]
  | darwin {size count : Nat} {sized after : Machine} (hname : m.platform.name = "darwin")
      (hsize : (ioctl number 0x40046418 4).run.run m = (.ok size, sized)) (hsize_lt : size < 2 ^ 32)
      (hcount : (ioctl number 0x40086419 8).run.run sized = (.ok count, after))
      (hcount_lt : count < 2 ^ 64) :
      Answered m number (.ok ((size : Int) * count))
        [.ioctl number 0x40046418 4, .ioctl number 0x40086419 8]
  | darwinUncounted {size : Nat} {e : SystemError} {sized after : Machine}
      (hname : m.platform.name = "darwin")
      (hsize : (ioctl number 0x40046418 4).run.run m = (.ok size, sized))
      (hcount : (ioctl number 0x40086419 8).run.run sized = (.error e, after)) :
      Answered m number (.error (.system e))
        [.ioctl number 0x40046418 4, .ioctl number 0x40086419 8]
  | darwinRefused {e : SystemError} {after : Machine} (hname : m.platform.name = "darwin")
      (hsize : (ioctl number 0x40046418 4).run.run m = (.error e, after)) :
      Answered m number (.error (.system e)) [.ioctl number 0x40046418 4]
  | unsupported (hlinux : ¬"linux".toList <+: m.platform.name.toList)
      (hdarwin : m.platform.name ≠ "darwin") :
      Answered m number (.error (.system (.unsupported .deviceSize m.platform.name))) []

lemma answered_linux {m : Machine} (hname : "linux".toList <+: m.platform.name.toList) (number : Int) :
    Answered m number (linux.answer m) (linux.calls m number) := by
  have hrun := run_ioctl m number sizeRequest 8
  rw [answer, calls]
  cases hsize : m.deviceAnswer sizeRequest 8 with
  | error e => exact .linuxRefused hname (hsize ▸ hrun)
  | ok size => exact .linux hname (hsize ▸ hrun) (deviceAnswer_lt hsize)

lemma answered_darwin {m : Machine} (hname : m.platform.name = "darwin") (number : Int) :
    Answered m number (darwin.answer m) (darwin.calls m number) := by
  have hrun := run_ioctl m number blockSizeRequest 4
  rw [answer, calls]
  cases hsize : m.deviceAnswer blockSizeRequest 4 with
  | error e => exact .darwinRefused hname (hsize ▸ hrun)
  | ok size =>
    have hnext := run_ioctl (m.noting [.ioctl number blockSizeRequest 4]) number blockCountRequest 8
    rw [deviceAnswer_noting] at hnext
    cases hcount : m.deviceAnswer blockCountRequest 8 with
    | error e => exact .darwinUncounted hname (hsize ▸ hrun) (hcount ▸ hnext)
    | ok count =>
      exact .darwin hname (hsize ▸ hrun) (deviceAnswer_lt hsize) (hcount ▸ hnext)
        (deviceAnswer_lt hcount)

lemma ofPlatform_eq_unsupported {p : Platform} (hlinux : ¬"linux".toList <+: p.name.toList)
    (hdarwin : p.name ≠ "darwin") : ofPlatform p = .unsupported := by
  rw [ofPlatform, if_neg fun h => hlinux (List.isPrefixOf_iff_prefix.1 h), if_neg hdarwin]

lemma answered_ofPlatform (m : Machine) (number : Int) :
    Answered m number ((ofPlatform m.platform).answer m) ((ofPlatform m.platform).calls m number) := by
  rw [ofPlatform]
  split
  · rename_i hlinux
    exact answered_linux (List.isPrefixOf_iff_prefix.1 hlinux) number
  · rename_i hlinux
    split
    · rename_i hdarwin
      exact answered_darwin hdarwin number
    · rename_i hdarwin
      exact .unsupported (fun h => hlinux (List.isPrefixOf_iff_prefix.2 h)) hdarwin

/-- A query does not depend on what is open. -/
lemma run_query_attach (d : DeviceSize) (m : Machine) (node : Node) (earlier : List Call)
    (number : Int) :
    (d.query number).run.run ((m.attach node).noting earlier) =
      (d.answer m, (m.attach node).noting (earlier ++ d.calls m number)) := by
  have hanswer : d.answer ((m.attach node).noting earlier) = d.answer m := by cases d <;> rfl
  have hcalls : d.calls ((m.attach node).noting earlier) number = d.calls m number := by
    cases d <;> rfl
  rw [run_query, hanswer, hcalls, noting_noting]

end PageCache.DeviceSize
