import PageCache.Proofs.MappedFiles
import PageCache.Proofs.Probe.Course
import PageCache.Proofs.Probe.Mishaps
import PageCache.Service.App

/-! Every descriptor that is opened is closed again, and nothing is called on it before or behind.
The calls of a run are told by a grammar of such brackets, which the runs of any number of probes
keep. -/

namespace PageCache

open Sequencing

namespace Call

def descriptor? : Call → Option Int
  | .fstat number | .close number | .mmap number _ | .residency number _ | .hook number _ =>
    some number
  | .ioctl number _ _ | .capacity number => some number
  | .open _ _ | .stat _ | .now | .mincore _ _ | .munmap _ | .read _ => none

/-- A call on an open descriptor that leaves it open. -/
def Uses (number : Nat) (c : Call) : Prop := c.descriptor? = some (number : Int) ∧ c ≠ .close number

def Aside (c : Call) : Prop := c.descriptor? = none ∧ ∀ path access, c ≠ .open path access

lemma Uses.not_aside {number : Nat} {c : Call} (h : c.Uses number) : ¬c.Aside := by
  intro haside
  have hnone := haside.1.symm.trans h.1
  cases hnone

end Call

/-- The calls that start when `first` is the next descriptor, and end when `last` is. -/
inductive Bracketed (opens : String → Bool) : Nat → List Call → Nat → Prop
  | done (first : Nat) : Bracketed opens first [] first
  | aside {first last : Nat} {c : Call} {calls : List Call} (hc : c.Aside)
      (h : Bracketed opens first calls last) :
    Bracketed opens first (c :: calls) last
  | refused {first last : Nat} {path : String} {access : Access} {calls : List Call}
      (hpath : opens path = false)
    (h : Bracketed opens first calls last) : Bracketed opens first (.open path access :: calls) last
  | opened {first last : Nat} {path : String} {access : Access} {body calls : List Call}
      (hpath : opens path = true)
    (hbody : ∀ c ∈ body, c.Uses first ∨ c.Aside) (h : Bracketed opens (first + 1) calls last) :
    Bracketed opens first (.open path access :: body ++ .close first :: calls) last

namespace Bracketed

variable {opens : String → Bool} {first middle last : Nat} {calls later : List Call}

lemma append (h : Bracketed opens first calls middle) (hlater : Bracketed opens middle later last) :
    Bracketed opens first (calls ++ later) last := by
  induction h with
  | done _ => exact hlater
  | aside hc _ ih => exact .aside hc (ih hlater)
  | refused hpath _ ih => exact .refused hpath (ih hlater)
  | opened hpath hbody _ ih =>
    rw [List.append_assoc, List.cons_append]
    exact .opened hpath hbody (ih hlater)

lemma of_aside (h : ∀ c ∈ calls, c.Aside) : Bracketed opens first calls first := by
  induction calls with
  | nil => exact .done first
  | cons c calls ih =>
    exact .aside (h c List.mem_cons_self) (ih fun d hd => h d (List.mem_cons_of_mem c hd))

lemma le_of_descriptor? (h : Bracketed opens first calls last) {c : Call} (hc : c ∈ calls) {d : Int}
    (hd : c.descriptor? = some d) : first ≤ d := by
  induction h with
  | done _ => cases hc
  | aside haside _ ih =>
    obtain rfl | hc := List.mem_cons.1 hc
    · simp [haside.1] at hd
    · exact ih hc
  | refused _ _ ih =>
    obtain rfl | hc := List.mem_cons.1 hc
    · cases hd
    · exact ih hc
  | @opened first last path access body calls hpath hbody _ ih =>
    rw [List.cons_append, List.mem_cons, List.mem_append, List.mem_cons] at hc
    obtain rfl | hc | rfl | hc := hc
    · cases hd
    · obtain huses | haside := hbody c hc
      · rw [huses.1, Option.some.injEq] at hd
        omega
      · simp [haside.1] at hd
    · rw [Call.descriptor?, Option.some.injEq] at hd
      omega
    · have := ih hc
      omega

end Bracketed

/-- Between the calls before and the calls behind, the descriptor is open; and elsewhere nothing is
called on it. -/
def Enclosed (number : Nat) (before behind : List Call) : Prop :=
  ∃ earlier path access inner rest later,
    before = earlier ++ .open path access :: inner ∧ behind = rest ++ .close number :: later ∧
      (∀ e ∈ inner ++ rest, e.Uses number ∨ e.Aside) ∧
      ∀ e ∈ earlier ++ later, e.descriptor? ≠ some (number : Int)

lemma Enclosed.append {number : Nat} {before behind : List Call} (h : Enclosed number before behind)
    (front : List Call) (hfront : ∀ e ∈ front, e.descriptor? ≠ some (number : Int)) :
    Enclosed number (front ++ before) behind := by
  obtain ⟨earlier, path, access, inner, rest, later, rfl, hbehind, hinner, hlater⟩ := h
  refine ⟨front ++ earlier, path, access, inner, rest, later, (List.append_assoc ..).symm, hbehind,
    hinner, ?_⟩
  intro e he
  rw [List.append_assoc, List.mem_append] at he
  obtain he | he := he
  · exact hfront e he
  · exact hlater e he

namespace Bracketed

variable {opens : String → Bool} {first last number : Nat} {calls before behind : List Call} {c : Call}

/-- A call on a descriptor stands between the opening and the closing of it, and no other call on it
stands outside. -/
theorem enclosed (h : Bracketed opens first calls last) (hcalls : calls = before ++ c :: behind)
    (hc : c.Uses number) : Enclosed number before behind := by
  induction h generalizing before with
  | done _ => simp at hcalls
  | @aside first last d calls haside _ ih =>
    obtain ⟨rfl, hhead⟩ | ⟨before, rfl, htail⟩ := List.cons_eq_append_iff.1 hcalls
    · obtain ⟨rfl, -⟩ := List.cons.inj hhead
      exact absurd haside hc.not_aside
    · apply (ih htail).append [d]
      intro e he
      rw [List.mem_singleton.1 he, haside.1]
      simp
  | @refused first last path access calls _ _ ih =>
    obtain ⟨rfl, hhead⟩ | ⟨before, rfl, htail⟩ := List.cons_eq_append_iff.1 hcalls
    · obtain ⟨rfl, -⟩ := List.cons.inj hhead
      cases hc.1
    · apply (ih htail).append [.open path access]
      intro e he
      rw [List.mem_singleton.1 he]
      simp [Call.descriptor?]
  | @opened first last path access body calls _ hbody hrest ih =>
    rw [List.cons_append] at hcalls
    obtain ⟨rfl, hhead⟩ | ⟨before, rfl, htail⟩ := List.cons_eq_append_iff.1 hcalls
    · obtain ⟨rfl, -⟩ := List.cons.inj hhead
      cases hc.1
    · have hnotClose : c ≠ .close first := by
        rintro rfl
        have heq : (first : Int) = number := Option.some.inj hc.1
        exact hc.2 (by rw [Int.ofNat.inj heq])
      obtain ⟨rest, rfl, hrest'⟩ | ⟨rest, rfl, hrest'⟩ := List.append_eq_append_iff.1 htail
      · obtain ⟨rfl, hhead⟩ | ⟨rest, rfl, hhead⟩ := List.cons_eq_append_iff.1 hrest'
        · exact absurd (List.cons.inj hhead).1 hnotClose
        · have hnumber : ((first + 1 : Nat) : Int) ≤ number := by
            refine hrest.le_of_descriptor? ?_ hc.1
            simp [hhead]
          have hother : ∀ e ∈ Call.open path access :: body ++ [.close first],
              e.descriptor? ≠ some (number : Int) := by
            intro e he hd
            rw [List.cons_append, List.mem_cons, List.mem_append, List.mem_singleton] at he
            obtain rfl | he | rfl := he
            · cases hd
            · obtain huses | haside := hbody e he
              · have := Option.some.inj (huses.1.symm.trans hd)
                omega
              · cases haside.1.symm.trans hd
            · have : (first : Int) = number := Option.some.inj hd
              omega
          have henclosed := (ih hhead).append _ hother
          rwa [List.append_assoc] at henclosed
      · obtain ⟨rfl, hhead⟩ | ⟨rest, rfl, hhead⟩ := List.cons_eq_append_iff.1 hrest'
        · exact absurd (List.cons.inj hhead).1.symm hnotClose
        · have huses : c.Uses first := (hbody c (by simp)).resolve_right hc.not_aside
          obtain rfl : first = number := Int.ofNat.inj (Option.some.inj (huses.1.symm.trans hc.1))
          refine ⟨[], path, access, before, rest, calls, rfl, hhead, ?_, ?_⟩
          · intro e he
            apply hbody e
            rw [List.mem_append] at he ⊢
            exact he.imp_right (List.mem_cons_of_mem c)
          · intro e he hd
            have := hrest.le_of_descriptor? he hd
            omega

end Bracketed

def Machine.opens (m : Machine) (path : String) : Bool := (m.openingFault path).isNone

namespace Session

/-- A session behind another one: no file is another, no descriptor is left open, and the calls in
between are brackets. -/
structure Follows (s t : Session) : Prop where
  files : t.machine.files = s.machine.files
  nullEnded : t.machine.nullEnded = s.machine.nullEnded
  descriptors : t.machine.descriptors = s.machine.descriptors
  calls : ∃ calls, t.machine.calls = s.machine.calls ++ calls ∧
    Bracketed s.machine.opens s.machine.nextDescriptor calls t.machine.nextDescriptor

namespace Follows

variable {s t u : Session}

lemma refl (s : Session) : s.Follows s := ⟨rfl, rfl, rfl, [], (List.append_nil _).symm, .done _⟩

lemma opens_eq (h : s.Follows t) : t.machine.opens = s.machine.opens := by
  funext path
  rw [Machine.opens, Machine.opens, Machine.openingFault_congr h.files h.nullEnded]

lemma trans (h : s.Follows t) (hu : t.Follows u) : s.Follows u := by
  obtain ⟨calls, hcalls, hbracketed⟩ := h.calls
  obtain ⟨later, hlater, hthen⟩ := hu.calls
  rw [h.opens_eq] at hthen
  refine ⟨hu.files.trans h.files, hu.nullEnded.trans h.nullEnded,
    hu.descriptors.trans h.descriptors, calls ++ later, ?_, hbracketed.append hthen⟩
  rw [hlater, hcalls, List.append_assoc]

lemma enclosed (h : s.Follows t) {before behind : List Call} {c : Call} {number : Nat}
    (hcalls : t.machine.calls = s.machine.calls ++ (before ++ c :: behind)) (hc : c.Uses number) :
    Enclosed number before behind := by
  obtain ⟨calls, hbetween, hbracketed⟩ := h.calls
  exact hbracketed.enclosed (List.append_cancel_left (hbetween.symm.trans hcalls)) hc

end Follows

/-- Wherever a computation starts, its session in the end follows the one in the beginning. -/
def Keeps {α : Type} (x : StateM Session α) : Prop := ∀ s : Session, s.Follows (x.run s).2

lemma keeps_pure {α : Type} (v : α) : Keeps (pure v) := fun s => .refl s

lemma keeps_get : Keeps get := fun s => .refl s

lemma Keeps.bind {α β : Type} {x : StateM Session α} {f : α → StateM Session β} (hx : Keeps x)
    (hf : ∀ v, Keeps (f v)) : Keeps (x >>= f) :=
  fun s => (hx s).trans (hf (x.run s).1 (x.run s).2)

lemma keeps_onMachine {α : Type} {x : StateM Machine α}
    (h : ∀ m, ∃ calls, (x.run m).2 = m.noting calls ∧ ∀ c ∈ calls, c.Aside) : Keeps (onMachine x) := by
  intro s
  obtain ⟨calls, hcalls, haside⟩ := h s.machine
  have hmachine : ((onMachine x).run s).2.machine = s.machine.noting calls := hcalls
  refine ⟨?_, ?_, ?_, calls, ?_, ?_⟩ <;> rw [hmachine]
  · rfl
  · rfl
  · rfl
  · rfl
  · exact .of_aside haside

section

variable (s : Session) (filter : Filter) (path : String)

lemma within_of_mem_stepCalls {k : Step} (hk : k ≠ .opening) {c : Call}
    (h : c ∈ (s.answers filter path).stepCalls k) :
    c.Uses s.machine.nextDescriptor ∨ c.Aside := by
  cases makes_of_mem h with
  | opening => exact absurd rfl hk
  | inspection | stamp | mincore | munmap => exact .inr ⟨rfl, fun _ _ => Call.noConfusion⟩
  | _ => exact .inl ⟨rfl, Call.noConfusion⟩

lemma bracketed_calls :
    Bracketed s.machine.opens s.machine.nextDescriptor (s.answers filter path).calls
      (if (s.answers filter path).opening = none then s.machine.nextDescriptor + 1
        else s.machine.nextDescriptor) := by
  have hopens : s.machine.opens path = (s.answers filter path).opening.isNone := rfl
  cases hopening : (s.answers filter path).opening with
  | some f =>
    rw [Answers.calls_of_refused _ hopening, if_neg (Option.some_ne_none f)]
    split
    · exact .done _
    · refine .refused ?_ (.done _)
      exact hopens.trans (by rw [hopening]; rfl)
  | none =>
    obtain ⟨body, hcalls, hbody⟩ := Answers.calls_of_opened hopening
    rw [hcalls, if_pos rfl]
    refine .opened ?_ ?_ (.done _)
    · exact hopens.trans (by rw [hopening]; rfl)
    · intro c hc
      obtain ⟨k, hk, hck⟩ := hbody c hc
      exact within_of_mem_stepCalls s filter path hk hck

theorem keeps_probe : Keeps (probe filter path).run := by
  intro s
  have hrun : ((probe filter path).run.run s).2 = s.after (s.answers filter path) := by
    rw [run_probe]
  obtain ⟨clock, hmachine⟩ := s.machine_after (s.answers filter path)
  have hbracketed := s.bracketed_calls filter path
  rw [hrun]
  refine ⟨?_, ?_, ?_, (s.answers filter path).calls, ?_, ?_⟩
  · rw [hmachine]
    split <;> rfl
  · rw [hmachine]
    split <;> rfl
  · rw [hmachine]
    split <;> rfl
  · exact s.calls_after _
  · rw [hmachine]
    split at hbracketed
    · rw [if_pos ‹_›]
      exact hbracketed
    · rw [if_neg ‹_›]
      exact hbracketed

end

end Session

namespace CommandLine

open Session

lemma keeps_probeAll (filter : Filter) (paths : List String) : Keeps (probeAll filter paths) := by
  induction paths with
  | nil => exact keeps_pure _
  | cons path rest ih =>
    refine (keeps_probe filter path).bind fun outcome => ?_
    match outcome with
    | .ok record => exact ih.bind fun _ => keeps_pure _
    | .error (.failure failure) => exact ih.bind fun _ => keeps_pure _
    | .error (.fault fault) => exact keeps_pure _

lemma keeps_probeFiles (o : Options) (settings : Settings) (paths : List String) :
    Keeps (probeFiles o settings paths) := by
  rw [probeFiles]
  split
  · exact keeps_pure _
  · exact keeps_pure _
  · exact (keeps_probeAll _ paths).bind fun _ => keeps_get.bind fun _ => keeps_pure _

lemma aside_of_mem_mapReads {o : Options} {c : Call} (h : c ∈ mapReads o) : c.Aside := by
  rw [mapReads] at h
  split at h
  · cases h
  · split at h
    · obtain rfl := List.mem_singleton.1 h
      exact ⟨rfl, fun _ _ => Call.noConfusion⟩
    · cases h

lemma keeps_pathsOf (o : Options) : Keeps (onMachine (pathsOf o).run) :=
  keeps_onMachine fun m => ⟨mapReads o, run_pathsOf o m, fun _ => aside_of_mem_mapReads⟩

lemma keeps_runOptions (o : Options) : Keeps (runOptions o) := by
  refine keeps_get.bind fun s => ?_
  split
  · exact keeps_pure _
  · refine (keeps_pathsOf o).bind fun paths => ?_
    split
    · exact keeps_pure _
    · exact keeps_pure _
    · exact keeps_pure _
    · exact keeps_probeFiles o _ _

theorem keeps_run (args : List String) : Keeps (run args) := by
  rw [run]
  split
  · exact keeps_pure _
  · exact keeps_runOptions _

end CommandLine

namespace Service

open Session

lemma keeps_answerStatus (r : Request) : Keeps (answerStatus r) := by
  rw [answerStatus]
  split
  · exact keeps_pure _
  · refine (keeps_probe .allowAll _).bind fun outcome => ?_
    match outcome with
    | .ok record => exact keeps_pure _
    | .error (.failure f) => exact keeps_pure _
    | .error (.fault _) => exact keeps_pure _

lemma keeps_probeEach (paths : List String) : Keeps (probeEach paths) := by
  induction paths with
  | nil => exact keeps_pure _
  | cons path rest ih =>
    refine (keeps_probe .allowAll path).bind fun outcome => ?_
    match outcome with
    | .ok record => exact ih.bind fun _ => keeps_pure _
    | .error (.failure f) => exact ih.bind fun _ => keeps_pure _
    | .error (.fault _) => exact keeps_pure _

lemma keeps_answerMany (r : Request) : Keeps (answerMany r) := by
  rw [answerMany]
  split
  · exact keeps_pure _
  · exact keeps_pure _
  · split
    · exact keeps_pure _
    · rw [answerItems]
      split
      · exact keeps_pure _
      · refine (keeps_probeEach _).bind fun found => ?_
        split
        · exact keeps_pure _
        · exact keeps_pure _

lemma keeps_view (v : View) (r : Request) : Keeps (v.answer r) := by
  cases v with
  | log => exact keeps_get.bind fun _ => keeps_pure _
  | status => exact keeps_answerStatus r
  | statusMany => exact keeps_answerMany r
  | staticFile => exact keeps_pure _

theorem keeps_answer (r : Request) : Keeps (answer r) := by
  rw [answer]
  split
  · exact (keeps_view _ r).bind fun _ => keeps_pure _
  all_goals exact keeps_pure _

end Service

/-- Whatever a probe, a command line or a request comes to, the descriptors that it opens are closed
behind it, one before the next is opened, and all that is called on one is called while it is
open. -/
theorem descriptors_bracketed :
    (∀ filter path, Session.Keeps (Session.probe filter path).run) ∧
      (∀ args, Session.Keeps (CommandLine.run args)) ∧ (∀ r, Session.Keeps (Service.answer r)) ∧
      ∀ (s t : Session), s.Follows t → ∀ before c behind number,
        t.machine.calls = s.machine.calls ++ (before ++ c :: behind) → c.Uses number →
          Enclosed number before behind :=
  ⟨Session.keeps_probe, CommandLine.keeps_run, Service.keeps_answer,
    fun _ _ h _ _ _ _ hcalls hc => h.enclosed hcalls hc⟩

theorem descriptors_bracketed_two_pages :
    let s := Session.onFile (.holding ⟨0o100644, 5000, ⟨0, 0⟩⟩)
    let behind := [.stat "f", .now, .mmap 3 5000, .mincore 5000 2, .munmap 5000, .close 3]
    ((Session.probe .allowAll "f").run.run s).2.machine.calls =
      .open "f" .nonblocking :: .fstat 3 :: behind ∧
      Enclosed 3 [.open "f" .nonblocking] behind := by
  intro s behind
  have hcalls : ((Session.probe .allowAll "f").run.run s).2.machine.calls =
      .open "f" .nonblocking :: .fstat 3 :: behind := by
    rw [Session.run_probe]
    decide +kernel
  refine ⟨hcalls, ?_⟩
  exact descriptors_bracketed.2.2.2 s _ (descriptors_bracketed.1 .allowAll "f" s) _ (.fstat 3) _ 3 hcalls
    ⟨rfl, Call.noConfusion⟩

end PageCache
