import Mathlib.Data.List.Basic
import PageCache.CommandLine.Options
import PageCache.Proofs.Sequencing

/-! Flags that count beside all other options. What the reading of the arguments does with the
options does not depend on what such a flag has set, so in front of the arguments it changes the
options that are asked for and nothing else. -/

namespace PageCache.CommandLine

open Sequencing

namespace Argument

lemma classify_spelling (s : Switch) :
    ∀ name ∈ s.spellings, name.toList ≠ "--".toList ∧
      classify name.toList = .ok (.option s (isShort name.toList) none) := by
  cases s <;> decide

lemma classifyAll_spelling {s : Switch} {name : String} (h : name ∈ s.spellings)
    (texts : List (List Char)) :
    classifyAll (name.toList :: texts) =
      (classifyAll texts).map (.option s (isShort name.toList) none :: ·) := by
  obtain ⟨hseparator, hclassify⟩ := classify_spelling s name h
  rw [classifyAll, if_neg hseparator, hclassify, ok_bind]
  cases classifyAll texts <;> rfl

end Argument

namespace Options

/-- A change of what the reading neither looks at nor sets otherwise. -/
structure Beside (change : Options → Options) : Prop where
  enable (o : Options) (s : Switch) : (change o).enable s = (o.enable s).map change
  pid (o : Options) (value : Value) :
    change { o with pid := some value } = { change o with pid := some value }
  maxSize (o : Options) (value : Value) :
    change { o with maxSize := some value } = { change o with maxSize := some value }
  operand (o : Options) (text : String) :
    change { o with files := o.files ++ [text] } =
      { change o with files := (change o).files ++ [text] }

lemma Beside.assign {change : Options → Options} (hchange : Beside change) (o : Options) (s : Switch)
    (text : List Char) : (change o).assign s text = (o.assign s text).map change := by
  rw [Options.assign, Options.assign]
  cases Value.ofText? text with
  | none => rfl
  | some value =>
    dsimp only
    rw [map_ok]
    by_cases hs : s = .pid
    · rw [if_pos hs, if_pos hs, hchange.pid]
    · rw [if_neg hs, if_neg hs, hchange.maxSize]

end Options

namespace Progress

variable {change : Options → Options}

def changed (change : Options → Options) (p : Progress) : Progress :=
  { p with options := change p.options }

variable (p : Progress)

@[simp] lemma run_changed : (p.changed change).run = p.run := rfl

lemma interrupt_changed : (p.changed change).interrupt = p.interrupt.changed change := by
  rw [interrupt, interrupt, run_changed]
  split <;> rfl

lemma separator_changed : (p.changed change).separator = p.separator.changed change := by
  rw [separator, separator, run_changed]
  split <;> rfl

section

variable (hchange : Options.Beside change)

include hchange

lemma operand_changed (text : List Char) :
    (p.changed change).operand text = (p.operand text).changed change := by
  rw [operand, operand, run_changed]
  split
  · rfl
  · rw [changed, changed, hchange.operand]

lemma enable_changed (s : Switch) :
    (p.changed change).enable s = (p.enable s).map (changed change) := by
  rw [enable, enable]
  change (change p.options).enable s >>= _ = _
  rw [hchange.enable]
  cases p.options.enable s <;> rfl

lemma assign_changed (s : Switch) (text : List Char) :
    (p.changed change).assign s text = (p.assign s text).map (changed change) := by
  rw [assign, assign]
  change (change p.options).assign s text >>= _ = _
  rw [hchange.assign]
  cases p.options.assign s text <;> rfl

lemma foldlM_changed (switches : List Switch) :
    switches.foldlM enable (p.changed change) =
      (switches.foldlM enable p).map (changed change) := by
  induction switches generalizing p with
  | nil => rfl
  | cons s switches ih =>
    rw [List.foldlM_cons, List.foldlM_cons, enable_changed p hchange]
    cases p.enable s with
    | error stop => rfl
    | ok q =>
      rw [map_ok, ok_bind, ok_bind]
      exact ih q

lemma attached_changed (s : Switch) (short : Bool) (value : List Char) :
    (p.changed change).attached s short value =
      (p.attached s short value).map (changed change) := by
  rw [attached, attached]
  split
  · exact p.assign_changed hchange s value
  split
  · cases cluster s value with
    | error stop => rfl
    | ok switches => exact p.foldlM_changed hchange switches
  · rfl

/-- What is changed in front of the arguments is changed behind them as well. -/
lemma read_changed (arguments : List Argument) :
    (p.changed change).read arguments = (p.read arguments).map (changed change) := by
  -- by the cases of the reading, which looks at the options only through what sets them
  fun_induction read p arguments with
  | case1 p => rfl
  | case2 p text rest ih => rw [read, operand_changed p hchange, ih]
  | case3 p rest ih => rw [read, separator_changed, ih]
  | case4 p text rest ih =>
    rw [read, interrupt_changed]
    exact ih
  | case5 p s short value rest ih =>
    rw [read, interrupt_changed, attached_changed _ hchange]
    cases p.interrupt.attached s short value with
    | error stop => rfl
    | ok q => exact ih q
  | case6 p s short value rest hvalue ih =>
    rw [read, if_pos hvalue, interrupt_changed, assign_changed _ hchange]
    cases p.interrupt.assign s value with
    | error stop => rfl
    | ok q => exact ih q
  | case7 p s short value rest hvalue ih =>
    rw [read, if_neg hvalue, interrupt_changed, enable_changed _ hchange]
    cases p.interrupt.enable s with
    | error stop => rfl
    | ok q =>
      rw [map_ok, ok_bind, ok_bind, operand_changed _ hchange]
      exact ih q
  -- from here on no operand follows that could be the value
  | case8 p s short rest hrest hvalue =>
    rw [read, if_pos hvalue]
    · rfl
    · exact hrest
  | case9 p s short rest hrest hvalue ih =>
    rw [read, if_neg hvalue, interrupt_changed, enable_changed _ hchange]
    · cases p.interrupt.enable s with
      | error stop => rfl
      | ok q => exact ih q
    · exact hrest

end

lemma read_flag {s : Switch} (hvalue : s.takesValue = false) (short : Bool)
    (arguments : List Argument) :
    read {} (.option s short none :: arguments) =
      (enable {} s).bind fun p => p.read arguments := by
  cases arguments with
  | nil =>
    rw [read, hvalue]
    · rfl
    · rintro _ _ ⟨⟩
  | cons argument rest =>
    cases argument with
    | operand text =>
      rw [read, hvalue]
      rfl
    | separator | unknown _ | option _ _ _ =>
      rw [read, hvalue]
      · rfl
      · rintro _ _ ⟨⟩

end Progress

namespace Options

variable {change : Options → Options} {name : String} {args : List String} {o : Options}

lemma ofArguments_flag (s : Switch) (hchange : Beside change) (hvalue : s.takesValue = false)
    (henable : ({} : Options).enable s = .ok (change {})) (hname : name ∈ s.spellings)
    (h : ofArguments args = .ok o) : ofArguments (name :: args) = .ok (change o) := by
  have hstart : Progress.enable {} s = .ok (Progress.changed change {}) := by
    rw [Progress.enable]
    change ({} : Options).enable s >>= _ = _
    rw [henable]
    rfl
  rw [ofArguments, List.map_cons, Argument.classifyAll_spelling hname]
  rw [ofArguments] at h
  cases hclassified : Argument.classifyAll (args.map String.toList) with
  | error e =>
    rw [hclassified] at h
    cases h
  | ok arguments =>
    rw [hclassified, mapError_ok, ok_bind] at h
    rw [map_ok, mapError_ok, ok_bind, Progress.read_flag hvalue, hstart]
    change (Progress.read _ arguments >>= _) = _
    rw [Progress.read_changed _ hchange]
    cases hread : Progress.read {} arguments with
    | error stop =>
      rw [hread] at h
      cases h
    | ok p =>
      rw [hread, ok_bind] at h
      rw [map_ok, ok_bind]
      change (if p.extras = [] then _ else _) = _
      split at h
      · rename_i hextras
        rw [if_pos hextras, ← Except.ok.inj h]
        rfl
      · cases h

end Options

end PageCache.CommandLine
