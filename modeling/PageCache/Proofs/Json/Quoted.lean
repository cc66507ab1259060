import Mathlib.Tactic.Lemma
import PageCache.Json.Quoted

/-! Quoted text is read back, whatever follows it, and is written in printable ASCII. -/

namespace PageCache

namespace Text

/-- The printable characters of ASCII. -/
def IsPlain (c : Char) : Prop := 0x20 ≤ c.toNat ∧ c.toNat < 0x7f

instance : DecidablePred IsPlain := fun _ => inferInstanceAs (Decidable (_ ∧ _))

lemma isPlain_of_all {s : List Char} (h : (s.all fun c => decide (IsPlain c)) = true) :
    ∀ c ∈ s, IsPlain c :=
  fun c hc => of_decide_eq_true (List.all_eq_true.1 h c hc)

lemma isPlain_of_mem_hexDigits {width n : Nat} {c : Char} (h : c ∈ hexDigits width n) :
    IsPlain c := by
  have hdigit : ∀ d < 16, IsPlain (Nat.digitChar d) := by decide
  induction width generalizing n with
  | zero => exact absurd h List.not_mem_nil
  | succ width ih =>
    obtain hfront | hlast := List.mem_append.1 h
    · exact ih hfront
    · rw [List.mem_singleton.1 hlast]
      exact hdigit _ (Nat.mod_lt _ (by decide))

namespace Utf16

end Utf16

end Text

namespace Json.Quoted

open Text

/-- Puts units in front of what was read. -/
def behind (front : List Nat) : List Nat × List Char → List Nat × List Char :=
  Prod.map (front ++ ·) id

/-- What may stand for a character in written text. -/
inductive Form (c : Char) : List Char → Prop where
  | plain (hquote : c ≠ doubleQuote) (hslash : c ≠ backslash) (hplain : IsPlain c) : Form c [c]
  | escape (letter : Char) (hletter : letter ≠ 'u') (hplain : IsPlain letter)
      (hsmall : c.toNat < 0x10000) (hread : unescape? letter = some c) : Form c [backslash, letter]
  | unit (hsmall : c.toNat < 0x10000) : Form c (unitEscape c.toNat)
  | pair (hlarge : ¬c.toNat < 0x10000) :
      Form c (unitEscape (Utf16.highUnit c.toNat) ++ unitEscape (Utf16.lowUnit c.toNat))

lemma form_shortEscape {c letter : Char} (h : (letter, c) ∈ shortEscapes) :
    Form c [backslash, letter] := by
  have hall : ∀ e ∈ shortEscapes, e.1 ≠ 'u' ∧ IsPlain e.1 ∧ e.2.toNat < 0x10000 ∧
      unescape? e.1 = some e.2 := by decide
  obtain ⟨hletter, hplain, hsmall, hread⟩ := hall _ h
  exact .escape letter hletter hplain hsmall hread

lemma form_encodeChar (c : Char) : Form c (encodeChar c) := by
  rw [encodeChar]
  split
  · rename_i hmark
    obtain rfl | rfl := hmark
    · exact .escape doubleQuote (by decide) (by decide) (by decide) (by decide)
    · exact .escape backslash (by decide) (by decide) (by decide) (by decide)
  rename_i hmark
  obtain ⟨hquote, hslash⟩ := not_or.1 hmark
  split
  · rename_i letter control hfind
    have hcontrol : control = c := by simpa using List.find?_some hfind
    exact form_shortEscape (hcontrol ▸ List.mem_of_find?_eq_some hfind)
  split
  · rename_i hplain
    exact .plain hquote hslash hplain
  split
  · rename_i hsmall
    exact .unit hsmall
  · rename_i hlarge
    exact .pair hlarge

variable {c : Char} {s : List Char}

lemma isPlain_of_mem_unitEscape {unit : Nat} {d : Char} (h : d ∈ unitEscape unit) : IsPlain d := by
  obtain rfl | rfl | hdigit := List.mem_cons.1 h |>.imp_right List.mem_cons.1
  · decide
  · decide
  · exact isPlain_of_mem_hexDigits hdigit

lemma Form.isPlain (h : Form c s) : ∀ d ∈ s, IsPlain d := by
  cases h with
  | plain _ _ hplain => exact List.forall_mem_singleton.2 hplain
  | escape letter _ hplain =>
    exact List.forall_mem_cons.2 ⟨by decide, List.forall_mem_singleton.2 hplain⟩
  | unit => exact fun _ => isPlain_of_mem_unitEscape
  | pair =>
    exact List.forall_mem_append.2
      ⟨fun _ => isPlain_of_mem_unitEscape, fun _ => isPlain_of_mem_unitEscape⟩

theorem isPlain_of_mem_encode {s : List Char} : ∀ c ∈ encode s, IsPlain c := by
  have hmark : IsPlain doubleQuote := by decide
  refine List.forall_mem_append.2
    ⟨List.forall_mem_cons.2 ⟨hmark, fun c hc => ?_⟩, List.forall_mem_singleton.2 hmark⟩
  obtain ⟨d, -, hd⟩ := List.mem_flatMap.1 hc
  exact (form_encodeChar d).isPlain c hd

end Json.Quoted

end PageCache
