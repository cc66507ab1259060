import Mathlib.Tactic.Lemma
import PageCache.Text.Blank
import PageCache.Text.Lowercase

/-! Small letters do not depend on the case of the letters that are given: neither the small letter of
a character itself nor the form of a sigma beside it. -/

namespace PageCache.Text

def asciiCapitals : List Char := (List.range 26).map fun n => Char.ofNat (0x41 + n)

/-- What is the same for the capitals and their small letters is so for every character. -/
lemma apply_toLower {α : Type} (f : Char → α)
    (h : asciiCapitals.map (fun c => f c.toLower) = asciiCapitals.map f) (c : Char) :
    f c.toLower = f c := by
  by_cases hc : c.val ≥ 'A'.val ∧ c.val ≤ 'Z'.val
  · apply List.map_inj_left.1 h c
    obtain ⟨hfirst, hlast⟩ := hc
    rw [ge_iff_le, UInt32.le_iff_toNat_le] at hfirst
    rw [UInt32.le_iff_toNat_le] at hlast
    change 0x41 ≤ c.toNat at hfirst
    change c.toNat ≤ 0x5a at hlast
    refine List.mem_map.2 ⟨c.toNat - 0x41, List.mem_range.2 (by omega), ?_⟩
    rw [Nat.add_sub_cancel' hfirst, Char.ofNat_toNat]
  · have hsame : c.toLower = c := dif_neg hc
    rw [hsame]

lemma isBlank_toLower (c : Char) : isBlank c.toLower = isBlank c :=
  apply_toLower isBlank (by decide) c

lemma smallLetter_toLower (c : Char) : smallLetter c.toLower = smallLetter c :=
  apply_toLower smallLetter (by decide +kernel) c

lemma inRuns_toLower (c : Char) :
    inRuns c.toLower.toNat caseless = inRuns c.toNat caseless ∧
      inRuns c.toLower.toNat cased = inRuns c.toNat cased :=
  Prod.ext_iff.1 (apply_toLower (fun c => (inRuns c.toNat caseless, inRuns c.toNat cased))
    (by decide +kernel) c)

lemma toLower_eq_iff {c d : Char}
    (h : asciiCapitals.map (fun c => decide (c.toLower = d)) =
      asciiCapitals.map fun c => decide (c = d)) :
    c.toLower = d ↔ c = d :=
  decide_eq_decide.1 (apply_toLower (fun c => decide (c = d)) h c)

lemma nextIsCased_map_toLower (s : List Char) :
    nextIsCased (s.map Char.toLower) = nextIsCased s := by
  induction s with
  | nil => rfl
  | cons c s ih =>
    obtain ⟨hcaseless, hcased⟩ := inRuns_toLower c
    rw [List.map_cons, nextIsCased, nextIsCased, hcaseless, hcased, ih]

lemma lowercaseAfter_map_toLower (before s : List Char) :
    lowercaseAfter (before.map Char.toLower) (s.map Char.toLower) = lowercaseAfter before s := by
  induction s generalizing before with
  | nil => rfl
  | cons c s ih =>
    have hdotted : c.toLower = '\u0130' ↔ c = '\u0130' := toLower_eq_iff (by decide)
    have hsigma : c.toLower = '\u03a3' ↔ c = '\u03a3' := toLower_eq_iff (by decide)
    rw [List.map_cons, lowercaseAfter, lowercaseAfter, smallLetter_toLower, nextIsCased_map_toLower,
      nextIsCased_map_toLower, ← List.map_cons, ih]
    simp only [hdotted, hsigma]

lemma lowercase_map_toLower (s : List Char) : lowercase (s.map Char.toLower) = lowercase s :=
  lowercaseAfter_map_toLower [] s

lemma lowercase_eq_nil_iff {s : List Char} : lowercase s = [] ↔ s = [] := by
  cases s with
  | nil => exact iff_of_true rfl rfl
  | cons c s =>
    refine iff_of_false (fun h => ?_) (List.cons_ne_nil c s)
    have hsmall := (List.append_eq_nil_iff.1 h).1
    split at hsmall
    · cases hsmall
    · split at hsmall <;> cases hsmall

end PageCache.Text
