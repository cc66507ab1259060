import PageCache.Proofs.Literal
import PageCache.Proofs.Sequencing
import PageCache.Proofs.Text.Lowercase
import PageCache.Proofs.Text.Strip
import PageCache.Settings

/-! What the environment may say about the settings: which texts are read, as which settings, and
which variable is blamed for a text that is not. -/

namespace PageCache

open Sequencing Text

/-- The message starts with the variable and what it should hold. -/
def SettingsError.Blames (e : SettingsError) (name : String) : Prop :=
  ∃ rest, e.message = name ++ "=" ++ rest

namespace Settings

/-- What a variable holds, which is nothing if it is not set. -/
def textOf (environment : List (String × String)) (name : String) : List Char :=
  ((environment.lookup name).getD "").toList

/-- What a text without capitals says about the format. -/
def SaysFormat (name : List Char) (format : Listing.Format) : Prop :=
  name = [] ∧ format = .table ∨ name = format.name.toList

def SaysLimit (size : List Char) (limit : Option Nat) : Prop :=
  size = [] ∧ limit = none ∨ ∃ n : Nat, Numeral.Literal size n ∧ limit = some n

/-- A text with blanks around it. -/
def Padded (s t : List Char) : Prop :=
  ∃ front behind, (∀ c ∈ front ++ behind, isBlank c = true) ∧ t = front ++ s ++ behind

def SameLetters (s t : List Char) : Prop := s.map Char.toLower = t.map Char.toLower

variable {environment : List (String × String)} {s t size text : List Char} {settings : Settings}
  {format : Listing.Format} {limit : Option Nat}

lemma value_eq (name : String) : value environment name = strip (textOf environment name) := rfl

lemma Padded.strip_eq (h : Padded s t) : strip t = strip s := by
  obtain ⟨front, behind, hblank, rfl⟩ := h
  rw [List.forall_mem_append] at hblank
  exact trim_append hblank.1 hblank.2

lemma SameLetters.lowercase_strip_eq (h : SameLetters s t) :
    lowercase (strip s) = lowercase (strip t) := by
  rw [← lowercase_map_toLower, strip, ← trim_map isBlank_toLower, h, trim_map isBlank_toLower,
    lowercase_map_toLower, strip]

/-- Blanks are the only padding there is. -/
lemma trim_value (name : String) :
    trim Numeral.isPadding (value environment name) = value environment name := by
  have hpadding : ∀ c, isBlank c = false → Numeral.isPadding c = false := by
    intro c hc
    rw [Numeral.isPadding, hc, Bool.false_and]
  exact trim_of_ends (fun c hc => hpadding c (trim_head? hc)) fun c hc => hpadding c (trim_getLast? hc)

lemma ofName?_eq_some_iff {name : List Char} :
    Listing.Format.ofName? (String.ofList name) = some format ↔ name = format.name.toList := by
  constructor
  · intro h
    have hname := List.find?_some (p := fun f : Listing.Format => f.name == String.ofList name) h
    rw [beq_iff_eq.1 hname, String.toList_ofList]
  · rintro rfl
    rw [String.ofList_toList]
    exact Listing.Format.ofName?_name format

lemma readFormat_congr (h : lowercase s = lowercase t) : readFormat s = readFormat t := by
  have hnil : s = [] ↔ t = [] := by rw [← lowercase_eq_nil_iff, h, lowercase_eq_nil_iff]
  simp only [readFormat, hnil, h]

lemma readFormat_eq_ok_iff : readFormat text = .ok format ↔ SaysFormat (lowercase text) format := by
  rw [readFormat, SaysFormat, ← ofName?_eq_some_iff, lowercase_eq_nil_iff]
  by_cases hnil : text = []
  · subst hnil
    have hname : Listing.Format.ofName? (String.ofList (lowercase [])) ≠ some format := by
      rw [Ne, ofName?_eq_some_iff]
      cases format <;> decide
    rw [if_pos rfl, Except.ok.injEq, or_iff_left hname, eq_comm, and_iff_right rfl]
  · rw [if_neg hnil, or_iff_right fun h => hnil h.1]
    cases Listing.Format.ofName? (String.ofList (lowercase text)) with
    | none => simp
    | some f => simp

lemma exists_blame_of_format (h : ∀ format, ¬ SaysFormat (lowercase text) format) :
    ∃ e, readFormat text = .error e ∧ e.Blames formatVariable := by
  cases hread : readFormat text with
  | ok format => exact absurd (readFormat_eq_ok_iff.1 hread) (h format)
  | error e =>
    refine ⟨e, rfl, ?_⟩
    rw [readFormat] at hread
    split at hread
    · cases hread
    · split at hread
      · cases hread
      · obtain rfl := Except.error.inj hread
        exact ⟨_, by rw [SettingsError.message, String.append_assoc, String.append_assoc]⟩

lemma not_literal_nil {n : Int} : ¬ Numeral.Literal [] n := by
  intro h
  cases h with
  | unsigned h =>
    obtain ⟨c, rest, d, ⟨⟩, -⟩ := h.exists_cons

lemma saysLimit_iff (hne : size ≠ []) :
    SaysLimit size limit ↔ ∃ n : Nat, Numeral.Literal size n ∧ limit = some n :=
  or_iff_right fun h => hne h.1

lemma readSize_eq_ok_iff (hpadding : trim Numeral.isPadding size = size) :
    readSize size = .ok limit ↔ SaysLimit size limit := by
  by_cases hnil : size = []
  · subst hnil
    have hnone : ¬∃ n : Nat, Numeral.Literal [] n ∧ limit = some n :=
      fun ⟨_, hliteral, _⟩ => not_literal_nil hliteral
    rw [readSize, if_pos rfl, SaysLimit, or_iff_left hnone, and_iff_right rfl, Except.ok.injEq, eq_comm]
  · rw [saysLimit_iff hnil, readSize, if_neg hnil]
    have hliteral : ∀ n, Numeral.Literal size n ↔ Numeral.integer? size = some n := by
      intro n
      rw [Numeral.integer?_eq_some_iff, hpadding]
    simp only [hliteral]
    split
    · rename_i hread
      simp [hread]
    · rename_i n hread
      rw [hread, Except.ok.injEq]
      constructor
      · rintro rfl
        exact ⟨n, rfl, rfl⟩
      · rintro ⟨m, hm, rfl⟩
        exact congrArg some (Int.ofNat.inj (Option.some.inj hm))
    · rename_i n hread
      rw [hread]
      refine iff_of_false (fun h => nomatch h) ?_
      rintro ⟨m, hm, -⟩
      cases hm

lemma exists_blame_of_size (hpadding : trim Numeral.isPadding size = size)
    (h : ∀ limit, ¬ SaysLimit size limit) :
    ∃ e, readSize size = .error e ∧ e.Blames sizeVariable := by
  cases hread : readSize size with
  | ok limit => exact absurd ((readSize_eq_ok_iff hpadding).1 hread) (h limit)
  | error e =>
    refine ⟨e, rfl, ?_⟩
    rw [readSize] at hread
    split at hread
    · cases hread
    · split at hread
      · obtain rfl := Except.error.inj hread
        exact ⟨_, by rw [SettingsError.message, String.append_assoc]⟩
      · cases hread
      · obtain rfl := Except.error.inj hread
        exact ⟨_, by rw [SettingsError.message, String.append_assoc]⟩

/-- Settings are read just if both texts say something, and then as what they say. A format that is
none is blamed on its variable, whatever the other one holds; blanks around a text and the case of
letters in the format make no difference. -/
theorem ofEnvironment_reads (environment : List (String × String)) :
    let name := lowercase (strip (textOf environment formatVariable))
    let size := strip (textOf environment sizeVariable)
    (∀ settings, ofEnvironment environment = .ok settings ↔
        SaysFormat name settings.format ∧ SaysLimit size settings.maxSize) ∧
      ((∀ format, ¬ SaysFormat name format) →
        ∃ e, ofEnvironment environment = .error e ∧ e.Blames formatVariable) ∧
      ((∃ format, SaysFormat name format) → (∀ limit, ¬ SaysLimit size limit) →
        ∃ e, ofEnvironment environment = .error e ∧ e.Blames sizeVariable) ∧
      ∀ other text, Padded text (textOf other formatVariable) →
        SameLetters text (textOf environment formatVariable) →
        Padded (textOf environment sizeVariable) (textOf other sizeVariable) →
          ofEnvironment other = ofEnvironment environment := by
  intro name size
  have hpadding : trim Numeral.isPadding size = size := trim_value sizeVariable
  have hread : ofEnvironment environment =
      (readFormat (strip (textOf environment formatVariable)) >>= fun format =>
        readSize size >>= fun maxSize => pure { format, maxSize }) := rfl
  refine ⟨fun settings => ?_, fun hformat => ?_, fun ⟨format, hformat⟩ hlimit => ?_, ?_⟩
  · rw [← readFormat_eq_ok_iff, ← readSize_eq_ok_iff hpadding, hread]
    cases readFormat (strip (textOf environment formatVariable)) with
    | error e => exact iff_of_false (fun h => nomatch h) fun h => nomatch h.1
    | ok format =>
      cases readSize size with
      | error e => exact iff_of_false (fun h => nomatch h) fun h => nomatch h.2
      | ok maxSize =>
        constructor
        · intro h
          obtain rfl := Except.ok.inj h
          exact ⟨rfl, rfl⟩
        · rintro ⟨hformat, hlimit⟩
          obtain rfl := Except.ok.inj hformat
          obtain rfl := Except.ok.inj hlimit
          rfl
  · obtain ⟨e, he, hblames⟩ := exists_blame_of_format hformat
    exact ⟨e, by rw [hread, he]; rfl, hblames⟩
  · obtain ⟨e, he, hblames⟩ := exists_blame_of_size hpadding hlimit
    exact ⟨e, by rw [hread, readFormat_eq_ok_iff.2 hformat, he]; rfl, hblames⟩
  · intro other text hformat hletters hsize
    have hname : lowercase (value other formatVariable) = name := by
      rw [value_eq, hformat.strip_eq, hletters.lowercase_strip_eq]
    have hvalue : value other sizeVariable = size := by
      rw [value_eq, hsize.strip_eq]
    rw [ofEnvironment, readFormat_congr hname, hvalue, hread]

theorem ofEnvironment_reads_json :
    let plain := [("PY_PCSTAT_FORMAT", "json"), ("PY_PCSTAT_MAX_SIZE", "+1_\u0660")]
    let padded := [("PY_PCSTAT_MAX_SIZE", "+1_\u0660\n"), ("HOME", "/"),
      ("PY_PCSTAT_FORMAT", "\u00a0JSon")]
    let wrong := [("PY_PCSTAT_FORMAT", "yaml"), ("PY_PCSTAT_MAX_SIZE", "ten")]
    let negative := [("PY_PCSTAT_MAX_SIZE", "-1")]
    ofEnvironment plain = .ok ⟨.json, some 10⟩ ∧ ofEnvironment padded = ofEnvironment plain ∧
      (∃ e, ofEnvironment wrong = .error e ∧ e.Blames formatVariable) ∧
      ∃ e, ofEnvironment negative = .error e ∧ e.Blames sizeVariable := by
  intro plain padded wrong negative
  refine ⟨?_, ?_, ?_, ?_⟩
  · have hsize : strip (textOf plain sizeVariable) = ['+', '1', '_', '\u0660'] := by decide +kernel
    have hliteral : Numeral.Literal ['+', '1', '_', '\u0660'] (10 : Nat) :=
      .plus ⟨[1, 0], .spaced (by decide) (.last (by decide)), by decide, rfl⟩
    exact ((ofEnvironment_reads plain).1 _).2
      ⟨.inr (by decide +kernel), .inr ⟨10, hsize ▸ hliteral, rfl⟩⟩
  · refine (ofEnvironment_reads plain).2.2.2 padded "JSon".toList ?_ ?_ ?_
    · exact ⟨['\u00a0'], [], List.forall_mem_singleton.2 rfl, by decide +kernel⟩
    · rw [SameLetters]
      decide +kernel
    · exact ⟨[], ['\n'], List.forall_mem_singleton.2 rfl, by decide +kernel⟩
  · refine (ofEnvironment_reads wrong).2.1 fun format hformat => ?_
    have hread : readFormat (strip (textOf wrong formatVariable)) = .error (.badFormat "yaml") := by
      decide +kernel
    cases hread.symm.trans (readFormat_eq_ok_iff.2 hformat)
  · refine (ofEnvironment_reads negative).2.2.1 ⟨.table, .inl ⟨by decide, rfl⟩⟩ fun limit hlimit => ?_
    have hread : readSize (value negative sizeVariable) = .error (.negative "-1") := by
      decide +kernel
    cases hread.symm.trans ((readSize_eq_ok_iff (trim_value sizeVariable)).2 hlimit)

end Settings

end PageCache
