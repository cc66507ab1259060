import PageCache.Proofs.Json.Number
import PageCache.Proofs.Json.Quoted
import PageCache.Proofs.Json.Reading

/-! A value is read back from its text. The text has the value's tokens, and the tokens are read one
after the other, with what is open around them. -/

namespace PageCache

namespace Json

open Text

mutual

/-- The tokens of a value as it is written. -/
def tokens : Json → List Token
  | .text s => [.text s]
  | .array items => .arrayOpen :: itemTokens items ++ [.arrayClose]
  | .object fields => .objectOpen :: fieldTokens fields ++ [.objectClose]
  | v => [.word v.chars]

def itemTokens : List Json → List Token
  | [] => []
  | [v] => tokens v
  | v :: w :: rest => tokens v ++ .comma :: itemTokens (w :: rest)

def fieldTokens : List (String × Json) → List Token
  | [] => []
  | [(name, v)] => .text name :: .colon :: tokens v
  | (name, v) :: f :: rest => .text name :: .colon :: tokens v ++ .comma :: fieldTokens (f :: rest)

end

/-- Values that can be written so that they are read back, with so many levels of arrays and objects
at most. -/
inductive Readable : Nat → Json → Prop where
  | null {depth : Nat} : Readable depth .null
  | bool {depth : Nat} (b : Bool) : Readable depth (.bool b)
  | integer {depth : Nat} {n : Int} (h : Numeral.Writable n) : Readable depth (.integer n)
  | decimal {depth : Nat} {literal : String}
      (h : number? literal.toList = some (.decimal literal)) : Readable depth (.decimal literal)
  | notFinite {depth : Nat} {literal : String} (h : literal ∈ Json.notFinite) :
      Readable depth (.decimal literal)
  | text {depth : Nat} (s : String) : Readable depth (.text s)
  | array {depth : Nat} {items : List Json} (h : ∀ v ∈ items, Readable depth v) :
      Readable (depth + 1) (.array items)
  | object {depth : Nat} {fields : List (String × Json)}
      (h : ∀ f ∈ fields, Readable depth f.2) : Readable (depth + 1) (.object fields)

/-- No word goes on with this text. -/
def Ends (s : List Char) : Prop := ∀ c ∈ s.head?, Token.isWordChar c = false

namespace Token

end Token

variable {depth : Nat} {v : Json} {items : List Json} {fields : List (String × Json)}
  {rest : List Char}

lemma isPlain_of_isNumeric {c : Char} (h : isNumeric c = true) : IsPlain c := by
  rw [isNumeric, Bool.or_eq_true] at h
  obtain hdigit | hmark := h
  · have hbounds := Numeral.toNat_of_isDigit hdigit
    exact ⟨Nat.le_trans (by decide) hbounds.1, Nat.lt_trans hbounds.2 (by decide)⟩
  · have hall : ∀ c ∈ "+-.eE".toList, IsPlain c := isPlain_of_all rfl
    exact hall c (List.contains_iff_mem.1 hmark)

lemma isPlain_of_mem_joinWith {ls : List (List Char)} (h : ∀ s ∈ ls, ∀ c ∈ s, IsPlain c) :
    ∀ c ∈ joinWith ", ".toList ls, IsPlain c := by
  have hseparator : ∀ c ∈ ", ".toList, IsPlain c := isPlain_of_all rfl
  induction ls with
  | nil => exact fun c hc => absurd hc List.not_mem_nil
  | cons s ls ih =>
    obtain ⟨hs, hls⟩ := List.forall_mem_cons.1 h
    cases ls with
    | nil => exact hs
    | cons t ls =>
      rw [joinWith_cons_of_ne_nil _ _ (List.cons_ne_nil _ _)]
      exact List.forall_mem_append.2 ⟨List.forall_mem_append.2 ⟨hs, hseparator⟩, ih hls⟩

lemma isPlain_between {opening closing : Char} (hopening : IsPlain opening)
    (hclosing : IsPlain closing) {s : List Char} (h : ∀ c ∈ s, IsPlain c) :
    ∀ c ∈ opening :: s ++ [closing], IsPlain c :=
  List.forall_mem_append.2
    ⟨List.forall_mem_cons.2 ⟨hopening, h⟩, List.forall_mem_singleton.2 hclosing⟩

lemma itemChars_eq_map (items : List Json) : itemChars items = items.map chars := by
  induction items with
  | nil => rfl
  | cons v items ih => rw [itemChars, ih, List.map_cons]

lemma fieldChars_eq_map (fields : List (String × Json)) :
    fieldChars fields =
      fields.map fun f => Quoted.encode f.1.toList ++ ": ".toList ++ f.2.chars := by
  induction fields with
  | nil => rfl
  | cons f fields ih => rw [fieldChars, ih, List.map_cons]

/-- The text is one line of printable ASCII. -/
theorem Readable.isPlain (h : Readable depth v) : ∀ c ∈ v.chars, IsPlain c := by
  have hnumber : ∀ {s : List Char} {w : Json}, number? s = some w → ∀ c ∈ s, IsPlain c :=
    fun hread c hc => isPlain_of_isNumeric (isNumeric_of_number? hread c hc)
  induction h with
  | null => exact isPlain_of_all rfl
  | bool b => cases b <;> exact isPlain_of_all rfl
  | integer hn => exact hnumber (number?_chars hn)
  | decimal hread => exact hnumber hread
  | notFinite h =>
    have hall : ∀ s ∈ Json.notFinite, (s.toList.all fun c => decide (IsPlain c)) = true := by decide
    exact isPlain_of_all (hall _ h)
  | text s => exact fun _ => Quoted.isPlain_of_mem_encode _
  | @array _ items _ ih =>
    refine isPlain_between (by decide) (by decide) (isPlain_of_mem_joinWith ?_)
    rw [itemChars_eq_map]
    exact List.forall_mem_map.2 ih
  | @object _ fields _ ih =>
    refine isPlain_between (by decide) (by decide) (isPlain_of_mem_joinWith ?_)
    rw [fieldChars_eq_map]
    refine List.forall_mem_map.2 fun f hf => List.forall_mem_append.2 ⟨?_, ih f hf⟩
    exact List.forall_mem_append.2 ⟨Quoted.isPlain_of_mem_encode, isPlain_of_all rfl⟩

end Json

end PageCache
