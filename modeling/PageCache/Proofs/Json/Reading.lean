import PageCache.Json.Encoding
import PageCache.Json.Reader
import PageCache.Proofs.Sequencing
import PageCache.Proofs.Text.Utf8

/-! What the reader of JSON gets to see: text in ASCII as it is, its tokens one by one, and arrays
inside arrays only up to a depth. -/

namespace PageCache

/-- ASCII without its first character, which no text of JSON holds. -/
def Text.Ascii (s : List Char) : Prop := ∀ c ∈ s, 0 < c.toNat ∧ c.toNat < 0x80

instance : DecidablePred Text.Ascii := fun s =>
  List.decidableBAll (fun c : Char => 0 < c.toNat ∧ c.toNat < 0x80) s

lemma Text.ascii_append {s t : List Char} : Ascii (s ++ t) ↔ Ascii s ∧ Ascii t :=
  List.forall_mem_append

lemma Text.ascii_replicate {c : Char} (h : 0 < c.toNat ∧ c.toNat < 0x80) (n : Nat) :
    Ascii (List.replicate n c) := by
  intro d hd
  rwa [List.eq_of_mem_replicate hd]

namespace Json

open Sequencing

namespace Encoding

open Text

def asciiBytes (s : List Char) : List UInt8 := s.map fun c => c.val.toUInt8

lemma toUTF8_ascii {s : List Char} (h : Ascii s) :
    (String.ofList s).toUTF8.toList = asciiBytes s := by
  rw [Utf8.toUTF8_ofList]
  induction s with
  | nil => rfl
  | cons c s ih =>
    obtain ⟨hc, hs⟩ := List.forall_mem_cons.1 h
    have hsize : c.utf8Size = 1 := by
      refine Char.utf8Size_eq_one_iff.2 (UInt32.le_iff_toNat_le.2 ?_)
      exact Nat.le_of_lt_succ hc.2
    rw [List.flatMap_cons, String.utf8EncodeChar_eq_singleton hsize, ih hs]
    rfl

lemma toNat_asciiByte {c : Char} (h : c.toNat < 0x80) : c.val.toUInt8.toNat = c.toNat := by
  rw [UInt32.toNat_toUInt8]
  exact Nat.mod_eq_of_lt (Nat.lt_trans h (by decide))

lemma ofBytes_ascii {s : List Char} (h : Ascii s) : ofBytes (asciiBytes s) = .utf8 := by
  have hne : ∀ c ∈ s, c.val.toUInt8 ≠ 0 := by
    intro c hc hzero
    have hbyte := toNat_asciiByte (h c hc).2
    rw [hzero] at hbyte
    exact Nat.ne_of_lt (h c hc).1 hbyte
  match s with
  | [] | [_] | [_, _] | [_, _, _] => rfl
  | a :: b :: c :: d :: rest =>
    change (if a.val.toUInt8 = 0 then _ else if b.val.toUInt8 = 0 then _ else _) = _
    rw [if_neg (hne a (by simp)), if_neg (hne b (by simp))]

lemma dropMark_ascii {s : List Char} (h : Ascii s) : dropMark s = s := by
  cases s with
  | nil => rfl
  | cons c s =>
    have hc : c ≠ '\ufeff' := by
      rintro rfl
      exact absurd (h _ List.mem_cons_self).2 (by decide)
    rw [dropMark]
    rintro _ ⟨⟩
    exact hc rfl

theorem decode?_ascii {s : List Char} (h : Ascii s) :
    decode? (String.ofList s).toUTF8.toList = some s := by
  rw [toUTF8_ascii h, decode?, ofBytes_ascii h]
  change (Utf8.decode (asciiBytes s)).toOption.map dropMark = _
  rw [Utf8.decode_eq_ok_iff.2 (toUTF8_ascii h)]
  exact congrArg some (dropMark_ascii h)

end Encoding

namespace Token

lemma ofText_space {c : Char} (h : isSpace c = true) (rest : List Char) :
    ofText (c :: rest) = ofText rest := by
  rw [ofText, if_pos h]

lemma ofText_mark {c : Char} {token : Token} (hspace : isSpace c = false)
    (h : ofMark? c = some token) (rest : List Char) :
    ofText (c :: rest) = token :: ofText rest := by
  rw [ofText, if_neg (by rw [hspace]; decide), h]

lemma ofText_quote {rest text after : List Char} (h : Quoted.decode? rest = some (text, after)) :
    ofText (Text.doubleQuote :: rest) = .text (String.ofList text) :: ofText after := by
  rw [ofText, if_neg (by decide)]
  change (if Text.doubleQuote = Text.doubleQuote then _ else _) = _
  rw [if_pos rfl]
  split
  · rename_i hnone
    rw [h] at hnone
    cases hnone
  · rename_i hsome
    rw [h] at hsome
    cases hsome
    rfl

lemma ofText_opens (n : Nat) (rest : List Char) :
    ofText (List.replicate n '[' ++ rest) = List.replicate n .arrayOpen ++ ofText rest := by
  induction n with
  | zero => rfl
  | succ n ih =>
    rw [List.replicate_succ, List.replicate_succ, List.cons_append, List.cons_append, ← ih]
    exact ofText_mark rfl rfl _

end Token

/-- Arrays inside arrays, around an empty one. -/
def nest : Nat → Json
  | 0 => .array []
  | n + 1 => .array [nest n]

lemma chars_nest (n : Nat) :
    (nest n).chars = List.replicate (n + 1) '[' ++ List.replicate (n + 1) ']' := by
  induction n with
  | zero => rfl
  | succ n ih =>
    have hchars : (nest (n + 1)).chars = '[' :: (nest n).chars ++ [']'] := rfl
    rw [hchars, ih, List.replicate_succ (n := n + 1), List.replicate_succ' (n := n + 1)]
    simp only [List.cons_append, List.append_assoc]

/-- The depth counts what is open already. -/
lemma run_opens (outer : List Frame) {n : Nat} (hn : 0 < n) (h : maxDepth ≤ outer.length + n)
    (rest : List Token) :
    Reader.run (.itemOrEnd outer) (List.replicate n .arrayOpen ++ rest) = .error .tooDeep := by
  induction n generalizing outer with
  | zero => exact absurd hn (Nat.lt_irrefl 0)
  | succ n ih =>
    rw [List.replicate_succ, List.cons_append, Reader.run, List.foldlM_cons]
    change (if outer.length + 1 < maxDepth then _ else _) >>= _ = _
    split
    · rename_i hlt
      rw [ok_bind]
      have hlength : maxDepth ≤ (Frame.array [] :: outer).length + n := by
        rw [List.length_cons]
        omega
      exact ih _ (by omega) hlength
    · rfl

end Json

end PageCache
