import Mathlib.Tactic.Lemma
import PageCache.Text.Utf8

/-! The bytes that are decoded are the encodings of texts, and nothing else. -/

namespace PageCache

namespace Text.Utf8

lemma isContinuation_iff {b : UInt8} :
    isContinuation b = true ↔ 0x80 ≤ b.toNat ∧ b.toNat < 0xc0 := by
  rw [isContinuation, Bool.and_eq_true, decide_eq_true_iff, decide_eq_true_iff,
    UInt8.le_iff_toNat_le, UInt8.le_iff_toNat_le]
  exact and_congr_right' Nat.lt_succ_iff.symm

/-- What may follow a first byte, by numbers. -/
structure Following (a b : UInt8) : Prop where
  continuation : 0x80 ≤ b.toNat ∧ b.toNat < 0xc0
  overlongThree : a.toNat = 0xe0 → 0xa0 ≤ b.toNat
  surrogate : a.toNat = 0xed → b.toNat < 0xa0
  overlongFour : a.toNat = 0xf0 → 0x90 ≤ b.toNat
  last : a.toNat = 0xf4 → b.toNat < 0x90

lemma follows_iff {a b : UInt8} : follows a b = true ↔ Following a b := by
  have hnot : ∀ {x y : UInt8} {p : Bool}, (!(x == y && p)) = true ↔
      (x.toNat = y.toNat → p = false) := by
    intro x y p
    rw [Bool.not_eq_true', Bool.and_eq_false_imp, beq_iff_eq, UInt8.toNat_inj]
  simp only [follows, Bool.and_eq_true, hnot, isContinuation_iff, decide_eq_false_iff_not,
    UInt8.lt_iff_toNat_lt, UInt8.le_iff_toNat_le, Nat.not_lt, Nat.not_le]
  exact ⟨fun ⟨⟨⟨⟨hb, hthree⟩, hsurrogate⟩, hfour⟩, hlast⟩ =>
      ⟨hb, hthree, hsurrogate, hfour, hlast⟩,
    fun h => ⟨⟨⟨⟨h.continuation, h.overlongThree⟩, h.surrogate⟩, h.overlongFour⟩, h.last⟩⟩

/-- The sequences of one to four bytes, and the character of each. -/
inductive Sequence : List UInt8 → Char → Prop where
  | one {a : UInt8} (ha : a.toNat < 0x80) : Sequence [a] (codePoint 7 a [])
  | two {a b : UInt8} (ha : 0xc2 ≤ a.toNat ∧ a.toNat < 0xe0) (hb : Following a b) :
      Sequence [a, b] (codePoint 5 a [b])
  | three {a b c : UInt8} (ha : 0xe0 ≤ a.toNat ∧ a.toNat < 0xf0) (hb : Following a b)
      (hc : isContinuation c = true) : Sequence [a, b, c] (codePoint 4 a [b, c])
  | four {a b c d : UInt8} (ha : 0xf0 ≤ a.toNat ∧ a.toNat ≤ 0xf4) (hb : Following a b)
      (hc : isContinuation c = true) (hd : isContinuation d = true) :
      Sequence [a, b, c, d] (codePoint 3 a [b, c, d])

variable {front rest bytes : List UInt8} {x : Char} {s : List Char} {position : Nat}

lemma not_lt_iff {u v : UInt8} : ¬u < v ↔ v.toNat ≤ u.toNat :=
  UInt8.not_lt.trans UInt8.le_iff_toNat_le

lemma start_iff {a : UInt8} : ¬(decide (a < 0xc2) || decide (0xf4 < a)) = true ↔
    0xc2 ≤ a.toNat ∧ a.toNat ≤ 0xf4 := by
  simp only [Bool.or_eq_true, decide_eq_true_iff, UInt8.lt_iff_toNat_lt, UInt8.reduceToNat]
  omega

lemma not_short {a : UInt8} (h : 0xc2 ≤ a.toNat) : ¬a < 0x80 :=
  not_lt_iff.2 (Nat.le_trans (by decide) h)

lemma decodeFrom_sequence (h : Sequence front x) (position : Nat) (rest : List UInt8) :
    decodeFrom position (front ++ rest) =
      (decodeFrom (position + front.length) rest).map (x :: ·) := by
  have hpassed : ∀ {p : Bool}, p = true → ¬(!p) = true := by
    rintro _ rfl
    decide
  rw [decodeFrom.eq_def]
  cases h with
  | one ha => exact if_pos (UInt8.lt_iff_toNat_lt.2 ha)
  | two ha hb =>
    have hstart := start_iff.2 ⟨ha.1, by omega⟩
    have hfollows := hpassed (follows_iff.2 hb)
    exact (if_neg (not_short ha.1)).trans ((if_neg hstart).trans ((if_neg hfollows).trans
      (if_pos (UInt8.lt_iff_toNat_lt.2 ha.2))))
  | three ha hb hc =>
    have hlow : 0xc2 ≤ _ := Nat.le_trans (by decide) ha.1
    have hstart := start_iff.2 ⟨hlow, by omega⟩
    have hfollows := hpassed (follows_iff.2 hb)
    have hthree := (not_lt_iff (v := 0xe0)).2 ha.1
    exact (if_neg (not_short hlow)).trans ((if_neg hstart).trans ((if_neg hfollows).trans
      ((if_neg hthree).trans ((if_neg (hpassed hc)).trans
        (if_pos (UInt8.lt_iff_toNat_lt.2 ha.2))))))
  | four ha hb hc hd =>
    have hlow : 0xc2 ≤ _ := Nat.le_trans (by decide) ha.1
    have hstart := start_iff.2 ⟨hlow, ha.2⟩
    have hfollows := hpassed (follows_iff.2 hb)
    have hthree := (not_lt_iff (v := 0xe0)).2 (Nat.le_trans (by decide) ha.1)
    have hfour := (not_lt_iff (v := 0xf0)).2 ha.1
    exact (if_neg (not_short hlow)).trans ((if_neg hstart).trans ((if_neg hfollows).trans
      ((if_neg hthree).trans ((if_neg (hpassed hc)).trans ((if_neg hfour).trans
        (if_neg (hpassed hd)))))))

/-- Bytes that are read start with a sequence, and go on with bytes that are read. -/
lemma exists_sequence (hne : bytes ≠ []) (h : decodeFrom position bytes = .ok s) :
    ∃ front x rest t, Sequence front x ∧ bytes = front ++ rest ∧ s = x :: t ∧
      decodeFrom (position + front.length) rest = .ok t := by
  have hok : ∀ {r : Except Malformed (List Char)} {x : Char}, r.map (x :: ·) = .ok s →
      ∃ t, s = x :: t ∧ r = .ok t := by
    rintro (e | t) x hmap
    · cases hmap
    · exact ⟨t, (Except.ok.inj hmap).symm, rfl⟩
  have hpassed : ∀ {p : Bool}, ¬(!p) = true → p = true := fun h => by simpa using h
  revert h
  fun_cases decodeFrom position bytes with
  | case1 => exact absurd rfl hne
  | case2 a rest hshort =>
    intro h
    obtain ⟨t, hs, hrest⟩ := hok h
    exact ⟨[a], _, rest, t, .one (UInt8.lt_iff_toNat_lt.1 hshort), rfl, hs, hrest⟩
  | case6 a _ hstart b rest hb hthree =>
    intro h
    obtain ⟨t, hs, hrest⟩ := hok h
    have ha := start_iff.1 hstart
    exact ⟨[a, b], _, rest, t, .two ⟨ha.1, UInt8.lt_iff_toNat_lt.1 hthree⟩
      (follows_iff.1 (hpassed hb)), rfl, hs, hrest⟩
  | case9 a _ _ b hb hthree c rest hc hfour =>
    intro h
    obtain ⟨t, hs, hrest⟩ := hok h
    exact ⟨[a, b, c], _, rest, t, .three ⟨not_lt_iff.1 hthree, UInt8.lt_iff_toNat_lt.1 hfour⟩
      (follows_iff.1 (hpassed hb)) (hpassed hc), rfl, hs, hrest⟩
  | case12 a _ hstart b hb _ c hc hfour d rest hd =>
    intro h
    obtain ⟨t, hs, hrest⟩ := hok h
    have ha := start_iff.1 hstart
    exact ⟨[a, b, c, d], _, rest, t, .four ⟨not_lt_iff.1 hfour, ha.2⟩
      (follows_iff.1 (hpassed hb)) (hpassed hc) (hpassed hd), rfl, hs, hrest⟩
  | _ => rintro ⟨⟩

lemma toNat_codePoint {bits n : Nat} {a : UInt8} {rest : List UInt8}
    (h : codePoint bits a rest = Char.ofNat n) (hn : n.isValidChar) :
    (codePoint bits a rest).toNat = n := by
  rw [h, Char.ofNat, dif_pos hn]
  rfl

lemma utf8EncodeChar_eq (x : Char) : String.utf8EncodeChar x =
    if x.toNat ≤ 0x7f then [UInt8.ofNat x.toNat]
    else if x.toNat ≤ 0x7ff then
      [UInt8.ofNat (x.toNat / 64 % 0x20 + 0xc0), UInt8.ofNat (x.toNat % 0x40 + 0x80)]
    else if x.toNat ≤ 0xffff then
      [UInt8.ofNat (x.toNat / 4096 % 0x10 + 0xe0), UInt8.ofNat (x.toNat / 64 % 0x40 + 0x80),
        UInt8.ofNat (x.toNat % 0x40 + 0x80)]
    else
      [UInt8.ofNat (x.toNat / 262144 % 0x08 + 0xf0), UInt8.ofNat (x.toNat / 4096 % 0x40 + 0x80),
        UInt8.ofNat (x.toNat / 64 % 0x40 + 0x80), UInt8.ofNat (x.toNat % 0x40 + 0x80)] := rfl

lemma utf8EncodeChar_of_sequence (h : Sequence front x) : String.utf8EncodeChar x = front := by
  have hbyte : ∀ {k : Nat} (b : UInt8), k = b.toNat → UInt8.ofNat k = b := by
    rintro _ b rfl
    exact UInt8.ofNat_toNat
  rw [utf8EncodeChar_eq]
  cases h with
  | @one a ha =>
    have hx : (codePoint 7 a []).toNat = a.toNat % 128 := toNat_codePoint rfl (.inl (by omega))
    rw [hx, if_pos (by omega), hbyte a (by omega)]
  | @two a b ha hb =>
    have hb := hb.continuation
    have hx : (codePoint 5 a [b]).toNat = a.toNat % 32 * 64 + b.toNat % 64 :=
      toNat_codePoint rfl (.inl (by omega))
    rw [hx, if_neg (by omega), if_pos (by omega), hbyte a (by omega), hbyte b (by omega)]
  | @three a b c ha hb hc =>
    obtain ⟨hb, hoverlong, hsurrogate, -, -⟩ := hb
    rw [isContinuation_iff] at hc
    have hx : (codePoint 4 a [b, c]).toNat =
        (a.toNat % 16 * 64 + b.toNat % 64) * 64 + c.toNat % 64 := by
      refine toNat_codePoint rfl ?_
      rw [Nat.isValidChar]
      omega
    rw [hx, if_neg (by omega), if_neg (by omega), if_pos (by omega), hbyte a (by omega),
      hbyte b (by omega), hbyte c (by omega)]
  | @four a b c d ha hb hc hd =>
    obtain ⟨hb, -, -, hoverlong, hlast⟩ := hb
    rw [isContinuation_iff] at hc hd
    have hx : (codePoint 3 a [b, c, d]).toNat =
        ((a.toNat % 8 * 64 + b.toNat % 64) * 64 + c.toNat % 64) * 64 + d.toNat % 64 := by
      refine toNat_codePoint rfl ?_
      rw [Nat.isValidChar]
      omega
    rw [hx, if_neg (by omega), if_neg (by omega), if_neg (by omega), hbyte a (by omega),
      hbyte b (by omega), hbyte c (by omega), hbyte d (by omega)]

lemma sequence_utf8EncodeChar (x : Char) : Sequence (String.utf8EncodeChar x) x := by
  have hbyte : ∀ k, k < 256 → ∃ b : UInt8, UInt8.ofNat k = b ∧ b.toNat = k :=
    fun k hk => ⟨_, rfl, UInt8.toNat_ofNat_of_lt hk⟩
  have hsame : ∀ n, n = x.toNat → Char.ofNat n = x := by
    rintro _ rfl
    exact Char.ofNat_toNat x
  have hvalid : x.toNat < 0xd800 ∨ 0xdfff < x.toNat ∧ x.toNat < 0x110000 := x.valid
  rw [utf8EncodeChar_eq]
  split
  · obtain ⟨a, ha, hna⟩ := hbyte x.toNat (by omega)
    have hx : codePoint 7 a [] = x := hsame (a.toNat % 128) (by omega)
    rw [ha]
    exact hx ▸ .one (by omega)
  obtain ⟨d, hd, hnd⟩ := hbyte (x.toNat % 0x40 + 0x80) (by omega)
  have hlast : isContinuation d = true := isContinuation_iff.2 (by omega)
  rw [hd]
  split
  · obtain ⟨a, ha, hna⟩ := hbyte (x.toNat / 64 % 0x20 + 0xc0) (by omega)
    have hx : codePoint 5 a [d] = x := hsame (a.toNat % 32 * 64 + d.toNat % 64) (by omega)
    rw [ha]
    exact hx ▸ .two (by omega) ⟨by omega, by omega, by omega, by omega, by omega⟩
  obtain ⟨c, hc, hnc⟩ := hbyte (x.toNat / 64 % 0x40 + 0x80) (by omega)
  have hmiddle : isContinuation c = true := isContinuation_iff.2 (by omega)
  rw [hc]
  split
  · obtain ⟨a, ha, hna⟩ := hbyte (x.toNat / 4096 % 0x10 + 0xe0) (by omega)
    have hx : codePoint 4 a [c, d] = x :=
      hsame ((a.toNat % 16 * 64 + c.toNat % 64) * 64 + d.toNat % 64) (by omega)
    rw [ha]
    exact hx ▸ .three (by omega) ⟨by omega, by omega, by omega, by omega, by omega⟩ hlast
  · obtain ⟨a, ha, hna⟩ := hbyte (x.toNat / 262144 % 0x08 + 0xf0) (by omega)
    obtain ⟨b, hb, hnb⟩ := hbyte (x.toNat / 4096 % 0x40 + 0x80) (by omega)
    have hx : codePoint 3 a [b, c, d] = x :=
      hsame (((a.toNat % 8 * 64 + b.toNat % 64) * 64 + c.toNat % 64) * 64 + d.toNat % 64) (by omega)
    rw [ha, hb]
    exact hx ▸ .four (by omega) ⟨by omega, by omega, by omega, by omega, by omega⟩ hmiddle hlast

theorem decodeFrom_eq_ok_iff :
    decodeFrom position bytes = .ok s ↔ bytes = s.flatMap String.utf8EncodeChar := by
  constructor
  · intro h
    induction s generalizing position bytes with
    | nil =>
      by_cases hne : bytes = []
      · exact hne
      · obtain ⟨x, front, rest, t, -, -, hs, -⟩ := exists_sequence hne h
        cases hs
    | cons x s ih =>
      have hne : bytes ≠ [] := by
        rintro rfl
        cases h
      obtain ⟨front, y, rest, t, hfront, rfl, hs, hrest⟩ := exists_sequence hne h
      obtain ⟨rfl, rfl⟩ := List.cons.inj hs
      rw [List.flatMap_cons, utf8EncodeChar_of_sequence hfront, ← ih hrest]
  · rintro rfl
    induction s generalizing position with
    | nil => rfl
    | cons x s ih =>
      rw [List.flatMap_cons, decodeFrom_sequence (sequence_utf8EncodeChar x), ih]
      rfl

lemma toList_bytes (bytes : ByteArray) : bytes.toList = bytes.data.toList := by
  have hloop : ∀ (i : Nat) (front : List UInt8),
      ByteArray.toList.loop bytes i front = front.reverse ++ bytes.data.toList.drop i := by
    intro i front
    fun_induction ByteArray.toList.loop bytes i front with
    | case1 i front hi ih =>
      have hdrop : bytes.data.toList.drop i = bytes.get! i :: bytes.data.toList.drop (i + 1) := by
        rw [List.drop_eq_getElem_cons hi]
        cases bytes with
        | mk data => exact congrArg (· :: data.toList.drop (i + 1)) (getElem!_pos data i hi).symm
      rw [ih, List.reverse_cons, List.append_assoc, List.singleton_append, hdrop]
    | case2 i front hi =>
      have hnil : bytes.data.toList.drop i = [] := List.drop_eq_nil_of_le (Nat.le_of_not_lt hi)
      rw [hnil, List.append_nil]
  exact hloop 0 []

lemma toUTF8_ofList (s : List Char) :
    (String.ofList s).toUTF8.toList = s.flatMap String.utf8EncodeChar := by
  rw [toList_bytes]
  exact List.toList_data_toByteArray

/-- The encoding of a text is read as this text, and other bytes are not read at all. -/
theorem decode_eq_ok_iff : decode bytes = .ok s ↔ (String.ofList s).toUTF8.toList = bytes := by
  rw [decode, decodeFrom_eq_ok_iff, toUTF8_ofList]
  exact eq_comm

end Text.Utf8

end PageCache
