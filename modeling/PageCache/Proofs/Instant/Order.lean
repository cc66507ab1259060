import Mathlib.Data.Int.Order.Basic
import PageCache.Proofs.Comparison
import PageCache.Proofs.Instant.Iso

/-! Texts of instants are ordered as the instants are. Numbers in the same width are ordered as their
digits, and the text is made of such numbers from the year down to the second. The fraction may be
missing: then the sign of the zone stands in place of the point, and before it. -/

namespace PageCache

lemma Date.Valid.compare_toDay {d d' : Date} (h : d.Valid) (h' : d'.Valid) (hfirst : 1 ≤ d.year)
    (hfirst' : 1 ≤ d'.year) :
    compare [d.year.toNat, d.month, d.day] [d'.year.toNat, d'.month, d'.day] =
      compare d.toDay d'.toDay := by
  simp only [List.compare_cons_cons, List.compare_nil_nil]
  apply then_eq_compare
  · exact fun hlt => h.toDay_lt_of_year_lt (by omega)
  · exact fun hgt => h'.toDay_lt_of_year_lt (by omega)
  intro hnat
  have hyear : d.year = d'.year := by omega
  apply then_eq_compare
  · exact h.toDay_lt_of_month_lt hyear
  · exact h'.toDay_lt_of_month_lt hyear.symm
  intro hmonth
  rw [Ordering.then_eq]
  apply compare_eq_compare
  · exact h.toDay_lt_of_day_lt hyear hmonth
  · exact h'.toDay_lt_of_day_lt hyear.symm hmonth.symm
  · intro hday
    rw [toDay, toDay, hyear, hmonth, hday]

namespace Instant

open Text

variable {width m n : Nat} {s s' t t' : List Char} {fields fields' : List (Nat × Nat)}

/-- What was read before weighs more than the digits that follow. -/
lemma compare_ofDigitChars (hs : ∀ c ∈ s, c.isDigit = true) (hs' : ∀ c ∈ s', c.isDigit = true)
    (hlength : s.length = s'.length) (a b : Nat) :
    (compare a b).then (compare s s') =
      compare (Nat.ofDigitChars 10 s a) (Nat.ofDigitChars 10 s' b) := by
  induction s generalizing s' a b with
  | nil =>
    obtain rfl := List.eq_nil_of_length_eq_zero hlength.symm
    simp
  | cons c s ih =>
    cases s' with
    | nil => cases hlength
    | cons c' s' =>
      obtain ⟨hc, hs⟩ := List.forall_mem_cons.1 hs
      obtain ⟨hc', hs'⟩ := List.forall_mem_cons.1 hs'
      have hdigit := Numeral.toNat_of_isDigit hc
      have hdigit' := Numeral.toNat_of_isDigit hc'
      have hzero : '0'.toNat = 0x30 := rfl
      have hfirst : (compare a b).then (compare c c') =
          compare (10 * a + (c.toNat - '0'.toNat)) (10 * b + (c'.toNat - '0'.toNat)) := by
        rw [← compare_toNat]
        apply then_eq_compare
        · omega
        · omega
        intro hequal
        apply compare_eq_compare <;> omega
      rw [Nat.ofDigitChars_cons, Nat.ofDigitChars_cons, ← ih hs hs' (Nat.succ.inj hlength),
        ← hfirst, List.compare_cons_cons, Ordering.then_assoc]

lemma compare_of_number? (hm : number? width s = some m) (hn : number? width s' = some n) :
    compare s s' = compare m n := by
  simp only [number?, Option.ite_none_right_eq_some, Option.some.injEq, List.all_eq_true] at hm hn
  obtain ⟨⟨hlength, hdigits⟩, rfl⟩ := hm
  obtain ⟨⟨hlength', hdigits'⟩, rfl⟩ := hn
  rw [← compare_ofDigitChars hdigits hdigits' (hlength.trans hlength'.symm)]
  rfl

lemma compare_digits (hwidth : 0 < width) (hm : m < 10 ^ width) (hn : n < 10 ^ width) :
    compare (digits width m) (digits width n) = compare m n :=
  compare_of_number? (number?_digits hwidth hm) (number?_digits hwidth hn)

lemma map_length_printed (h : ∀ f ∈ fields, 0 < f.1 ∧ f.2 < 10 ^ f.1) :
    (printed fields).map List.length = fields.map (·.1) := by
  rw [printed, List.map_map]
  exact List.map_congr_left fun f hf => length_digits (h f hf).1 (h f hf).2

lemma compare_printed (hwidths : fields.map (·.1) = fields'.map (·.1))
    (h : ∀ f ∈ fields, 0 < f.1 ∧ f.2 < 10 ^ f.1) (h' : ∀ f ∈ fields', 0 < f.1 ∧ f.2 < 10 ^ f.1) :
    compare (printed fields) (printed fields') =
      compare (fields.map (·.2)) (fields'.map (·.2)) := by
  induction fields generalizing fields' with
  | nil =>
    obtain rfl := List.map_eq_nil_iff.1 hwidths.symm
    rfl
  | cons f fields ih =>
    cases fields' with
    | nil => cases hwidths
    | cons f' fields' =>
      obtain ⟨hpos, hlt⟩ := h f List.mem_cons_self
      obtain ⟨-, hlt'⟩ := h' f' List.mem_cons_self
      have hwidth : f.1 = f'.1 := (List.cons.inj hwidths).1
      have hrest := ih (List.cons.inj hwidths).2 (List.forall_mem_cons.1 h).2
        (List.forall_mem_cons.1 h').2
      simp only [printed, List.map_cons, List.compare_cons_cons] at hrest ⊢
      rw [← hwidth] at hlt' ⊢
      rw [hrest, compare_digits hpos hlt hlt']

lemma compare_fields {separator : List Char} (hwidths : fields.map (·.1) = fields'.map (·.1))
    (h : ∀ f ∈ fields, 0 < f.1 ∧ f.2 < 10 ^ f.1) (h' : ∀ f ∈ fields', 0 < f.1 ∧ f.2 < 10 ^ f.1) :
    compare (joinWith separator (printed fields) ++ t) (joinWith separator (printed fields') ++ t') =
      (compare (fields.map (·.2)) (fields'.map (·.2))).then (compare t t') := by
  have hlengths : (printed fields).map List.length = (printed fields').map List.length := by
    rw [map_length_printed h, map_length_printed h', hwidths]
  rw [compare_joinWith_append hlengths, compare_printed hwidths h h']

lemma compare_dateText {d d' : Date} (hvalid : d.Valid) (hvalid' : d'.Valid)
    (hyear : 1 ≤ d.year ∧ d.year < 10000) (hyear' : 1 ≤ d'.year ∧ d'.year < 10000) :
    compare (dateText d ++ t) (dateText d' ++ t') =
      (compare d.toDay d'.toDay).then (compare t t') := by
  have hwidths : (dateFields d).map (·.1) = (dateFields d').map (·.1) := rfl
  rw [dateText_eq, dateText_eq, compare_fields hwidths (forall_mem_dateFields hvalid hyear.2)
    (forall_mem_dateFields hvalid' hyear'.2), ← hvalid.compare_toDay hvalid' hyear.1 hyear'.1]
  rfl

lemma compare_clockFields (second second' : Nat) :
    compare ((clockFields second).map (·.2)) ((clockFields second').map (·.2)) =
      compare second second' := by
  simp only [clockFields, List.map_cons, List.map_nil, List.compare_cons_cons, List.compare_nil_nil]
  apply then_eq_compare
  · omega
  · omega
  intro hhour
  apply then_eq_compare
  · omega
  · omega
  intro hminute
  rw [Ordering.then_eq]
  apply compare_eq_compare <;> omega

lemma compare_timeText {second second' : Nat} (h : second < 86400) (h' : second' < 86400) :
    compare (timeText second ++ t) (timeText second' ++ t') =
      (compare second second').then (compare t t') := by
  have hwidths : (clockFields second).map (·.1) = (clockFields second').map (·.1) := rfl
  rw [timeText_eq, timeText_eq, compare_fields hwidths (forall_mem_clockFields h)
    (forall_mem_clockFields h'), compare_clockFields]

lemma compare_fractionText {zone : List Char} {fraction fraction' : Nat}
    (h : fraction < 1000000) (h' : fraction' < 1000000) :
    compare (fractionText fraction ++ '+' :: zone) (fractionText fraction' ++ '+' :: zone) =
      compare fraction fraction' := by
  cases fraction with
  | zero =>
    cases fraction' with
    | zero => simp
    | succ fraction' =>
      rw [Nat.compare_eq_lt.2 (Nat.succ_pos fraction')]
      rfl
  | succ fraction =>
    cases fraction' with
    | zero =>
      rw [Nat.compare_eq_gt.2 (Nat.succ_pos fraction)]
      rfl
    | succ fraction' =>
      have hwidth : 0 < 6 := by decide
      have hlength : (digits 6 (fraction + 1)).length = (digits 6 (fraction' + 1)).length := by
        rw [length_digits hwidth h, length_digits hwidth h']
      simp [fractionText, List.compare_cons_cons, compare_append hlength,
        compare_digits hwidth h h']

lemma iso_eq (t : Instant) :
    t.iso = dateText (Date.ofDay t.day) ++ (['T'] ++ (timeText t.secondOfDay ++
      (fractionText t.fraction ++ '+' :: "00:00".toList))) := by
  simp [iso]

theorem compare_iso (t t' : Instant) : compare t.iso t'.iso = compare t.micros t'.micros := by
  rw [iso_eq, iso_eq, compare_dateText (Date.valid_ofDay _) (Date.valid_ofDay _) t.year_bounds
    t'.year_bounds, compare_append_left, compare_timeText t.secondOfDay_lt t'.secondOfDay_lt,
    compare_fractionText t.fraction_lt t'.fraction_lt, Date.toDay_ofDay, Date.toDay_ofDay]
  have hmicros := t.micros_eq_day
  have hmicros' := t'.micros_eq_day
  have hsecond := t.secondOfDay_lt
  have hsecond' := t'.secondOfDay_lt
  have hfraction := t.fraction_lt
  have hfraction' := t'.fraction_lt
  apply then_eq_compare
  · omega
  · omega
  intro hday
  apply then_eq_compare
  · omega
  · omega
  intro htime
  apply compare_eq_compare <;> omega

lemma iso_inj {t t' : Instant} : t.iso = t'.iso ↔ t = t' := by
  refine ⟨fun h => ?_, congrArg iso⟩
  have hread := readMicros?_iso t
  rw [h, readMicros?_iso] at hread
  cases t
  cases t'
  simpa using hread.symm

end Instant

end PageCache
