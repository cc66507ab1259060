import Mathlib.Algebra.Group.Nat.Defs
import PageCache.Instant.Iso
import PageCache.Proofs.Instant.Date
import PageCache.Proofs.Numeral
import PageCache.Proofs.Text.Split

/-! The text of an instant is read back: the date into its day, the time of day into its second, and
the fraction, if there is one, into microseconds. Every date and time of the years one to 9999 is an
instant. -/

namespace PageCache

namespace Instant

open Text

def number? (width : Nat) (s : List Char) : Option Nat :=
  if s.length = width ∧ s.all Char.isDigit = true then some (Nat.ofDigitChars 10 s 0) else none

def numbers? : List Nat → List (List Char) → Option (List Nat)
  | [], [] => some []
  | width :: widths, s :: parts => do return (← number? width s) :: (← numbers? widths parts)
  | _, _ => none

def readDay? (s : List Char) : Option Int :=
  match numbers? [4, 2, 2] (s.splitOn '-') with
  | some [year, month, day] =>
    if Date.Valid ⟨year, month, day⟩ then some (Date.toDay ⟨year, month, day⟩) else none
  | _ => none

def readClock? (s : List Char) : Option Nat :=
  match numbers? [2, 2, 2] (s.splitOn ':') with
  | some [hour, minute, second] =>
    if hour < 24 ∧ minute < 60 ∧ second < 60 then some ((hour * 60 + minute) * 60 + second) else none
  | _ => none

def readTime? (s : List Char) : Option (Nat × Nat) :=
  match s.splitOn '.' with
  | [clock] => do return (← readClock? clock, 0)
  | [clock, fraction] => do return (← readClock? clock, ← number? 6 fraction)
  | _ => none

/-- The second since 1970 that a text in UTC tells, and the microseconds behind it. -/
def read? (s : List Char) : Option (Int × Nat) :=
  match s.splitOn 'T' with
  | [date, rest] =>
    match rest.splitOn '+' with
    | [time, zone] =>
      if zone = "00:00".toList then do
        let day ← readDay? date
        let (second, fraction) ← readTime? time
        return ((day - epochDay) * 86400 + second, fraction)
      else none
    | _ => none
  | _ => none

def readDate? (s : List Char) : Option Date :=
  match numbers? [4, 2, 2] (s.splitOn '-') with
  | some [year, month, day] =>
    if 1 ≤ year ∧ Date.Valid ⟨year, month, day⟩ then some ⟨year, month, day⟩ else none
  | _ => none

/-- The microseconds from the start of 1970 to a time of day. -/
def microsOf (d : Date) (second fraction : Nat) : Int :=
  (((d.elapsed : Int) - Date.elapsed ⟨1970, 1, 1⟩) * 86400 + second) * 1000000 + fraction

/-- The microseconds since 1970 that a text in UTC tells, with its days counted year by year. -/
def readMicros? (s : List Char) : Option Int :=
  match s.splitOn 'T' with
  | [date, rest] =>
    match rest.splitOn '+' with
    | [time, zone] =>
      if zone = "00:00".toList then do
        let d ← readDate? date
        let (second, fraction) ← readTime? time
        return microsOf d second fraction
      else none
    | _ => none
  | _ => none

/-- Numbers in fixed widths, side by side with their widths. -/
def printed (fields : List (Nat × Nat)) : List (List Char) := fields.map fun f => digits f.1 f.2

def dateFields (d : Date) : List (Nat × Nat) := [(4, d.year.toNat), (2, d.month), (2, d.day)]

def clockFields (second : Nat) : List (Nat × Nat) :=
  [(2, second / 3600), (2, second / 60 % 60), (2, second % 60)]

variable {width n : Nat} {c : Char} {fields : List (Nat × Nat)}

lemma isDigit_of_mem_digits (h : c ∈ digits width n) : c.isDigit = true := by
  obtain h | h := List.mem_append.1 h
  · rw [List.eq_of_mem_replicate h]
    decide
  · exact Numeral.isDigit_of_mem_toDigits h

lemma length_digits (hwidth : 0 < width) (h : n < 10 ^ width) : (digits width n).length = width := by
  have hlength := (Nat.length_toDigits_le_iff (b := 10) (by decide) hwidth).2 h
  rw [digits, length_zeroFill]
  exact Nat.max_eq_left hlength

lemma number?_digits (hwidth : 0 < width) (h : n < 10 ^ width) :
    number? width (digits width n) = some n := by
  have hdigits : (digits width n).all Char.isDigit = true :=
    List.all_eq_true.2 fun _ => isDigit_of_mem_digits
  rw [number?, if_pos ⟨length_digits hwidth h, hdigits⟩, digits, zeroFill,
    Nat.ofDigitChars_append, Nat.ofDigitChars_replicate_zero, Nat.mul_zero,
    Nat.ofDigitChars_toDigits (by decide) (by decide)]

lemma numbers?_printed (h : ∀ f ∈ fields, 0 < f.1 ∧ f.2 < 10 ^ f.1) :
    numbers? (fields.map (·.1)) (printed fields) = some (fields.map (·.2)) := by
  induction fields with
  | nil => rfl
  | cons f fields ih =>
    obtain ⟨⟨hwidth, hlt⟩, hfields⟩ := List.forall_mem_cons.1 h
    have hrest : numbers? (fields.map (·.1)) (fields.map fun f => digits f.1 f.2) = _ := ih hfields
    simp only [printed, List.map_cons, numbers?, number?_digits hwidth hlt, hrest]
    rfl

lemma not_mem_printed (hc : c.isDigit = false) : ∀ s ∈ printed fields, c ∉ s := by
  intro s hs hmem
  obtain ⟨f, -, rfl⟩ := List.mem_map.1 hs
  rw [isDigit_of_mem_digits hmem] at hc
  cases hc

lemma numbers?_splitOn (hc : c.isDigit = false) (hne : fields ≠ [])
    (h : ∀ f ∈ fields, 0 < f.1 ∧ f.2 < 10 ^ f.1) :
    numbers? (fields.map (·.1)) ((joinWith [c] (printed fields)).splitOn c) =
      some (fields.map (·.2)) := by
  have hparts : printed fields ≠ [] := mt List.map_eq_nil_iff.1 hne
  rw [splitOn_joinWith_of_not_mem hparts (not_mem_printed hc)]
  exact numbers?_printed h

lemma not_mem_joinWith_printed {separator : List Char} (hc : c.isDigit = false)
    (h : c ∉ separator) : c ∉ joinWith separator (printed fields) := by
  rw [mem_joinWith_iff h]
  rintro ⟨s, hs, hmem⟩
  exact not_mem_printed hc s hs hmem

lemma dateText_eq (d : Date) : dateText d = joinWith ['-'] (printed (dateFields d)) := by
  simp [dateText, printed, dateFields, joinWith]

lemma timeText_eq (second : Nat) :
    timeText second = joinWith [':'] (printed (clockFields second)) := by
  simp [timeText, printed, clockFields, joinWith]

lemma forall_mem_dateFields {d : Date} (hvalid : d.Valid) (hlast : d.year < 10000) :
    ∀ f ∈ dateFields d, 0 < f.1 ∧ f.2 < 10 ^ f.1 := by
  have hmonth := hvalid.month_le
  have hday := hvalid.day_le
  simp [dateFields]
  omega

lemma forall_mem_clockFields {second : Nat} (h : second < 86400) :
    ∀ f ∈ clockFields second, 0 < f.1 ∧ f.2 < 10 ^ f.1 := by
  simp [clockFields]
  omega

lemma numbers?_dateText {d : Date} (hvalid : d.Valid) (hlast : d.year < 10000) :
    numbers? [4, 2, 2] ((dateText d).splitOn '-') = some [d.year.toNat, d.month, d.day] := by
  rw [dateText_eq]
  exact numbers?_splitOn rfl (List.cons_ne_nil _ _) (forall_mem_dateFields hvalid hlast)

lemma numbers?_timeText {second : Nat} (h : second < 86400) :
    numbers? [2, 2, 2] ((timeText second).splitOn ':') =
      some [second / 3600, second / 60 % 60, second % 60] := by
  rw [timeText_eq]
  exact numbers?_splitOn rfl (List.cons_ne_nil _ _) (forall_mem_clockFields h)

lemma readDay?_dateText {d : Date} (hvalid : d.Valid) (hfirst : 0 ≤ d.year)
    (hlast : d.year < 10000) : readDay? (dateText d) = some d.toDay := by
  have hdate : (⟨(d.year.toNat : Int), d.month, d.day⟩ : Date) = d := by
    rw [Int.toNat_of_nonneg hfirst]
  simp only [readDay?, numbers?_dateText hvalid hlast, hdate]
  exact if_pos hvalid

lemma readDate?_dateText {d : Date} (hvalid : d.Valid) (hfirst : 1 ≤ d.year)
    (hlast : d.year < 10000) : readDate? (dateText d) = some d := by
  have hyear : 1 ≤ d.year.toNat := by omega
  have hdate : (⟨(d.year.toNat : Int), d.month, d.day⟩ : Date) = d := by
    rw [Int.toNat_of_nonneg (by omega)]
  simp only [readDate?, numbers?_dateText hvalid hlast, hdate]
  exact if_pos ⟨hyear, hvalid⟩

example : readDay? "2000-02-29".toList = some 730178 ∧ readDay? "2001-02-29".toList = none := by
  decide +kernel

lemma readClock?_timeText {second : Nat} (h : second < 86400) :
    readClock? (timeText second) = some second := by
  have hsecond : (second / 3600 * 60 + second / 60 % 60) * 60 + second % 60 = second := by omega
  simp only [readClock?, numbers?_timeText h, hsecond]
  apply if_pos
  omega

lemma not_mem_dateText {c : Char} (hc : c.isDigit = false) (h : c ≠ '-') (d : Date) :
    c ∉ dateText d := by
  rw [dateText_eq]
  exact not_mem_joinWith_printed hc (mt List.mem_singleton.1 h)

lemma not_mem_timeText {c : Char} (hc : c.isDigit = false) (h : c ≠ ':') (second : Nat) :
    c ∉ timeText second := by
  rw [timeText_eq]
  exact not_mem_joinWith_printed hc (mt List.mem_singleton.1 h)

lemma not_mem_fractionText {c : Char} (hc : c.isDigit = false) (h : c ≠ '.') (fraction : Nat) :
    c ∉ fractionText fraction := by
  unfold fractionText
  split
  · exact List.not_mem_nil
  · intro hmem
    obtain rfl | hmem := List.mem_cons.1 hmem
    · exact h rfl
    · rw [isDigit_of_mem_digits hmem] at hc
      cases hc

lemma readTime?_append {second fraction : Nat} (hsecond : second < 86400)
    (hfraction : fraction < 1000000) :
    readTime? (timeText second ++ fractionText fraction) = some (second, fraction) := by
  have hclock : '.' ∉ timeText second := not_mem_timeText rfl (by decide) second
  by_cases hzero : fraction = 0
  · have hsplit : (timeText second ++ fractionText fraction).splitOn '.' = [timeText second] := by
      rw [fractionText, if_pos hzero, List.append_nil, List.splitOn_eq_singleton hclock]
    simp only [readTime?, hsplit, readClock?_timeText hsecond]
    rw [hzero]
    rfl
  · have hdigits : '.' ∉ digits 6 fraction := fun hmem =>
      absurd (isDigit_of_mem_digits hmem) (by decide)
    have hsplit : (timeText second ++ fractionText fraction).splitOn '.' =
        [timeText second, digits 6 fraction] := by
      rw [fractionText, if_neg hzero, List.splitOn_append_cons_self,
        List.splitOn_eq_singleton hclock, List.splitOn_eq_singleton hdigits, List.singleton_append]
    simp only [readTime?, hsplit, readClock?_timeText hsecond,
      number?_digits (by decide : 0 < 6) hfraction]
    rfl

lemma day_bounds (t : Instant) : 0 ≤ t.day ∧ t.day < Date.firstDay 10000 := by
  have hfirst := t.first_le
  have hlast := t.le_last
  unfold firstMicros at hfirst
  unfold lastMicros at hlast
  simp only [day, second, epochDay, Date.firstDay]
  omega

lemma second_eq (t : Instant) : (t.day - epochDay) * 86400 + t.secondOfDay = t.second := by
  simp only [day, secondOfDay]
  omega

lemma year_bounds (t : Instant) :
    1 ≤ (Date.ofDay t.day).year ∧ (Date.ofDay t.day).year < 10000 :=
  ⟨Date.yearOf_pos (day_bounds t).1, Date.yearOf_lt (day_bounds t).2⟩

lemma readDay?_day (t : Instant) : readDay? (dateText (Date.ofDay t.day)) = some t.day := by
  obtain ⟨hfirst, hlast⟩ := year_bounds t
  rw [readDay?_dateText (Date.valid_ofDay t.day) (by omega) hlast, Date.toDay_ofDay]

/-- What stands on either side of the letter between date and time, and of the sign of the zone. -/
lemma splitOn_iso (t : Instant) :
    ∃ rest, t.iso.splitOn 'T' = [dateText (Date.ofDay t.day), rest] ∧
      rest.splitOn '+' =
        [timeText t.secondOfDay ++ fractionText t.fraction, "00:00".toList] := by
  have htime : ∀ c, c.isDigit = false → c ≠ ':' → c ≠ '.' →
      c ∉ timeText t.secondOfDay ++ fractionText t.fraction := by
    intro c hc hcolon hpoint hmem
    obtain hmem | hmem := List.mem_append.1 hmem
    · exact not_mem_timeText hc hcolon _ hmem
    · exact not_mem_fractionText hc hpoint _ hmem
  refine ⟨timeText t.secondOfDay ++ fractionText t.fraction ++ '+' :: "00:00".toList, ?_, ?_⟩
  · have hiso : t.iso = dateText (Date.ofDay t.day) ++
        'T' :: (timeText t.secondOfDay ++ fractionText t.fraction ++ '+' :: "00:00".toList) := by
      simp [iso]
    have hrest : 'T' ∉ timeText t.secondOfDay ++ fractionText t.fraction ++
        '+' :: "00:00".toList := by
      rw [List.mem_append]
      exact not_or_intro (htime 'T' rfl (by decide) (by decide)) (by decide)
    rw [hiso, List.splitOn_append_cons_self, List.splitOn_eq_singleton hrest,
      List.splitOn_eq_singleton (not_mem_dateText rfl (by decide) _), List.singleton_append]
  · rw [List.splitOn_append_cons_self,
      List.splitOn_eq_singleton (htime '+' rfl (by decide) (by decide))]
    rfl

theorem read?_iso (t : Instant) : read? t.iso = some (t.second, t.fraction) := by
  obtain ⟨rest, hdate, hzone⟩ := splitOn_iso t
  have htime := readTime?_append t.secondOfDay_lt t.fraction_lt
  simp only [read?, hdate, hzone, if_true, readDay?_day, htime]
  exact congrArg (fun second => some (second, t.fraction)) (second_eq t)

lemma microsOf_eq {d : Date} (h : 1 ≤ d.year) (second fraction : Nat) :
    microsOf d second fraction = ((d.toDay - epochDay) * 86400 + second) * 1000000 + fraction := by
  have hepoch : ((Date.elapsed ⟨1970, 1, 1⟩ : Nat) : Int) = epochDay :=
    (Date.toDay_eq_elapsed (by decide)).symm.trans (by decide)
  rw [microsOf, hepoch, Date.toDay_eq_elapsed h]

lemma micros_eq_day (t : Instant) :
    t.micros = ((t.day - epochDay) * 86400 + t.secondOfDay) * 1000000 + t.fraction := by
  simp only [day, secondOfDay, second, fraction]
  omega

lemma microsOf_day (t : Instant) :
    microsOf (Date.ofDay t.day) t.secondOfDay t.fraction = t.micros := by
  rw [microsOf_eq (year_bounds t).1, Date.toDay_ofDay, micros_eq_day]

theorem readMicros?_iso (t : Instant) : readMicros? t.iso = some t.micros := by
  obtain ⟨rest, hdate, hzone⟩ := splitOn_iso t
  obtain ⟨hfirst, hlast⟩ := year_bounds t
  have hday := readDate?_dateText (Date.valid_ofDay t.day) hfirst hlast
  have htime := readTime?_append t.secondOfDay_lt t.fraction_lt
  simp only [readMicros?, hdate, hzone, if_true, hday, htime]
  exact congrArg some (microsOf_day t)

theorem exists_of_date {d : Date} (hvalid : d.Valid) (hfirst : 1 ≤ d.year) (hlast : d.year < 10000)
    {second fraction : Nat} (hsecond : second < 86400) (hfraction : fraction < 1000000) :
    ∃ t : Instant, t.micros = microsOf d second fraction := by
  have helapsed := Date.toDay_eq_elapsed hfirst
  have hlater := hvalid.toDay_lt
  have hyear : Date.firstDay (d.year + 1) ≤ Date.firstDay 10000 := by
    simp only [Date.firstDay]
    omega
  have hend : Date.firstDay 10000 = 3652059 := rfl
  have hmicros := microsOf_eq hfirst second fraction
  unfold epochDay at hmicros
  refine ⟨⟨microsOf d second fraction, ?_, ?_⟩, rfl⟩
  · unfold firstMicros
    omega
  · unfold lastMicros
    omega

end Instant

end PageCache
