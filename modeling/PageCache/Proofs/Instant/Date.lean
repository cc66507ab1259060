import Mathlib.Tactic.Lemma
import PageCache.Instant.Date

/-! A day's date is a date of the calendar, and no other day has it: the day is counted back from
the year, the lengths of the months before and the days of the month. It is the number of days that
passed since the first of January of the year one, and later dates have later days. -/

namespace PageCache

namespace Date

/-- The days in the first months of a year. -/
def daysOf : List Nat → Nat → Nat
  | length :: lengths, months + 1 => length + daysOf lengths months
  | _, _ => 0

def toDay (d : Date) : Int :=
  firstDay d.year + (daysOf (monthLengths (isLeap d.year)) (d.month - 1) + (d.day - 1) : Nat)

def Valid (d : Date) : Prop :=
  1 ≤ d.month ∧ 1 ≤ d.day ∧ ∃ length ∈ (monthLengths (isLeap d.year))[d.month - 1]?, d.day ≤ length

instance (d : Date) : Decidable d.Valid := inferInstanceAs (Decidable (_ ∧ _ ∧ _))

/-- The days in the first years, one year after the other. -/
def daysOfYears : Nat → Nat
  | 0 => 0
  | years + 1 => daysOfYears years + daysOf (monthLengths (isLeap (years + 1))) 12

/-- The days between the first of January of the year one and a date after it. -/
def elapsed (d : Date) : Nat :=
  daysOfYears (d.year.toNat - 1) + daysOf (monthLengths (isLeap d.year)) (d.month - 1) + (d.day - 1)

variable {d d' : Date} {lengths : List Nat} {n : Nat} {day : Int}

lemma daysOf_splitMonths (lengths : List Nat) (n : Nat) :
    daysOf lengths (splitMonths lengths n).1 + (splitMonths lengths n).2 = n := by
  induction lengths generalizing n with
  | nil => exact Nat.zero_add n
  | cons length lengths ih =>
    rw [splitMonths]
    split
    · exact Nat.zero_add n
    · have hrest := ih (n - length)
      simp only [daysOf]
      omega

lemma splitMonths_lt (h : n < daysOf lengths lengths.length) :
    ∃ length ∈ lengths[(splitMonths lengths n).1]?, (splitMonths lengths n).2 < length := by
  induction lengths generalizing n with
  | nil => exact absurd h (Nat.not_lt_zero n)
  | cons length lengths ih =>
    rw [List.length_cons, daysOf] at h
    rw [splitMonths]
    split
    · exact ⟨length, rfl, ‹_›⟩
    · exact ih (by omega)

lemma daysOf_monthLengths (leap : Bool) :
    daysOf (monthLengths leap) (monthLengths leap).length = if leap then 366 else 365 := by
  cases leap <;> rfl

lemma ofDay_eq (day : Int) :
    let months := splitMonths (monthLengths (isLeap (yearOf day))) (day - firstDay (yearOf day)).toNat
    ofDay day = ⟨yearOf day, months.1 + 1, months.2 + 1⟩ := rfl

theorem toDay_ofDay (day : Int) : (ofDay day).toDay = day := by
  have hfirst := firstDay_yearOf_le day
  rw [ofDay_eq, toDay]
  simp only [Nat.add_sub_cancel, daysOf_splitMonths]
  omega

theorem valid_ofDay (day : Int) : (ofDay day).Valid := by
  have hfirst := firstDay_yearOf_le day
  have hnext := lt_firstDay_yearOf_succ day
  rw [firstDay_succ] at hnext
  have hinside : (day - firstDay (yearOf day)).toNat <
      daysOf (monthLengths (isLeap (yearOf day))) (monthLengths (isLeap (yearOf day))).length := by
    rw [daysOf_monthLengths]
    split at hnext <;> split <;> omega
  obtain ⟨length, hlength, hlt⟩ := splitMonths_lt hinside
  exact ⟨Nat.succ_pos _, Nat.succ_pos _, length, hlength, hlt⟩

lemma Valid.month_le (h : d.Valid) : d.month ≤ 12 := by
  obtain ⟨-, -, length, hlength, -⟩ := h
  obtain ⟨hlt, -⟩ := List.getElem?_eq_some_iff.1 hlength
  have hcount : (monthLengths (isLeap d.year)).length = 12 := rfl
  omega

lemma Valid.day_le (h : d.Valid) : d.day ≤ 31 := by
  obtain ⟨-, -, length, hlength, hday⟩ := h
  have hlong : ∀ leap, ∀ length ∈ monthLengths leap, length ≤ 31 := by decide
  exact Nat.le_trans hday (hlong _ length (List.mem_of_getElem? hlength))

lemma yearOf_pos (h : 0 ≤ day) : 1 ≤ yearOf day := by
  simp only [yearOf]
  omega

lemma yearOf_lt {year : Int} (h : day < firstDay year) : yearOf day < year := by
  have hfirst := firstDay_yearOf_le day
  unfold firstDay at h hfirst
  omega

lemma firstDay_eq (years : Nat) : firstDay (years + 1) = daysOfYears years := by
  induction years with
  | zero => rfl
  | succ years ih =>
    have hyear : ((years + 1 : Nat) : Int) = years + 1 := rfl
    have hlength : ∀ leap, daysOf (monthLengths leap) 12 = if leap then 366 else 365 :=
      daysOf_monthLengths
    rw [hyear, firstDay_succ, ih, daysOfYears, hlength]
    split <;> rfl

theorem toDay_eq_elapsed (h : 1 ≤ d.year) : d.toDay = d.elapsed := by
  have hfirst := firstDay_eq (d.year.toNat - 1)
  have hyear : ((d.year.toNat - 1 : Nat) : Int) + 1 = d.year := by omega
  rw [hyear] at hfirst
  rw [toDay, elapsed, hfirst]
  omega

lemma daysOf_add_le {months later length : Nat} (hlength : length ∈ lengths[months]?)
    (h : months < later) : daysOf lengths months + length ≤ daysOf lengths later := by
  induction lengths generalizing months later with
  | nil => cases hlength
  | cons first lengths ih =>
    obtain ⟨later, rfl⟩ := Nat.exists_eq_succ_of_ne_zero (Nat.ne_zero_of_lt h)
    cases months with
    | zero =>
      obtain rfl := Option.some.inj hlength
      simp [daysOf]
    | succ months =>
      have hrest := ih hlength (Nat.lt_of_succ_lt_succ h)
      simp only [daysOf]
      omega

lemma Valid.toDay_lt (h : d.Valid) : d.toDay < firstDay (d.year + 1) := by
  obtain ⟨-, hday, length, hlength, hle⟩ := h
  obtain ⟨hmonths, -⟩ := List.getElem?_eq_some_iff.1 hlength
  have hyear := daysOf_add_le hlength hmonths
  rw [daysOf_monthLengths] at hyear
  rw [toDay, firstDay_succ]
  split at hyear <;> split <;> omega

lemma Valid.toDay_lt_of_year_lt (h : d.Valid) (hyear : d.year < d'.year) : d.toDay < d'.toDay := by
  have hlt := h.toDay_lt
  have hfirst : firstDay (d.year + 1) ≤ firstDay d'.year := by
    simp only [firstDay]
    omega
  simp only [toDay] at hlt ⊢
  omega

lemma Valid.toDay_lt_of_month_lt (h : d.Valid) (hyear : d.year = d'.year)
    (hmonth : d.month < d'.month) : d.toDay < d'.toDay := by
  obtain ⟨hfirst, hday, length, hlength, hle⟩ := h
  have hmonths : d.month - 1 < d'.month - 1 := by omega
  have hbefore := daysOf_add_le hlength hmonths
  rw [toDay, toDay, ← hyear]
  omega

lemma Valid.toDay_lt_of_day_lt (h : d.Valid) (hyear : d.year = d'.year)
    (hmonth : d.month = d'.month) (hday : d.day < d'.day) : d.toDay < d'.toDay := by
  have hfirst := h.2.1
  rw [toDay, toDay, ← hyear, ← hmonth]
  omega

end Date

end PageCache
