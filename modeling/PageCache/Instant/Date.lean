/-!
The proleptic Gregorian calendar. Days are counted from the first of January of the year one, which is day zero.
-/

namespace PageCache

structure Date where
  year : Int
  month : Nat
  day : Nat
  deriving DecidableEq

namespace Date

def isLeap (year : Int) : Bool := year % 4 == 0 && (year % 100 != 0 || year % 400 == 0)

def firstDay (year : Int) : Int := 365 * (year - 1) + (year - 1) / 4 - (year - 1) / 100 + (year - 1) / 400

/-- The year of a day: whole spans of 400, 100, 4 years and one year, of which the second and the last may
be a day longer when they end the span around them. -/
def yearOf (day : Int) : Int :=
  let inFourCenturies := day % 146097
  let centuries := min (inFourCenturies / 36524) 3
  let inCentury := inFourCenturies - 36524 * centuries
  let inFourYears := inCentury % 1461
  let years := min (inFourYears / 365) 3
  400 * (day / 146097) + 100 * centuries + 4 * (inCentury / 1461) + years + 1

theorem firstDay_spans {q c f y : Int} (hc : 0 ≤ c ∧ c ≤ 3) (hf : 0 ≤ f ∧ f ≤ 24) (hy : 0 ≤ y ∧ y ≤ 3) :
    firstDay (400 * q + 100 * c + 4 * f + y + 1) = 146097 * q + 36524 * c + 1461 * f + 365 * y := by
  have h4 : (400 * q + 100 * c + 4 * f + y) / 4 = 100 * q + 25 * c + f := by omega
  have h100 : (400 * q + 100 * c + 4 * f + y) / 100 = 4 * q + c := by omega
  have h400 : (400 * q + 100 * c + 4 * f + y) / 400 = q := by omega
  simp only [firstDay, Int.add_sub_cancel, h4, h100, h400]
  omega

theorem firstDay_succ (year : Int) : firstDay (year + 1) = firstDay year + if isLeap year then 366 else 365 := by
  have h4 : (year + 1 - 1) / 4 = (year - 1) / 4 + if year % 4 = 0 then 1 else 0 := by split <;> omega
  have h100 : (year + 1 - 1) / 100 = (year - 1) / 100 + if year % 100 = 0 then 1 else 0 := by split <;> omega
  have h400 : (year + 1 - 1) / 400 = (year - 1) / 400 + if year % 400 = 0 then 1 else 0 := by split <;> omega
  have hd4 : year % 100 = 0 → year % 4 = 0 := by omega
  have hd100 : year % 400 = 0 → year % 100 = 0 := by omega
  simp only [firstDay, isLeap, h4, h100, h400]
  by_cases a : year % 4 = 0 <;> by_cases b : year % 100 = 0 <;> by_cases c : year % 400 = 0 <;>
    simp_all <;> omega

theorem exists_spans (day : Int) : ∃ q c f y r : Int, yearOf day = 400 * q + 100 * c + 4 * f + y + 1 ∧
    day = 146097 * q + 36524 * c + 1461 * f + 365 * y + r ∧ (0 ≤ c ∧ c ≤ 3) ∧ (0 ≤ f ∧ f ≤ 24) ∧
    (0 ≤ y ∧ y ≤ 3) ∧ 0 ≤ r ∧ (r ≤ 364 ∨ r = 365 ∧ y = 3 ∧ (f = 24 → c = 3)) := by
  refine ⟨day / 146097, min (day % 146097 / 36524) 3,
    (day % 146097 - 36524 * min (day % 146097 / 36524) 3) / 1461,
    min ((day % 146097 - 36524 * min (day % 146097 / 36524) 3) % 1461 / 365) 3,
    day % 146097 - 36524 * min (day % 146097 / 36524) 3
      - 1461 * ((day % 146097 - 36524 * min (day % 146097 / 36524) 3) / 1461)
      - 365 * min ((day % 146097 - 36524 * min (day % 146097 / 36524) 3) % 1461 / 365) 3, rfl, ?_⟩
  omega

theorem firstDay_yearOf_le (day : Int) : firstDay (yearOf day) ≤ day := by
  obtain ⟨q, c, f, y, r, hyear, hday, hc, hf, hy, hr, _⟩ := exists_spans day
  rw [hyear, firstDay_spans hc hf hy]
  omega

theorem lt_firstDay_yearOf_succ (day : Int) : day < firstDay (yearOf day + 1) := by
  obtain ⟨q, c, f, y, r, hyear, hday, hc, hf, hy, hr, hlast⟩ := exists_spans day
  rw [firstDay_succ, hyear, firstDay_spans hc hf hy]
  rcases hlast with h | ⟨h, rfl, hfc⟩
  · split <;> omega
  · have hleap : isLeap (400 * q + 100 * c + 4 * f + 3 + 1) = true := by
      simp only [isLeap, Bool.and_eq_true, Bool.or_eq_true, beq_iff_eq, bne_iff_ne, ne_eq]
      omega
    rw [if_pos hleap]
    omega

def monthLengths (leap : Bool) : List Nat :=
  [31, if leap then 29 else 28, 31, 30, 31, 30, 31, 31, 30, 31, 30, 31]

def splitMonths : List Nat → Nat → Nat × Nat
  | [], day => (0, day)
  | length :: rest, day =>
    if day < length then (0, day)
    else
      let (months, left) := splitMonths rest (day - length)
      (months + 1, left)

def ofDay (day : Int) : Date :=
  let year := yearOf day
  let (months, left) := splitMonths (monthLengths (isLeap year)) (day - firstDay year).toNat
  ⟨year, months + 1, left + 1⟩

end PageCache.Date
