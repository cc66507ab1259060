/-!
The status of the pages of a range, one byte for each page. The bytes repeat a pattern, so the resident pages are
counted in whole patterns and in what is left of one.
-/

namespace PageCache

/-- Only the lowest bit of a status byte tells. -/
def isResident (status : UInt8) : Bool := status % 2 == 1

def countResident (vector : List UInt8) : Nat := vector.countP isResident

structure PageStatus where
  pattern : List UInt8
  pages : Nat
  deriving DecidableEq

namespace PageStatus

def page (s : PageStatus) (i : Nat) : UInt8 := s.pattern.getD (i % s.pattern.length) 0

def toList (s : PageStatus) : List UInt8 := (List.range s.pages).map s.page

def resident (s : PageStatus) : Nat :=
  s.pages / s.pattern.length * countResident s.pattern +
    countResident (s.pattern.take (s.pages % s.pattern.length))

theorem length_toList (s : PageStatus) : s.toList.length = s.pages := by simp [toList]

theorem countResident_append (a b : List UInt8) : countResident (a ++ b) = countResident a + countResident b :=
  List.countP_append

theorem toList_add_length (pattern : List UInt8) (n : Nat) :
    toList ⟨pattern, n + pattern.length⟩ = pattern ++ toList ⟨pattern, n⟩ := by
  apply List.ext_getElem
  · simp [toList, Nat.add_comm]
  · intro i h _
    by_cases hi : i < pattern.length
    · simp [toList, page, List.getElem_append_left hi, Nat.mod_eq_of_lt hi, hi]
    · have : (i - pattern.length) % pattern.length = i % pattern.length := (Nat.mod_eq_sub_mod (by omega)).symm
      simp [toList, page, List.getElem_append_right (Nat.le_of_not_lt hi), this]

theorem toList_of_lt {pattern : List UInt8} {n : Nat} (h : n < pattern.length) :
    toList ⟨pattern, n⟩ = pattern.take n := by
  apply List.ext_getElem
  · simp [toList, Nat.le_of_lt h]
  · intro i hi _
    have hn : i < n := by simpa [toList] using hi
    simp [toList, page, Nat.mod_eq_of_lt (Nat.lt_trans hn h), Nat.lt_trans hn h]

theorem resident_eq (s : PageStatus) : s.resident = countResident s.toList := by
  obtain ⟨pattern, n⟩ := s
  by_cases hp : pattern.length = 0
  · obtain rfl := List.eq_nil_of_length_eq_zero hp
    have none_resident : ∀ b ∈ toList ⟨[], n⟩, ¬isResident b = true := by simp [toList, page, isResident]
    rw [countResident, List.countP_eq_zero.2 none_resident]
    simp [resident, countResident]
  · induction n using Nat.strongRecOn with
    | ind n ih =>
      by_cases h : n < pattern.length
      · simp [resident, toList_of_lt h, Nat.div_eq_of_lt h, Nat.mod_eq_of_lt h]
      · obtain ⟨m, rfl⟩ : ∃ m, n = m + pattern.length := ⟨n - pattern.length, by omega⟩
        rw [toList_add_length, countResident_append, ← ih m (by omega)]
        simp only [resident, Nat.add_div_right m (by omega : 0 < pattern.length), Nat.add_mod_right, Nat.succ_mul]
        omega

end PageStatus

end PageCache
