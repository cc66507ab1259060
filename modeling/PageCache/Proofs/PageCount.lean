import Mathlib.Tactic.Lemma
import PageCache.Residency

/-! How many pages cover a range, and which ranges a vector of status bytes can be made for. -/

namespace PageCache

lemma pageCount_of_pos {pageSize : Int} (h : 0 < pageSize) (length : Int) :
    pageCount length pageSize = .ok ((length + pageSize - 1) / pageSize) := by
  rw [pageCount, if_neg (by omega), Int.fdiv_eq_ediv_of_nonneg _ (by omega)]

lemma pageCount_le_iff {length pageSize pages : Int} (h : 0 < pageSize)
    (hpages : pageCount length pageSize = .ok pages)
    (n : Int) : pages ≤ n ↔ length ≤ n * pageSize := by
  rw [pageCount_of_pos h, Except.ok.injEq] at hpages
  rw [← hpages, ← Int.lt_add_one_iff, Int.ediv_lt_iff_lt_mul h, Int.add_mul]
  omega

lemma pageCount_least {length pageSize pages : Int} (h : 0 < pageSize)
    (hpages : pageCount length pageSize = .ok pages) :
    length ≤ pages * pageSize ∧ ∀ n, length ≤ n * pageSize → pages ≤ n :=
  ⟨(pageCount_le_iff h hpages pages).1 (Int.le_refl _), fun n hn => (pageCount_le_iff h hpages n).2 hn⟩

namespace Residency

variable {memory : Int}

lemma vectorLength_ok {count : Int} {pages : Nat} (h : vectorLength memory count = .ok pages) :
    count = pages := by
  unfold vectorLength at h
  split at h
  · cases h
  split at h
  · cases h
  split at h
  · cases h
  rw [← Except.ok.inj h]
  omega

lemma vectorLength_of_lt {count : Int} (hcount : 0 ≤ count) (h : count < memory)
    (hmemory : memory ≤ 0x8000000000000000) : vectorLength memory count = .ok count.toNat := by
  rw [vectorLength, if_neg (by omega), if_neg (by omega), if_neg (by omega)]

lemma vectorPages_ok {length pageSize : Int} {pages : Nat}
    (h : vectorPages memory length pageSize = .ok pages) :
    pageCount length pageSize = .ok pages := by
  rw [vectorPages] at h
  cases hcount : pageCount length pageSize with
  | error f =>
    rw [hcount] at h
    cases h
  | ok count =>
    rw [hcount] at h
    rw [vectorLength_ok h]

lemma vectorPages_of_le {length pageSize : Int} (hpageSize : 0 < pageSize) (hlength : 0 ≤ length)
    (hmemory : memory ≤ 0x8000000000000000) (h : length ≤ (memory - 1) * pageSize) :
    ∃ pages, vectorPages memory length pageSize = .ok pages := by
  have hcount := pageCount_of_pos hpageSize length
  have hfew : (length + pageSize - 1) / pageSize ≤ memory - 1 :=
    (pageCount_le_iff hpageSize hcount _).2 h
  have hnonneg : 0 ≤ (length + pageSize - 1) / pageSize := Int.ediv_nonneg (by omega) (by omega)
  rw [vectorPages, hcount]
  exact ⟨_, vectorLength_of_lt hnonneg (by omega) hmemory⟩

end Residency

end PageCache
