/-!
Answers given in turn: each question takes the next one, and the last one is given ever after.
-/

namespace PageCache

structure Script (α : Type) where
  head : α
  tail : List α := []

namespace Script

variable {α : Type}

def ofList? : List α → Option (Script α)
  | [] => none
  | a :: rest => some ⟨a, rest⟩

def advance (s : Script α) : Script α :=
  match s.tail with
  | [] => s
  | a :: rest => ⟨a, rest⟩

def Constant (s : Script α) : Prop := s.tail = []

theorem advance_of_constant {s : Script α} (h : s.Constant) : s.advance = s := by
  cases s
  simp_all [Constant, advance]

end PageCache.Script
