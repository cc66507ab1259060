import PageCache.Numeral
/-!
Processes, by what they are called.
-/

namespace PageCache

inductive Process where
  | numbered (id : Int)
  | blank
  deriving DecidableEq

namespace Process

def name : Process → String
  | .numbered id => Numeral.text id
  | .blank => "[]"

def Nameable : Process → Prop
  | .numbered id => Numeral.Writable id
  | .blank => True

instance : (p : Process) → Decidable p.Nameable
  | .numbered id => inferInstanceAs (Decidable (Numeral.Writable id))
  | .blank => isTrue trivial

end Process

end PageCache
