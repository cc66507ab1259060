import PageCache.Text.Blank
import PageCache.Text.Digit
/-!
Decimal integers. They are written without leading zeros, and read with a sign, digits of any script,
and single underscores between the digits. Both ways end at `maxDigits` digits.
-/

namespace PageCache.Numeral

def maxDigits : Nat := 4300

def bound : Nat := Nat.pow 10 maxDigits

def Writable (n : Int) : Prop := n.natAbs < bound

instance (n : Int) : Decidable (Writable n) := inferInstanceAs (Decidable (_ < _))

def chars (n : Int) : List Char :=
  if n < 0 then '-' :: Nat.toDigits 10 n.natAbs else Nat.toDigits 10 n.natAbs

def text (n : Int) : String := String.ofList (chars n)

/-- Space around a numeral: blanks but for the four separators among the controls. -/
def isPadding (c : Char) : Bool := Text.isBlank c && !(0x1c ≤ c.toNat && c.toNat ≤ 0x1f)

def digitValues? : List Char → Option (List Nat)
  | [] => none
  | [c] => (Text.digitValue? c).map ([·])
  | c :: '_' :: rest => do return (← Text.digitValue? c) :: (← digitValues? rest)
  | c :: rest => do return (← Text.digitValue? c) :: (← digitValues? rest)

def ofDigits (ds : List Nat) : Nat := ds.foldl (fun n d => 10 * n + d) 0

def natural? (s : List Char) : Option Nat :=
  (digitValues? s).bind fun ds => if ds.length ≤ maxDigits then some (ofDigits ds) else none

def integer? (s : List Char) : Option Int :=
  match Text.trim isPadding s with
  | '-' :: rest => (natural? rest).map fun n => -(n : Int)
  | '+' :: rest => (natural? rest).map Int.ofNat
  | rest => (natural? rest).map Int.ofNat

theorem isDigit_of_mem_toDigits {n : Nat} {c : Char} (h : c ∈ Nat.toDigits 10 n) : c.isDigit = true :=
  Nat.isDigit_of_mem_toDigits (by decide) (by decide) h

theorem mem_chars {n : Int} {c : Char} (h : c ∈ chars n) : c = '-' ∨ c.isDigit = true := by
  unfold chars at h
  split at h
  · exact (List.mem_cons.1 h).imp_right isDigit_of_mem_toDigits
  · exact .inr (isDigit_of_mem_toDigits h)

end PageCache.Numeral
