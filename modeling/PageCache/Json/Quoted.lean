import PageCache.Text.Quoted
import PageCache.Text.Utf16
/-!
Quoted text of JSON. Written text is ASCII without controls: any other character is escaped by its UTF-16
units. Read text may hold every character that need not be escaped.
-/

namespace PageCache.Json.Quoted

open PageCache.Text

def unitEscape (unit : Nat) : List Char := backslash :: 'u' :: hexDigits 4 unit

/-- The letters that stand for controls, and the controls. -/
def shortEscapes : List (Char × Char) := [('n', '\n'), ('r', '\r'), ('t', '\t'), ('b', '\x08'), ('f', '\x0c')]

def encodeChar (c : Char) : List Char :=
  if c = doubleQuote ∨ c = backslash then [backslash, c]
  else match shortEscapes.find? (·.2 == c) with
    | some (letter, _) => [backslash, letter]
    | none =>
      if 0x20 ≤ c.toNat ∧ c.toNat < 0x7f then [c]
      else if c.toNat < 0x10000 then unitEscape c.toNat
      else unitEscape (Utf16.highUnit c.toNat) ++ unitEscape (Utf16.lowUnit c.toNat)

def encode (s : List Char) : List Char := doubleQuote :: s.flatMap encodeChar ++ [doubleQuote]

def unit? (a b c d : Char) : Option Nat := do
  return (((← hexValue? a) * 16 + (← hexValue? b)) * 16 + (← hexValue? c)) * 16 + (← hexValue? d)

def unescape? (c : Char) : Option Char :=
  if c = doubleQuote ∨ c = backslash ∨ c = '/' then some c
  else (shortEscapes.find? (·.1 == c)).map (·.2)

/-- Reads up to the closing mark: the units, where an unescaped character counts as one, and what follows. -/
def readUnits? : List Char → Option (List Nat × List Char)
  | [] => none
  | '\x5c' :: 'u' :: a :: b :: c :: d :: rest => do
    let unit ← unit? a b c d
    let (units, after) ← readUnits? rest
    return (unit :: units, after)
  | '\x5c' :: c :: rest => do
    let plain ← unescape? c
    let (units, after) ← readUnits? rest
    return (plain.toNat :: units, after)
  | c :: rest =>
    if c = doubleQuote then some ([], rest)
    else if c.toNat < 0x20 || c = backslash then none
    else do
      let (units, after) ← readUnits? rest
      return (c.toNat :: units, after)

def decode? (s : List Char) : Option (List Char × List Char) :=
  (readUnits? s).map fun (units, after) => (Utf16.decode units, after)

theorem length_lt_of_readUnits? {s after : List Char} {units : List Nat}
    (h : readUnits? s = some (units, after)) : after.length < s.length := by
  fun_induction readUnits? s generalizing units with
  | case1 => simp at h
  | case2 a b c d rest ih =>
    simp only [bind, Option.bind_eq_some_iff, pure, Option.some.injEq, Prod.exists, Prod.mk.injEq] at h
    obtain ⟨_, _, us, t, ht, _, rfl⟩ := h
    have := ih ht
    simp only [List.length_cons]
    omega
  | case3 c rest _ ih =>
    simp only [bind, Option.bind_eq_some_iff, pure, Option.some.injEq, Prod.exists, Prod.mk.injEq] at h
    obtain ⟨_, _, us, t, ht, _, rfl⟩ := h
    have := ih ht
    simp only [List.length_cons]
    omega
  | case4 => simp_all
  | case5 => simp at h
  | case6 c rest _ _ _ _ ih =>
    simp only [bind, Option.bind_eq_some_iff, pure, Option.some.injEq, Prod.exists, Prod.mk.injEq] at h
    obtain ⟨us, t, ht, _, rfl⟩ := h
    have := ih ht
    simp only [List.length_cons]
    omega

theorem length_lt_of_decode? {s t after : List Char} (h : decode? s = some (t, after)) :
    after.length < s.length := by
  obtain ⟨⟨units, rest⟩, hu, he⟩ := Option.map_eq_some_iff.1 h
  simp only [Prod.mk.injEq] at he
  exact he.2 ▸ length_lt_of_readUnits? hu

end PageCache.Json.Quoted
