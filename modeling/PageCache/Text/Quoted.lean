import PageCache.Text.Hex
import PageCache.Text.Printable
/-!
Quoted text: between single quotes, or between double quotes if it holds single quotes only. The mark
itself, the backslash and everything that is not printable are escaped.
-/

namespace PageCache.Text

def singleQuote : Char := '\x27'

def doubleQuote : Char := '\x22'

def backslash : Char := '\x5c'

def quoteMark (s : List Char) : Char :=
  if s.contains singleQuote && !s.contains doubleQuote then doubleQuote else singleQuote

def escaped (mark c : Char) : List Char :=
  if c = mark ∨ c = backslash then [backslash, c]
  else if c = '\n' then [backslash, 'n']
  else if c = '\r' then [backslash, 'r']
  else if c = '\t' then [backslash, 't']
  else if isPrintable c then [c]
  else if c.toNat < 0x100 then backslash :: 'x' :: hexDigits 2 c.toNat
  else if c.toNat < 0x10000 then backslash :: 'u' :: hexDigits 4 c.toNat
  else backslash :: 'U' :: hexDigits 8 c.toNat

def quoted (s : List Char) : List Char :=
  let mark := quoteMark s
  mark :: s.flatMap (escaped mark) ++ [mark]

def quote (s : String) : String := String.ofList (quoted s.toList)

end PageCache.Text
