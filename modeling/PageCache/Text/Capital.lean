/-!
Latin capitals. The capital form of a letter is more than one character where the letter is joined of several.
-/

namespace PageCache.Text

/-- The letters beyond ASCII whose capital form is in ASCII. -/
def latinLetters : List (Char × List Char) := [
  ('\u00df', ['S', 'S']), ('\u0131', ['I']), ('\u017f', ['S']), ('\ufb00', ['F', 'F']), ('\ufb01', ['F', 'I']),
  ('\ufb02', ['F', 'L']), ('\ufb03', ['F', 'F', 'I']), ('\ufb04', ['F', 'F', 'L']), ('\ufb05', ['S', 'T']),
  ('\ufb06', ['S', 'T'])]

def latinCapital (c : Char) : List Char := (latinLetters.lookup c).getD [c.toUpper]

def latinCapitals (s : List Char) : List Char := s.flatMap latinCapital

end PageCache.Text
