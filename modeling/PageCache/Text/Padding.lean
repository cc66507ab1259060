/-!
Text filled up to a width.
-/

namespace PageCache.Text

def zeroFill (width : Nat) (s : List Char) : List Char := List.replicate (width - s.length) '0' ++ s

def padRight (width : Nat) (s : List Char) : List Char := s ++ List.replicate (width - s.length) ' '

theorem length_zeroFill (width : Nat) (s : List Char) : (zeroFill width s).length = max width s.length := by
  simp [zeroFill]
  omega

theorem length_padRight (width : Nat) (s : List Char) : (padRight width s).length = max width s.length := by
  simp [padRight]
  omega

end PageCache.Text
