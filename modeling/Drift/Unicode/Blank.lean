import Drift.Unicode.CharSet

/-!
# Blank characters

* `Unicode.isBlank` — spaces, line ends, separators and the four information separators.
* `Unicode.strip` — a text without the blanks around it.
* `Unicode.words` — what stands between the blanks of a text.
-/

namespace Drift.Unicode

/-- The characters that separate words: spaces, tabulators, line and paragraph ends and the
information separators `U+001C` to `U+001F`. -/
def blanks : CharSet :=
  [(0x9, 0xD), (0x1C, 0x20), (0x85, 0x85), (0xA0, 0xA0), (0x1680, 0x1680), (0x2000, 0x200A),
   (0x2028, 0x2029), (0x202F, 0x202F), (0x205F, 0x205F), (0x3000, 0x3000)]

/-- A **blank** is a character of `blanks`. -/
def isBlank (c : Char) : Bool := blanks.contains c

/-- The text without leading and trailing blanks. -/
def strip (s : List Char) : List Char :=
  ((s.dropWhile isBlank).reverse.dropWhile isBlank).reverse

/-- The **words of a text**: its longest parts without a blank. -/
def words (s : List Char) : List (List Char) :=
  match _h : s.dropWhile isBlank with
  | [] => []
  | c :: rest => (c :: rest.takeWhile (!isBlank ·)) :: words (rest.dropWhile (!isBlank ·))
  termination_by s.length
  decreasing_by
    have hs := (List.dropWhile_sublist isBlank (l := s)).length_le
    have hrest := (List.dropWhile_sublist (!isBlank ·) (l := rest)).length_le
    rw [_h, List.length_cons] at hs
    omega

end Drift.Unicode
