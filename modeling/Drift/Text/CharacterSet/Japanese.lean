import Drift.Text.CharacterSet.Cp932
import Drift.Text.CharacterSet.JisX0208
import Drift.Text.CharacterSet.JisX0212
import Drift.Text.CharacterSet.JisX0213
import Drift.Text.CharacterSet.Layout

/-!
# Japanese characters with their codes

* `JisX0213` — the editions of JIS X 0213; `JisX0213.first`, `JisX0213.second` — their planes, and
  `JisX0213.pairs` — their codes for a letter with a mark.
* `CharacterSet.cp932` — the codes of code page 932.
-/

namespace Drift

/-- The editions of **JIS X 0213**. -/
inductive JisX0213 where
  /-- The one of 2000. -/
  | initial
  /-- The one of 2004. -/
  | revised
  deriving DecidableEq, Repr

namespace JisX0213

/-- The codes of the first plane that only the revised edition has. -/
def recent : List Nat :=
  [0x2E21, 0x2F7E, 0x4F54, 0x4F7E, 0x7427, 0x7E7A, 0x7E7B, 0x7E7C, 0x7E7D, 0x7E7E]

/-- The edition has this code of the first plane. -/
def covers (edition : JisX0213) (code : Nat) : Bool :=
  edition == revised || !recent.contains code

/-- The codes of the **first plane**, of which JIS X 0208 is a part. -/
def first (edition : JisX0213) : List (Nat × Char) :=
  (CharacterSet.jisX0208.codes ++ CharacterSet.jisX0213Added.codes).filter fun (code, _) =>
    edition.covers code

/-- The kanji of the second plane in which the editions differ, in the initial one. -/
def initialKanji : Nat × Char := (0x7D3B, '\u9B1D')

/-- The codes of the **second plane**. -/
def second (edition : JisX0213) : List (Nat × Char) :=
  CharacterSet.jisX0213Second.codes.map fun (code, c) =>
    if edition == initial && code == initialKanji.1 then initialKanji else (code, c)

/-- The characters that only the revised edition has, though a supplement to JIS X 0208 has some of
them. -/
def revisedOnly : List Char :=
  ['俱', '𠮟', '剝', '吞', '噓', '姸', '屛', '幷', '瘦', '繫', '鬜']

/-- The characters that are not written in an edition. -/
def unwritten : JisX0213 → List Char
  | initial => revisedOnly
  | revised => []

/-- The codes of the second plane by which an edition writes characters, while it reads others. -/
def rewritten : JisX0213 → List (Char × Nat)
  | initial => [(initialKanji.2, initialKanji.1)]
  | revised => []

/-- The codes for a letter with a mark or for two letters of tone. -/
def pairs : List PairCode := [
  ⟨0x2477, 'か', '\u309A'⟩, ⟨0x2478, 'き', '\u309A'⟩, ⟨0x2479, 'く', '\u309A'⟩,
  ⟨0x247A, 'け', '\u309A'⟩, ⟨0x247B, 'こ', '\u309A'⟩, ⟨0x2577, 'カ', '\u309A'⟩,
  ⟨0x2578, 'キ', '\u309A'⟩, ⟨0x2579, 'ク', '\u309A'⟩, ⟨0x257A, 'ケ', '\u309A'⟩,
  ⟨0x257B, 'コ', '\u309A'⟩, ⟨0x257C, 'セ', '\u309A'⟩, ⟨0x257D, 'ツ', '\u309A'⟩,
  ⟨0x257E, 'ト', '\u309A'⟩, ⟨0x2678, 'ㇷ', '\u309A'⟩, ⟨0x2B44, 'æ', '\u0300'⟩,
  ⟨0x2B48, 'ɔ', '\u0300'⟩, ⟨0x2B49, 'ɔ', '\u0301'⟩, ⟨0x2B4A, 'ʌ', '\u0300'⟩,
  ⟨0x2B4B, 'ʌ', '\u0301'⟩, ⟨0x2B4C, 'ə', '\u0300'⟩, ⟨0x2B4D, 'ə', '\u0301'⟩,
  ⟨0x2B4E, 'ɚ', '\u0300'⟩, ⟨0x2B4F, 'ɚ', '\u0301'⟩, ⟨0x2B65, '˩', '˥'⟩,
  ⟨0x2B66, '˥', '˩'⟩]

/-- A letter that another character may follow takes a **NUL** behind it along when written. -/
def closed : List PairCode :=
  let plane := revised.first
  (pairs.map (·.first)).eraseDups.filterMap fun c =>
    (plane.find? (·.2 == c)).map fun (code, _) => ⟨code, c, '\x00'⟩

/-- The place of a row of the second plane behind the rows of the first, all counted from 0. -/
def secondRow (row : Nat) : Nat :=
  94 + if row == 0 then 0 else if row == 7 then 1 else if row < 7 then row
    else if row < 15 then row - 6 else row - 68

end JisX0213

namespace CharacterSet

/-- The trail bytes of Shift JIS. -/
def shiftTrails : List Nat := span 0x40 0x7E ++ span 0x80 0xFC

/-- The codes of **code page 932**. Its kanji stand at codes of two vendors, and codes of private
use follow the ones of Shift JIS. -/
def cp932 : List (Nat × Char) :=
  let kanji := cp932Kanji.toList
  consecutive (span 0 0x80) 0 ++ [(0xA0, '\uF8F0')] ++ kana 0xA1 ++
    consecutive (span 0xFD 0xFF) 0xF8F1 ++
    amended (shifted id jisX0208.codes) cp932Signs.codes
      ((grid (span 0xED 0xEE) shiftTrails).zip kanji ++
        ((grid (span 0xFA 0xFC) shiftTrails).drop 28).zip kanji ++
        consecutive (grid (span 0xF0 0xF9) shiftTrails) 0xE000)

end CharacterSet

end Drift
