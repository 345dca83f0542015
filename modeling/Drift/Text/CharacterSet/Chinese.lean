import Drift.Text.CharacterSet.Big5
import Drift.Text.CharacterSet.Cp950
import Drift.Text.CharacterSet.Gb2312
import Drift.Text.CharacterSet.Gbk
import Drift.Text.CharacterSet.Hkscs
import Drift.Text.CharacterSet.Layout

/-!
# Chinese characters with their codes

* `CharacterSet.gbk`, `CharacterSet.gb18030` — GB 2312 with its extensions.
* `CharacterSet.cp950`, `CharacterSet.big5Hkscs` — Big5 with additions.
-/

namespace Drift.CharacterSet

/-- The trail bytes below those of GB 2312. -/
def lowTrails : List Nat := span 0x40 0x7E ++ span 0x80 0xA0

/-- The trail bytes of GBK. -/
def gbkTrails : List Nat := lowTrails ++ span 0xA1 0xFE

/-- The codes of GBK for ideographs that GB 2312 has not. -/
def gbkPlaces : List Nat :=
  grid (span 0x81 0xA0) gbkTrails ++ grid (span 0xAA 0xFE) lowTrails

/-- Codes with their characters, and behind them further codes that are not among them. -/
def extended (codes further : List (Nat × Char)) : List (Nat × Char) :=
  let known := CodeIndex.ofCodes codes
  codes ++ further.filter fun (code, _) => (known.text? code).isNone

/-- The codes of **GBK**: the signs and hanzi of GB 2312, and at the codes around them all other
ideographs of the first Unicode block in their order. -/
def gbk : List (Nat × Char) :=
  let common := high gb2312.codes
  let known := CodeIndex.ofCodes common
  let ideographs := ((span 0x4E00 0x9FA5).map Char.ofNat).filter fun c => (known.code? c).isNone
  extended gbkSigns.codes common ++ gbkPlaces.zip (ideographs ++ gbkCompatible.toList)

/-! ## GB 18030 -/

/-- The codes of private use where GBK has whole rows without characters. -/
def gb18030Private : List (Nat × Char) :=
  consecutive (grid (span 0xAA 0xAF ++ span 0xF8 0xFE) (span 0xA1 0xFE)) 0xE000 ++
    consecutive (grid (span 0xA1 0xA7) lowTrails) 0xE4C6

/-- The codes where GBK has gaps between characters: they are of private use too, in their order. -/
def gb18030Gaps (known : CodeIndex) : List (Nat × Char) :=
  let rows :=
    grid (span 0xA1 0xA7) (span 0xA1 0xFE) ++ grid (span 0xA8 0xA9) gbkTrails ++
      grid (span 0xB0 0xF7) (span 0xA1 0xFE) ++ grid [0xFE] lowTrails
  consecutive (rows.filter fun code => (known.text? code).isNone) 0xE766

/-- The code of four bytes with a number in their order. -/
def fourByteCode (n : Nat) : Nat :=
  (((0x81 + n / 12600) * 256 + 0x30 + n / 1260 % 10) * 256 + 0x81 + n / 10 % 126) * 256
    + 0x30 + n % 10

/-- The codes of **GB 18030** for the characters of the basic plane: those of two bytes, and codes
of four bytes for all other characters in their order. -/
def gb18030 : List (Nat × Char) :=
  let old := gbk
  let gaps := gb18030Gaps (CodeIndex.ofCodes old)
  let short := old ++ gb18030Private ++ extended gb18030Added.codes gaps
  let known := CodeIndex.ofCodes short
  let long := ((span 0x80 0xD7FF ++ span 0xE000 0xFFFF).map Char.ofNat).filter fun c =>
    (known.code? c).isNone
  short ++ long.zipIdx.map fun (c, n) => (fourByteCode n, c)

/-- The number of the code of four bytes for the first character behind the basic plane. -/
def supplementary : Nat := 189000

/-! ## Big5 -/

/-- The codes of Big5, the last ones first, as those are written. -/
def big5Codes : List (Nat × Char) := big5.codes.reverse

/-- The codes of **code page 950**. -/
def cp950 : List (Nat × Char) := amended big5.codes cp950Added.codes []

/-- The codes of **Big5 with the Hong Kong supplement**, which has rows of its own in the place of
the kana of Big5. -/
def big5Hkscs : List (Nat × Char) :=
  let kept := big5.codes.filter fun (code, _) => code < 0xC6A1 || 0xC900 ≤ code
  hkscs.codes.reverse ++ kept.reverse

/-- The codes of the supplement for a letter with a mark. -/
def hkscsPairs : List PairCode := [
  ⟨0x8862, 'Ê', '\u0304'⟩, ⟨0x8864, 'Ê', '\u030C'⟩, ⟨0x88A3, 'ê', '\u0304'⟩,
  ⟨0x88A5, 'ê', '\u030C'⟩]

end Drift.CharacterSet
