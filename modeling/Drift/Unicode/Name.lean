import Drift.Unicode.Name.Abugidas
import Drift.Unicode.Name.Alphabets
import Drift.Unicode.Name.Ancient
import Drift.Unicode.Name.Further
import Drift.Unicode.Name.Pictographs
import Drift.Unicode.Name.Scripts
import Drift.Unicode.Name.Signs
import Drift.Unicode.Name.Supplement
import Drift.Unicode.Name.Symbols

/-!
# Names of characters

* `Unicode.ofName?` — the character of a name.

Names of ideographs hold their numbers, and names of Hangul syllables the sounds of their letters;
all others stand in tables.
-/

namespace Drift.Unicode

/-! ## Names from tables -/

/-- The place of a part among parts with commas between them, counted on from `place`; `rest` is
what of it the part being read has matched so far, if it has. -/
def placeIn (part : List Char) (place : Nat) : (rest : Option (List Char)) → List Char → Option Nat
  | some [], [] => some place
  | _, [] => none
  | rest, c :: cs =>
    if c == ',' then if rest == some [] then some place else placeIn part (place + 1) (some part) cs
    else
      match rest with
      | some (d :: ds) => placeIn part place (if c == d then some ds else none) cs
      | _ => placeIn part place none cs

/-- The character of a run that has a name. -/
def NameRun.find? (run : NameRun) (name : List Char) : Option Char :=
  let beginning := run.beginning.toList
  if beginning.isPrefixOf name then
    let ending := name.drop beginning.length
    (placeIn ending 0 (some ending) (String.intercalate "," run.endings).toList).map fun i =>
      Char.ofNat (run.first + i)
  else none

/-- All runs of names, and the further names behind them. -/
def NameRun.all : List (List NameRun) :=
  [alphabets, abugidas, signs, scripts, ancient, pictographs, supplement, symbols, further]

/-! ## Names with numbers and sounds -/

/-- Names that end in the numbers of their characters, which lie in these ranges. -/
structure NumberedNames where
  beginning : String
  ranges : List (Nat × Nat)

/-- The ideographs of Chinese, Japanese and Korean. -/
def unified : NumberedNames where
  beginning := "CJK UNIFIED IDEOGRAPH-"
  ranges :=
    [(0x3400, 0x4DBF), (0x4E00, 0x9FFF), (0x20000, 0x2A6DF), (0x2A700, 0x2B738), (0x2B740, 0x2B81D),
     (0x2B820, 0x2CEA1), (0x2CEB0, 0x2EBE0), (0x30000, 0x3134A)]

/-- All other characters with such names. -/
def numbered : List NumberedNames :=
  [⟨"CJK COMPATIBILITY IDEOGRAPH-", [(0xF900, 0xFA6D), (0xFA70, 0xFAD9), (0x2F800, 0x2FA1D)]⟩,
   ⟨"KHITAN SMALL SCRIPT CHARACTER-", [(0x18B00, 0x18CD5)]⟩,
   ⟨"NUSHU CHARACTER-", [(0x1B170, 0x1B2FB)]⟩]

/-- A large hexadecimal digit. -/
def digit? (c : Char) : Option Nat :=
  if '0' ≤ c && c ≤ '9' then some (c.toNat - 0x30)
  else if 'A' ≤ c && c ≤ 'F' then some (c.toNat - 0x41 + 10)
  else none

/-- The number that four or five large hexadecimal digits spell. -/
def number? (digits : List Char) : Option Nat :=
  if digits.length == 4 || digits.length == 5 then
    digits.foldl (fun n? c => n?.bind fun n => (digit? c).map (n * 16 + ·)) (some 0)
  else none

/-- The character with a number in its name. -/
def NumberedNames.find? (names : NumberedNames) (name : List Char) : Option Char :=
  let beginning := names.beginning.toList
  if beginning.isPrefixOf name then
    ((number? (name.drop beginning.length)).filter fun n =>
      names.ranges.any fun (first, last) => first ≤ n && n ≤ last).map Char.ofNat
  else none

/-- The character with a number in its name that has no zeros in front. -/
def NumberedNames.findExact? (names : NumberedNames) (name : List Char) : Option Char :=
  if (name.drop names.beginning.toList.length).head? == some '0' then none else names.find? name

/-- The sounds that begin syllables. -/
def initialSounds : List String :=
  ["G", "GG", "N", "D", "DD", "R", "M", "B", "BB", "S", "SS", "", "J", "JJ", "C", "K", "T", "P",
   "H"]

/-- The sounds of vowels. -/
def vowelSounds : List String :=
  ["A", "AE", "YA", "YAE", "EO", "E", "YEO", "YE", "O", "WA", "WAE", "OE", "YO", "U", "WEO", "WE",
   "WI", "YU", "EU", "YI", "I"]

/-- The sounds that close syllables. -/
def finalSounds : List String :=
  ["", "G", "GG", "GS", "N", "NJ", "NH", "D", "L", "LG", "LM", "LB", "LS", "LT", "LP", "LH", "M",
   "B", "BS", "S", "SS", "NG", "J", "C", "K", "T", "P", "H"]

/-- What stands behind a part, if the text begins with it. -/
def behind? (part : String) (text : List Char) : Option (List Char) :=
  if part.toList.isPrefixOf text then some (text.drop part.toList.length) else none

/-- The syllable of some sounds. -/
def syllable? (sounds : List Char) : Option Char :=
  initialSounds.zipIdx.findSome? fun (initial, i) =>
    (behind? initial sounds).bind fun sounds =>
      vowelSounds.zipIdx.findSome? fun (vowel, v) =>
        (behind? vowel sounds).bind fun sounds =>
          (finalSounds.idxOf? (String.ofList sounds)).map fun f =>
            Char.ofNat (0xAC00 + (i * 21 + v) * 28 + f)

/-! ## All names -/

/-- The **character of a name**. The names of ideographs and of Hangul syllables are in capitals; in
all others the case of letters does not matter. -/
def ofName? (name : List Char) : Option Char :=
  match behind? "HANGUL SYLLABLE " name with
  | some sounds => syllable? sounds
  | none =>
    if unified.beginning.toList.isPrefixOf name then unified.find? name
    else
      let name := name.map Char.toUpper
      numbered.findSome? (fun names => names.findExact? name) <|>
        NameRun.all.findSome? fun runs => runs.findSome? fun run => run.find? name

end Drift.Unicode
