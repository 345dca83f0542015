import Drift.Text.CharacterSet.KsX1001
import Drift.Text.CharacterSet.Layout

/-!
# Korean characters with their codes

* `CharacterSet.cp949` — KS X 1001 with all other Hangul syllables.
* `CharacterSet.johab` — codes that hold the letters of a syllable.
* `CharacterSet.spelled` — codes that spell a syllable letter by letter.
-/

namespace Drift.CharacterSet

/-- The Hangul syllables. -/
def syllables : List Char := (span 0xAC00 0xD7A3).map Char.ofNat

/-- The codes of page 949 for the syllables that KS X 1001 has not. -/
def furtherPlaces : List Nat :=
  let low := span 0x41 0x5A ++ span 0x61 0x7A
  grid (span 0x81 0xA0) (low ++ span 0x81 0xFE) ++ grid (span 0xA1 0xC6) (low ++ span 0x81 0xA0)

/-- The codes of **code page 949**. -/
def cp949 : List (Nat × Char) :=
  let common := high ksX1001.codes
  let known := CodeIndex.ofCodes common
  common ++ furtherPlaces.zip (syllables.filter fun c => (known.code? c).isNone)

/-! ## Syllables by their letters -/

/-- The numbers that Johab gives the vowels of syllables. -/
def johabVowels : List Nat := span 3 7 ++ span 10 15 ++ span 18 23 ++ span 26 29

/-- The numbers that Johab gives what closes a syllable; the first one closes an open syllable. -/
def johabFinals : List Nat := span 1 17 ++ span 19 29

/-- A code of Johab: three letters of five bits each. -/
def johabCode (initial vowel final : Nat) : Nat :=
  0x8000 + initial * 1024 + vowel * 32 + final

/-- The letters of KS X 1001 that begin syllables, in their order. -/
def initials : List Nat :=
  [0x2421, 0x2422, 0x2424, 0x2427, 0x2428, 0x2429, 0x2431, 0x2432, 0x2433, 0x2435, 0x2436, 0x2437,
   0x2438, 0x2439, 0x243A, 0x243B, 0x243C, 0x243D, 0x243E]

/-- The letters of KS X 1001 that are vowels of syllables, in their order. -/
def vowels : List Nat := span 0x243F 0x2453

/-- The letters of KS X 1001 that close syllables, in their order. -/
def finals : List Nat :=
  [0x2421, 0x2422, 0x2423, 0x2424, 0x2425, 0x2426, 0x2427, 0x2429, 0x242A, 0x242B, 0x242C, 0x242D,
   0x242E, 0x242F, 0x2430, 0x2431, 0x2432, 0x2434, 0x2435, 0x2436, 0x2437, 0x2438, 0x243A, 0x243B,
   0x243C, 0x243D, 0x243E]

/-- The letter that stands for none. -/
def filler : Nat := 0x2454

/-- The codes of all syllables, by the codes of their letters. -/
def composed (code : Nat → Nat → Nat → Nat) (initials vowels finals : List Nat) :
    List (Nat × Char) :=
  (initials.flatMap fun i => vowels.flatMap fun v => finals.map (code i v)).zip syllables

/-- The place in Johab of a code of KS X 1001 outside the rows of syllables: two rows share a lead
byte. -/
def johabPlace (code : Nat) : Nat :=
  let row := code / 256
  let (first, row) := if row < 0x4A then (0xD9, row - 0x21) else (0xE0, row - 0x4A)
  let cell := code % 256 - 0x21 + row % 2 * 94
  (first + row / 2) * 256 + if cell < 78 then 0x31 + cell else 0x91 + (cell - 78)

/-- The letters alone as Johab has them, and the blank of the width of a syllable. -/
def johabLetters (known : CodeIndex) : List (Nat × Char) :=
  let letter (code place : Nat) : Option (Nat × Char) :=
    (known.chars[code]?).map fun c => (place, c)
  (initials.zip (span 2 20)).filterMap (fun (code, i) => letter code (johabCode i 2 1)) ++
    (vowels.zip johabVowels).filterMap (fun (code, v) => letter code (johabCode 1 v 1)) ++
    (finals.zip johabFinals.tail).filterMap (fun (code, f) => letter code (johabCode 1 2 f)) ++
    [(johabCode 1 2 1, '\u3000')]

/-- The codes of **Johab**. -/
def johab : List (Nat × Char) :=
  let isLetter (code : Nat) : Bool := 0x2421 ≤ code && code < filler
  let isSyllable (code : Nat) : Bool := 0x3021 ≤ code && code < 0x4A21
  let others := ksX1001.codes.filter fun (code, _) => !isLetter code && !isSyllable code
  others.map (fun (code, c) => (johabPlace code, c)) ++
    composed johabCode (span 2 20) johabVowels johabFinals ++
    johabLetters (CodeIndex.ofCodes ksX1001.codes)

/-- A syllable **spelled by its letters**, behind the letter that stands for none. -/
def spelling (initial vowel final : Nat) : Nat :=
  (((filler + 0x8080) * 65536 + initial + 0x8080) * 65536 + vowel + 0x8080) * 65536 + final + 0x8080

/-- The spellings of all syllables. -/
def spelled : List (Nat × Char) := composed spelling initials vowels (filler :: finals)

end Drift.CharacterSet
