import Drift.Unicode.Normal.Replacement

/-!
# Folded letters

* `Nameprep.singleFoldings`, `Nameprep.severalFoldings` — the letters that are folded otherwise than
  to their small form: to one letter, and to several.
-/

namespace Drift.Nameprep

/-- The letters that are folded to **one** other than their small form. -/
def singleFoldings : List Strip := [
  ⟨0xB5, "μ"⟩, ⟨0x17F, "s"⟩, ⟨0x345, "ι"⟩, ⟨0x3C2, "σ"⟩, ⟨0x3D0, "βθυύϋφπ"⟩, ⟨0x3F0, "κρσ"⟩,
  ⟨0x3F5, "ε"⟩, ⟨0x3F9, "σ"⟩, ⟨0x1E9B, "ṡ"⟩, ⟨0x1FBE, "ι"⟩, ⟨0x2102, "c"⟩, ⟨0x2107, "ɛ"⟩,
  ⟨0x210B, "hhh"⟩, ⟨0x2110, "iil"⟩, ⟨0x2115, "n"⟩, ⟨0x2119, "pqrrr"⟩, ⟨0x2124, "z"⟩, ⟨0x2128, "z"⟩,
  ⟨0x212C, "bc"⟩, ⟨0x2130, "ef"⟩, ⟨0x2133, "m"⟩, ⟨0x213E, "γπ"⟩, ⟨0x2145, "d"⟩,
  ⟨0x1D400, "abcdefghijklmnopqrstuvwxyz"⟩, ⟨0x1D434, "abcdefghijklmnopqrstuvwxyz"⟩,
  ⟨0x1D468, "abcdefghijklmnopqrstuvwxyz"⟩, ⟨0x1D49C, "a"⟩, ⟨0x1D49E, "cd"⟩, ⟨0x1D4A2, "g"⟩,
  ⟨0x1D4A5, "jk"⟩, ⟨0x1D4A9, "nopq"⟩, ⟨0x1D4AE, "stuvwxyz"⟩,
  ⟨0x1D4D0, "abcdefghijklmnopqrstuvwxyz"⟩, ⟨0x1D504, "ab"⟩, ⟨0x1D507, "defg"⟩,
  ⟨0x1D50D, "jklmnopq"⟩, ⟨0x1D516, "stuvwxy"⟩, ⟨0x1D538, "ab"⟩, ⟨0x1D53B, "defg"⟩,
  ⟨0x1D540, "ijklm"⟩, ⟨0x1D546, "o"⟩, ⟨0x1D54A, "stuvwxy"⟩, ⟨0x1D56C, "abcdefghijklmnopqrstuvwxyz"⟩,
  ⟨0x1D5A0, "abcdefghijklmnopqrstuvwxyz"⟩, ⟨0x1D5D4, "abcdefghijklmnopqrstuvwxyz"⟩,
  ⟨0x1D608, "abcdefghijklmnopqrstuvwxyz"⟩, ⟨0x1D63C, "abcdefghijklmnopqrstuvwxyz"⟩,
  ⟨0x1D670, "abcdefghijklmnopqrstuvwxyz"⟩, ⟨0x1D6A8, "αβγδεζηθικλμνξοπρθστυφχψω"⟩, ⟨0x1D6D3, "σ"⟩,
  ⟨0x1D6E2, "αβγδεζηθικλμνξοπρθστυφχψω"⟩, ⟨0x1D70D, "σ"⟩, ⟨0x1D71C, "αβγδεζηθικλμνξοπρθστυφχψω"⟩,
  ⟨0x1D747, "σ"⟩, ⟨0x1D756, "αβγδεζηθικλμνξοπρθστυφχψω"⟩, ⟨0x1D781, "σ"⟩,
  ⟨0x1D790, "αβγδεζηθικλμνξοπρθστυφχψω"⟩, ⟨0x1D7BB, "σ"⟩]

/-- The letters that are folded to **several**. -/
def severalFoldings : List Unicode.Replacement := [
  ⟨0xDF, "ss"⟩, ⟨0x149, "ʼn"⟩, ⟨0x1F0, "j\u030c"⟩, ⟨0x37A, " ι"⟩, ⟨0x390, "ι\u0308\u0301"⟩,
  ⟨0x3B0, "υ\u0308\u0301"⟩, ⟨0x587, "եւ"⟩, ⟨0x1E96, "h\u0331|t\u0308|w\u030a|y\u030a|aʾ"⟩,
  ⟨0x1E9E, "ss"⟩, ⟨0x1F50, "υ\u0313"⟩, ⟨0x1F52, "υ\u0313\u0300"⟩, ⟨0x1F54, "υ\u0313\u0301"⟩,
  ⟨0x1F56, "υ\u0313\u0342"⟩,
  ⟨0x1F80, "ἀι|ἁι|ἂι|ἃι|ἄι|ἅι|ἆι|ἇι|ἀι|ἁι|ἂι|ἃι|ἄι|ἅι|ἆι|ἇι|ἠι|ἡι|ἢι|ἣι|ἤι|ἥι|ἦι|ἧι|ἠι"⟩,
  ⟨0x1F99, "ἡι|ἢι|ἣι|ἤι|ἥι|ἦι|ἧι|ὠι|ὡι|ὢι|ὣι|ὤι|ὥι|ὦι|ὧι|ὠι|ὡι|ὢι|ὣι|ὤι|ὥι|ὦι|ὧι"⟩,
  ⟨0x1FB2, "ὰι|αι|άι"⟩, ⟨0x1FB6, "α\u0342|α\u0342ι"⟩, ⟨0x1FBC, "αι"⟩, ⟨0x1FC2, "ὴι|ηι|ήι"⟩,
  ⟨0x1FC6, "η\u0342|η\u0342ι"⟩, ⟨0x1FCC, "ηι"⟩, ⟨0x1FD2, "ι\u0308\u0300|ι\u0308\u0301"⟩,
  ⟨0x1FD6, "ι\u0342|ι\u0308\u0342"⟩, ⟨0x1FE2, "υ\u0308\u0300|υ\u0308\u0301|ρ\u0313"⟩,
  ⟨0x1FE6, "υ\u0342|υ\u0308\u0342"⟩, ⟨0x1FF2, "ὼι|ωι|ώι"⟩, ⟨0x1FF6, "ω\u0342|ω\u0342ι"⟩,
  ⟨0x1FFC, "ωι"⟩, ⟨0x20A8, "rs"⟩, ⟨0x2103, "°c"⟩, ⟨0x2109, "°f"⟩, ⟨0x2116, "no"⟩,
  ⟨0x2120, "sm|tel|tm"⟩, ⟨0x3371, "hpa"⟩, ⟨0x3373, "au"⟩, ⟨0x3375, "ov"⟩,
  ⟨0x3380, "pa|na|μa|ma|ka|kb|mb|gb"⟩, ⟨0x338A, "pf|nf|μf"⟩, ⟨0x3390, "hz|khz|mhz|ghz|thz"⟩,
  ⟨0x33A9, "pa|kpa|mpa|gpa"⟩, ⟨0x33B4, "pv|nv|μv|mv|kv|mv|pw|nw|μw|mw|kw|mw|kω|mω"⟩, ⟨0x33C3, "bq"⟩,
  ⟨0x33C6, "c∕kg|co.|db|gy"⟩, ⟨0x33CB, "hp"⟩, ⟨0x33CD, "kk|km"⟩, ⟨0x33D7, "ph"⟩, ⟨0x33D9, "ppm|pr"⟩,
  ⟨0x33DC, "sv|wb"⟩, ⟨0xFB00, "ff|fi|fl|ffi|ffl|st|st"⟩, ⟨0xFB13, "մն|մե|մի|վն|մխ"⟩]

end Drift.Nameprep
