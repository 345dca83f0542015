import Drift.Text.Encoding

/-!
# Names of encodings

* `Encoding.ofName` — the encoding of that name, in any of its usual spellings; or why there is
  none (`Encoding.NameFault`).
* `Encoding.NameFault.message` — the words for it.
-/

namespace Drift.Encoding

/-- Why a name stands for **no encoding** of text. -/
inductive NameFault where
  /-- Nothing has this name. -/
  | unknown
  /-- What has this name changes bytes into bytes, or text into text. -/
  | noText
  /-- The encoding of this name refuses every text. -/
  | refusing
  /-- The name holds the character NUL. -/
  | nul
  deriving DecidableEq, Repr

/-- The words for a name that stands for no encoding. -/
def NameFault.message (name : String) : Use → NameFault → String
  | _, unknown => String.join ["unknown encoding: ", name]
  | .encoding, noText =>
    String.join
      ["'", name, "' is not a text encoding; use codecs.encode() to handle arbitrary codecs"]
  | .decoding, noText =>
    String.join
      ["'", name, "' is not a text encoding; use codecs.decode() to handle arbitrary codecs"]
  | use, refusing => failedMessage use name "UnicodeError" "undefined encoding"
  | _, nul => "embedded null character"

/-! ## Spellings -/

/-- Small ASCII letters, digits and dots stay, and every other run between them becomes one
underscore; so spellings of a name that differ in case and punctuation agree. -/
def plainName (s : List Char) : List Char :=
  (s.foldl (fun (state : List Char × Bool) c =>
    let (done, gap) := state
    if c.isAlphanum || c == '.' then
      (c.toLower :: (if gap && !done.isEmpty then '_' :: done else done), false)
    else (done, true)) ([], false)).1.reverse

/-- The names of something in their plain form: one of them is the principal name. -/
structure Names where
  principal : String
  others : List String

/-- One of the names is spelled so: either just so, or as one of the other names with dots in the
place of underscores. -/
def Names.cover (names : Names) (plain : List Char) : Bool :=
  names.principal.toList == plain || names.others.any (·.toList == plain)
    || names.others.any (·.toList == plain.map fun c => if c == '.' then '_' else c)

/-- The names of the encodings that are no code pages. -/
def common : List (Encoding × Names) :=
  [(utf8, ⟨"utf_8", ["u8", "utf", "utf8", "utf8_ucs2", "utf8_ucs4", "cp65001"]⟩),
   (utf8Marked, ⟨"utf_8_sig", []⟩),
   (ascii, ⟨"ascii", ["646", "ansi_x3.4_1968", "ansi_x3_4_1968", "ansi_x3.4_1986", "cp367",
     "csascii", "ibm367", "iso646_us", "iso_646.irv_1991", "iso_ir_6", "us", "us_ascii"]⟩),
   (latin1, ⟨"latin_1", ["8859", "cp819", "csisolatin1", "ibm819", "iso8859", "iso8859_1",
     "iso_8859_1", "iso_8859_1_1987", "iso_ir_100", "l1", "latin", "latin1", "charmap"]⟩),
   (utf16 none, ⟨"utf_16", ["u16", "utf16"]⟩),
   (utf16 (some .little), ⟨"utf_16_le", ["unicodelittleunmarked", "utf_16le"]⟩),
   (utf16 (some .big), ⟨"utf_16_be", ["unicodebigunmarked", "utf_16be"]⟩),
   (utf32 none, ⟨"utf_32", ["u32", "utf32"]⟩),
   (utf32 (some .little), ⟨"utf_32_le", ["utf_32le"]⟩),
   (utf32 (some .big), ⟨"utf_32_be", ["utf_32be"]⟩),
   (utf7, ⟨"utf_7", ["u7", "utf7", "unicode_1_1_utf_7"]⟩),
   (escaped, ⟨"unicode_escape", []⟩),
   (rawEscaped, ⟨"raw_unicode_escape", []⟩),
   (punycode, ⟨"punycode", []⟩),
   (domainName, ⟨"idna", []⟩)]

/-- The names of the encodings of East Asia. -/
def eastAsian : List (Encoding × Names) :=
  [(multiByte .big5, ⟨"big5", ["big5_tw", "csbig5", "x_mac_trad_chinese"]⟩),
   (multiByte .big5Hkscs, ⟨"big5hkscs", ["big5_hkscs", "hkscs"]⟩),
   (multiByte .cp932, ⟨"cp932", ["932", "ms932", "mskanji", "ms_kanji"]⟩),
   (multiByte .cp949, ⟨"cp949", ["949", "ms949", "uhc"]⟩),
   (multiByte .cp950, ⟨"cp950", ["950", "ms950"]⟩),
   (multiByte .eucJp, ⟨"euc_jp", ["eucjp", "ujis", "u_jis"]⟩),
   (multiByte (.eucJis .revised), ⟨"euc_jis_2004", ["jisx0213", "eucjis2004", "euc_jis2004"]⟩),
   (multiByte (.eucJis .initial), ⟨"euc_jisx0213", ["eucjisx0213"]⟩),
   (multiByte .eucKr, ⟨"euc_kr", ["euckr", "korean", "ksc5601", "ks_c_5601", "ks_c_5601_1987",
     "ksx1001", "ks_x_1001", "x_mac_korean"]⟩),
   (multiByte .gb2312, ⟨"gb2312", ["chinese", "csiso58gb231280", "euc_cn", "euccn", "eucgb2312_cn",
     "gb2312_1980", "gb2312_80", "iso_ir_58", "x_mac_simp_chinese"]⟩),
   (multiByte .gbk, ⟨"gbk", ["936", "cp936", "ms936"]⟩),
   (multiByte .gb18030, ⟨"gb18030", ["gb18030_2000"]⟩),
   (hz, ⟨"hz", ["hzgb", "hz_gb", "hz_gb_2312"]⟩),
   (multiByte .johab, ⟨"johab", ["cp1361", "ms1361"]⟩),
   (multiByte .shiftJis, ⟨"shift_jis", ["csshiftjis", "shiftjis", "sjis", "s_jis",
     "x_mac_japanese"]⟩),
   (multiByte (.shiftJisX0213 .revised), ⟨"shift_jis_2004", ["shiftjis2004", "sjis_2004",
     "s_jis_2004"]⟩),
   (multiByte (.shiftJisX0213 .initial), ⟨"shift_jisx0213", ["shiftjisx0213", "sjisx0213",
     "s_jisx0213"]⟩),
   (iso2022 .jp, ⟨"iso2022_jp", ["csiso2022jp", "iso2022jp", "iso_2022_jp"]⟩),
   (iso2022 .jp1, ⟨"iso2022_jp_1", ["iso2022jp_1", "iso_2022_jp_1"]⟩),
   (iso2022 .jp2, ⟨"iso2022_jp_2", ["iso2022jp_2", "iso_2022_jp_2"]⟩),
   (iso2022 .jp2004, ⟨"iso2022_jp_2004", ["iso_2022_jp_2004", "iso2022jp_2004"]⟩),
   (iso2022 .jp3, ⟨"iso2022_jp_3", ["iso2022jp_3", "iso_2022_jp_3"]⟩),
   (iso2022 .jpExt, ⟨"iso2022_jp_ext", ["iso2022jp_ext", "iso_2022_jp_ext"]⟩),
   (iso2022 .kr, ⟨"iso2022_kr", ["csiso2022kr", "iso2022kr", "iso_2022_kr"]⟩)]

/-- The names of a code page. -/
def pageNames (p : CodePage) : Names := ⟨p.names.headD "", p.names.tail⟩

/-- The names of what turns bytes into bytes, or text into text. -/
def transforms : List Names :=
  [⟨"base64_codec", ["base64", "base_64"]⟩, ⟨"bz2_codec", ["bz2"]⟩, ⟨"hex_codec", ["hex"]⟩,
   ⟨"quopri_codec", ["quopri", "quoted_printable", "quotedprintable"]⟩, ⟨"rot_13", ["rot13"]⟩,
   ⟨"uu_codec", ["uu"]⟩, ⟨"zlib_codec", ["zip", "zlib"]⟩]

/-- The encoding of that name, **in any of its usual spellings**. -/
def ofName (name : String) : Except NameFault Encoding :=
  if name.toList.contains '\x00' then .error .nul
  else
    let plain := plainName name.toList
    match (common ++ eastAsian).find? (·.2.cover plain) with
    | some (e, _) => .ok e
    | none =>
      match CodePage.all.find? fun p => (pageNames p).cover plain with
      | some p => .ok (.page p)
      | none =>
        if transforms.any (·.cover plain) then .error .noText
        else if plain == "undefined".toList then .error .refusing
        else .error .unknown

end Drift.Encoding
