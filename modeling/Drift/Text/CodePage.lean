import Drift.Bytes

/-!
# Code pages

A code page gives each of the 256 bytes a character, or none.

* `CodePage` — a page by its names and its characters.
* `CodePage.table` — the characters of all bytes; `CodePage.char?` and `CodePage.byte?` look a byte
  or a character up in it.
* `CodePage.all` — the pages in use.
-/

namespace Drift

/-- A table of the characters that **single bytes** stand for. -/
structure CodePage where
  /-- The names of the page in their plain form, the principal one first. -/
  names : List String
  /-- The characters of the last bytes; each byte before them stands for the character of its own
  number. The mark `U+FFFD` stands at a byte without a character. -/
  characters : String
  deriving DecidableEq, Repr

namespace CodePage

/-- The characters of all bytes, in the order of the bytes. -/
def table (p : CodePage) : Array Char :=
  let last := p.characters.toList
  ((List.range (256 - last.length)).map Char.ofNat ++ last).toArray

/-- The character of a byte, by the table of a page. -/
def char? (table : Array Char) (b : UInt8) : Option Char :=
  (table[b.toNat]?).filter (· != '\uFFFD')

/-- The last of the bytes that stand for a character, by the table of a page. -/
def byte? (table : Array Char) (c : Char) : Option UInt8 :=
  if c == '\uFFFD' then none
  else (table.toList.reverse.idxOf? c).map fun i => UInt8.ofNat (255 - i)

/-- The **pages** in use. -/
def all : List CodePage := [
  ⟨["cp037", "037", "csibm037", "ebcdic_cp_ca", "ebcdic_cp_nl", "ebcdic_cp_us", "ebcdic_cp_wt",
    "ibm037", "ibm039"],
    "\x9c\t\x86\x7f\x97\x8d\x8e\x0b\x0c\r\x0e\x0f\x10\x11\x12\x13\x9d\x85\x08\x87\x18\x19\x92\x8f"
      ++ "\x1c\x1d\x1e\x1f\x80\x81\x82\x83\x84\n\x17\x1b\x88\x89\x8a\x8b\x8c\x05\x06\x07\x90\x91"
      ++ "\x16\x93\x94\x95\x96\x04\x98\x99\x9a\x9b\x14\x15\x9e\x1a \xa0âäàáãåçñ¢.<(+|&éêëèíîïìß!$"
      ++ "*);¬-/ÂÄÀÁÃÅÇÑ¦,%_>?øÉÊËÈÍÎÏÌ`:#@'=\"Øabcdefghi«»ðýþ±°jklmnopqrªºæ¸Æ¤µ~stuvwxyz¡¿ÐÝÞ®^£"
      ++ "¥·©§¶¼½¾[]¯¨´×\x7bABCDEFGHI\xadôöòóõ\x7dJKLMNOPQR¹ûüùúÿ\\÷STUVWXYZ²ÔÖÒÓÕ0123456789³ÛÜÙÚ"
      ++ "\x9f"⟩,
  ⟨["cp1006"],
    "۰۱۲۳۴۵۶۷۸۹،\u061b\xad\u061f\ufe81\ufe8d\ufe8e\ufe8e\ufe8f\ufe91\ufb56\ufb58\ufe93\ufe95"
      ++ "\ufe97\ufb66\ufb68\ufe99\ufe9b\ufe9d\ufe9f\ufb7a\ufb7c\ufea1\ufea3\ufea5\ufea7\ufea9"
      ++ "\ufb84\ufeab\ufead\ufb8c\ufeaf\ufb8a\ufeb1\ufeb3\ufeb5\ufeb7\ufeb9\ufebb\ufebd\ufebf"
      ++ "\ufec1\ufec5\ufec9\ufeca\ufecb\ufecc\ufecd\ufece\ufecf\ufed0\ufed1\ufed3\ufed5\ufed7"
      ++ "\ufed9\ufedb\ufb92\ufb94\ufedd\ufedf\ufee0\ufee1\ufee3\ufb9e\ufee5\ufee7\ufe85\ufeed"
      ++ "\ufba6\ufba8\ufba9\ufbaa\ufe80\ufe89\ufe8a\ufe8b\ufef1\ufef2\ufef3\ufbb0\ufbae\ufe7c"
      ++ "\ufe7d"⟩,
  ⟨["cp1026", "1026", "csibm1026", "ibm1026"],
    "\x9c\t\x86\x7f\x97\x8d\x8e\x0b\x0c\r\x0e\x0f\x10\x11\x12\x13\x9d\x85\x08\x87\x18\x19\x92\x8f"
      ++ "\x1c\x1d\x1e\x1f\x80\x81\x82\x83\x84\n\x17\x1b\x88\x89\x8a\x8b\x8c\x05\x06\x07\x90\x91"
      ++ "\x16\x93\x94\x95\x96\x04\x98\x99\x9a\x9b\x14\x15\x9e\x1a \xa0âäàáãå\x7bñÇ.<(+!&éêëèíîïì"
      ++ "ßĞİ*);^-/ÂÄÀÁÃÅ[Ñş,%_>?øÉÊËÈÍÎÏÌı:ÖŞ'=ÜØabcdefghi«»\x7d`¦±°jklmnopqrªºæ¸Æ¤µöstuvwxyz¡¿]"
      ++ "$@®¢£¥·©§¶¼½¾¬|¯¨´×çABCDEFGHI\xadô~òóõğJKLMNOPQR¹û\\ùúÿü÷STUVWXYZ²Ô#ÒÓÕ0123456789³Û\"ÙÚ"
      ++ "\x9f"⟩,
  ⟨["cp1125", "1125", "cp866u", "ibm1125", "ruscii"],
    "АБВГДЕЖЗИЙКЛМНОПРСТУФХЦЧШЩЪЫЬЭЮЯабвгдежзийклмноп░▒▓│┤╡╢╖╕╣║╗╝╜╛┐└┴┬├─┼╞╟╚╔╩╦╠═╬╧╨╤╥╙╘╒╓╫╪┘┌█"
      ++ "▄▌▐▀рстуфхцчшщъыьэюяЁёҐґЄєІіЇї·√№¤■\xa0"⟩,
  ⟨["cp1140", "1140", "ibm1140"],
    "\x9c\t\x86\x7f\x97\x8d\x8e\x0b\x0c\r\x0e\x0f\x10\x11\x12\x13\x9d\x85\x08\x87\x18\x19\x92\x8f"
      ++ "\x1c\x1d\x1e\x1f\x80\x81\x82\x83\x84\n\x17\x1b\x88\x89\x8a\x8b\x8c\x05\x06\x07\x90\x91"
      ++ "\x16\x93\x94\x95\x96\x04\x98\x99\x9a\x9b\x14\x15\x9e\x1a \xa0âäàáãåçñ¢.<(+|&éêëèíîïìß!$"
      ++ "*);¬-/ÂÄÀÁÃÅÇÑ¦,%_>?øÉÊËÈÍÎÏÌ`:#@'=\"Øabcdefghi«»ðýþ±°jklmnopqrªºæ¸Æ€µ~stuvwxyz¡¿ÐÝÞ®^£"
      ++ "¥·©§¶¼½¾[]¯¨´×\x7bABCDEFGHI\xadôöòóõ\x7dJKLMNOPQR¹ûüùúÿ\\÷STUVWXYZ²ÔÖÒÓÕ0123456789³ÛÜÙÚ"
      ++ "\x9f"⟩,
  ⟨["cp1250", "1250", "windows_1250"],
    "€\uFFFD‚\uFFFD„…†‡\uFFFD‰Š‹ŚŤŽŹ\uFFFD‘’“”•–—\uFFFD™š›śťžź\xa0ˇ˘Ł¤Ą¦§¨©Ş«¬\xad®Ż°±˛ł´µ¶·¸ąş»Ľ"
      ++ "˝ľżŔÁÂĂÄĹĆÇČÉĘËĚÍÎĎĐŃŇÓÔŐÖ×ŘŮÚŰÜÝŢßŕáâăäĺćçčéęëěíîďđńňóôőö÷řůúűüýţ˙"⟩,
  ⟨["cp1251", "1251", "windows_1251"],
    "ЂЃ‚ѓ„…†‡€‰Љ‹ЊЌЋЏђ‘’“”•–—\uFFFD™љ›њќћџ\xa0ЎўЈ¤Ґ¦§Ё©Є«¬\xad®Ї°±Ііґµ¶·ё№є»јЅѕїАБВГДЕЖЗИЙКЛМНОПР"
      ++ "СТУФХЦЧШЩЪЫЬЭЮЯабвгдежзийклмнопрстуфхцчшщъыьэюя"⟩,
  ⟨["cp1252", "1252", "windows_1252"],
    "€\uFFFD‚ƒ„…†‡ˆ‰Š‹Œ\uFFFDŽ\uFFFD\uFFFD‘’“”•–—˜™š›œ\uFFFDžŸ\xa0¡¢£¤¥¦§¨©ª«¬\xad®¯°±²³´µ¶·¸¹º»¼"
      ++ "½¾¿ÀÁÂÃÄÅÆÇÈÉÊËÌÍÎÏÐÑÒÓÔÕÖ×ØÙÚÛÜÝÞßàáâãäåæçèéêëìíîïðñòóôõö÷øùúûüýþÿ"⟩,
  ⟨["cp1253", "1253", "windows_1253"],
    "€\uFFFD‚ƒ„…†‡\uFFFD‰\uFFFD‹\uFFFD\uFFFD\uFFFD\uFFFD\uFFFD‘’“”•–—\uFFFD™\uFFFD›\uFFFD\uFFFD"
      ++ "\uFFFD\uFFFD\xa0΅Ά£¤¥¦§¨©\uFFFD«¬\xad®―°±²³΄µ¶·ΈΉΊ»Ό½ΎΏΐΑΒΓΔΕΖΗΘΙΚΛΜΝΞΟΠΡ\uFFFDΣΤΥΦΧΨΩΪ"
      ++ "Ϋάέήίΰαβγδεζηθικλμνξοπρςστυφχψωϊϋόύώ\uFFFD"⟩,
  ⟨["cp1254", "1254", "windows_1254"],
    "€\uFFFD‚ƒ„…†‡ˆ‰Š‹Œ\uFFFD\uFFFD\uFFFD\uFFFD‘’“”•–—˜™š›œ\uFFFD\uFFFDŸ\xa0¡¢£¤¥¦§¨©ª«¬\xad®¯°±²"
      ++ "³´µ¶·¸¹º»¼½¾¿ÀÁÂÃÄÅÆÇÈÉÊËÌÍÎÏĞÑÒÓÔÕÖ×ØÙÚÛÜİŞßàáâãäåæçèéêëìíîïğñòóôõö÷øùúûüışÿ"⟩,
  ⟨["cp1255", "1255", "windows_1255"],
    "€\uFFFD‚ƒ„…†‡ˆ‰\uFFFD‹\uFFFD\uFFFD\uFFFD\uFFFD\uFFFD‘’“”•–—˜™\uFFFD›\uFFFD\uFFFD\uFFFD\uFFFD"
      ++ "\xa0¡¢£₪¥¦§¨©×«¬\xad®¯°±²³´µ¶·¸¹÷»¼½¾¿\u05b0\u05b1\u05b2\u05b3\u05b4\u05b5\u05b6\u05b7"
      ++ "\u05b8\u05b9\uFFFD\u05bb\u05bc\u05bd\u05be\u05bf\u05c0\u05c1\u05c2\u05c3\u05f0\u05f1"
      ++ "\u05f2\u05f3\u05f4\uFFFD\uFFFD\uFFFD\uFFFD\uFFFD\uFFFD\uFFFD\u05d0\u05d1\u05d2\u05d3"
      ++ "\u05d4\u05d5\u05d6\u05d7\u05d8\u05d9\u05da\u05db\u05dc\u05dd\u05de\u05df\u05e0\u05e1"
      ++ "\u05e2\u05e3\u05e4\u05e5\u05e6\u05e7\u05e8\u05e9\u05ea\uFFFD\uFFFD\u200e\u200f\uFFFD"⟩,
  ⟨["cp1256", "1256", "windows_1256"],
    "€\u067e‚ƒ„…†‡ˆ‰\u0679‹Œ\u0686\u0698\u0688\u06af‘’“”•–—\u06a9™\u0691›œ\u200c\u200d\u06ba\xa0،"
      ++ "¢£¤¥¦§¨©\u06be«¬\xad®¯°±²³´µ¶·¸¹\u061b»¼½¾\u061f\u06c1\u0621\u0622\u0623\u0624\u0625"
      ++ "\u0626\u0627\u0628\u0629\u062a\u062b\u062c\u062d\u062e\u062f\u0630\u0631\u0632\u0633"
      ++ "\u0634\u0635\u0636×\u0637\u0638\u0639\u063a\u0640\u0641\u0642\u0643à\u0644â\u0645\u0646"
      ++ "\u0647\u0648çèéêë\u0649\u064aîï\u064b\u064c\u064d\u064eô\u064f\u0650÷\u0651ù\u0652ûü"
      ++ "\u200e\u200f\u06d2"⟩,
  ⟨["cp1257", "1257", "windows_1257"],
    "€\uFFFD‚\uFFFD„…†‡\uFFFD‰\uFFFD‹\uFFFD¨ˇ¸\uFFFD‘’“”•–—\uFFFD™\uFFFD›\uFFFD¯˛\uFFFD\xa0\uFFFD"
      ++ "¢£¤\uFFFD¦§Ø©Ŗ«¬\xad®Æ°±²³´µ¶·ø¹ŗ»¼½¾æĄĮĀĆÄÅĘĒČÉŹĖĢĶĪĻŠŃŅÓŌÕÖ×ŲŁŚŪÜŻŽßąįāćäåęēčéźėģķīļš"
      ++ "ńņóōõö÷ųłśūüżž˙"⟩,
  ⟨["cp1258", "1258", "windows_1258"],
    "€\uFFFD‚ƒ„…†‡ˆ‰\uFFFD‹Œ\uFFFD\uFFFD\uFFFD\uFFFD‘’“”•–—˜™\uFFFD›œ\uFFFD\uFFFDŸ\xa0¡¢£¤¥¦§¨©ª«"
      ++ "¬\xad®¯°±²³´µ¶·¸¹º»¼½¾¿ÀÁÂĂÄÅÆÇÈÉÊË\u0300ÍÎÏĐÑ\u0309ÓÔƠÖ×ØÙÚÛÜƯ\u0303ßàáâăäåæçèéêë"
      ++ "\u0301íîïđñ\u0323óôơö÷øùúûüư₫ÿ"⟩,
  ⟨["cp273", "273", "csibm273", "ibm273"],
    "\x9c\t\x86\x7f\x97\x8d\x8e\x0b\x0c\r\x0e\x0f\x10\x11\x12\x13\x9d\x85\x08\x87\x18\x19\x92\x8f"
      ++ "\x1c\x1d\x1e\x1f\x80\x81\x82\x83\x84\n\x17\x1b\x88\x89\x8a\x8b\x8c\x05\x06\x07\x90\x91"
      ++ "\x16\x93\x94\x95\x96\x04\x98\x99\x9a\x9b\x14\x15\x9e\x1a \xa0â\x7bàáãåçñÄ.<(+!&éêëèíîïì"
      ++ "~Ü$*);^-/Â[ÀÁÃÅÇÑö,%_>?øÉÊËÈÍÎÏÌ`:#§'=\"Øabcdefghi«»ðýþ±°jklmnopqrªºæ¸Æ¤µßstuvwxyz¡¿ÐÝÞ"
      ++ "®¢£¥·©@¶¼½¾¬|‾¨´×äABCDEFGHI\xadô¦òóõüJKLMNOPQR¹û\x7dùúÿÖ÷STUVWXYZ²Ô\\ÒÓÕ0123456789³Û]ÙÚ"
      ++ "\x9f"⟩,
  ⟨["cp424", "424", "csibm424", "ebcdic_cp_he", "ibm424"],
    "\x9c\t\x86\x7f\x97\x8d\x8e\x0b\x0c\r\x0e\x0f\x10\x11\x12\x13\x9d\x85\x08\x87\x18\x19\x92\x8f"
      ++ "\x1c\x1d\x1e\x1f\x80\x81\x82\x83\x84\n\x17\x1b\x88\x89\x8a\x8b\x8c\x05\x06\x07\x90\x91"
      ++ "\x16\x93\x94\x95\x96\x04\x98\x99\x9a\x9b\x14\x15\x9e\x1a \u05d0\u05d1\u05d2\u05d3\u05d4"
      ++ "\u05d5\u05d6\u05d7\u05d8¢.<(+|&\u05d9\u05da\u05db\u05dc\u05dd\u05de\u05df\u05e0\u05e1!$"
      ++ "*);¬-/\u05e2\u05e3\u05e4\u05e5\u05e6\u05e7\u05e8\u05e9¦,%_>?\uFFFD\u05ea\uFFFD\uFFFD"
      ++ "\xa0\uFFFD\uFFFD\uFFFD‗`:#@'=\"\uFFFDabcdefghi«»\uFFFD\uFFFD\uFFFD±°jklmnopqr\uFFFD"
      ++ "\uFFFD\uFFFD¸\uFFFD¤µ~stuvwxyz\uFFFD\uFFFD\uFFFD\uFFFD\uFFFD®^£¥·©§¶¼½¾[]¯¨´×\x7bABCDEF"
      ++ "GHI\xad\uFFFD\uFFFD\uFFFD\uFFFD\uFFFD\x7dJKLMNOPQR¹\uFFFD\uFFFD\uFFFD\uFFFD\uFFFD\\÷STU"
      ++ "VWXYZ²\uFFFD\uFFFD\uFFFD\uFFFD\uFFFD0123456789³\uFFFD\uFFFD\uFFFD\uFFFD\x9f"⟩,
  ⟨["cp437", "437", "cspc8codepage437", "ibm437"],
    "ÇüéâäàåçêëèïîìÄÅÉæÆôöòûùÿÖÜ¢£¥₧ƒáíóúñÑªº¿⌐¬½¼¡«»░▒▓│┤╡╢╖╕╣║╗╝╜╛┐└┴┬├─┼╞╟╚╔╩╦╠═╬╧╨╤╥╙╘╒╓╫╪┘┌█"
      ++ "▄▌▐▀αßΓπΣσµτΦΘΩδ∞φε∩≡±≥≤⌠⌡÷≈°∙·√ⁿ²■\xa0"⟩,
  ⟨["cp500", "500", "csibm500", "ebcdic_cp_be", "ebcdic_cp_ch", "ibm500"],
    "\x9c\t\x86\x7f\x97\x8d\x8e\x0b\x0c\r\x0e\x0f\x10\x11\x12\x13\x9d\x85\x08\x87\x18\x19\x92\x8f"
      ++ "\x1c\x1d\x1e\x1f\x80\x81\x82\x83\x84\n\x17\x1b\x88\x89\x8a\x8b\x8c\x05\x06\x07\x90\x91"
      ++ "\x16\x93\x94\x95\x96\x04\x98\x99\x9a\x9b\x14\x15\x9e\x1a \xa0âäàáãåçñ[.<(+!&éêëèíîïìß]$"
      ++ "*);^-/ÂÄÀÁÃÅÇÑ¦,%_>?øÉÊËÈÍÎÏÌ`:#@'=\"Øabcdefghi«»ðýþ±°jklmnopqrªºæ¸Æ¤µ~stuvwxyz¡¿ÐÝÞ®¢£"
      ++ "¥·©§¶¼½¾¬|¯¨´×\x7bABCDEFGHI\xadôöòóõ\x7dJKLMNOPQR¹ûüùúÿ\\÷STUVWXYZ²ÔÖÒÓÕ0123456789³ÛÜÙÚ"
      ++ "\x9f"⟩,
  ⟨["cp720"],
    "éâ\x84à\x86çêëèïî\x8d\x8e\x8f\x90\u0651\u0652ô¤\u0640ûù\u0621\u0622\u0623\u0624£\u0625\u0626"
      ++ "\u0627\u0628\u0629\u062a\u062b\u062c\u062d\u062e\u062f\u0630\u0631\u0632\u0633\u0634"
      ++ "\u0635«»░▒▓│┤╡╢╖╕╣║╗╝╜╛┐└┴┬├─┼╞╟╚╔╩╦╠═╬╧╨╤╥╙╘╒╓╫╪┘┌█▄▌▐▀\u0636\u0637\u0638\u0639\u063a"
      ++ "\u0641µ\u0642\u0643\u0644\u0645\u0646\u0647\u0648\u0649\u064a≡\u064b\u064c\u064d\u064e"
      ++ "\u064f\u0650≈°∙·√ⁿ²■\xa0"⟩,
  ⟨["cp737"],
    "ΑΒΓΔΕΖΗΘΙΚΛΜΝΞΟΠΡΣΤΥΦΧΨΩαβγδεζηθικλμνξοπρσςτυφχψ░▒▓│┤╡╢╖╕╣║╗╝╜╛┐└┴┬├─┼╞╟╚╔╩╦╠═╬╧╨╤╥╙╘╒╓╫╪┘┌█"
      ++ "▄▌▐▀ωάέήϊίόύϋώΆΈΉΊΌΎΏ±≥≤ΪΫ÷≈°∙·√ⁿ²■\xa0"⟩,
  ⟨["cp775", "775", "cspc775baltic", "ibm775"],
    "ĆüéāäģåćłēŖŗīŹÄÅÉæÆōöĢ¢ŚśÖÜø£Ø×¤ĀĪóŻżź”¦©®¬½¼Ł«»░▒▓│┤ĄČĘĖ╣║╗╝ĮŠ┐└┴┬├─┼ŲŪ╚╔╩╦╠═╬Žąčęėįšųūž┘┌█"
      ++ "▄▌▐▀ÓßŌŃõÕµńĶķĻļņĒŅ’\xad±“¾¶§÷„°∙·¹³²■\xa0"⟩,
  ⟨["cp850", "850", "cspc850multilingual", "ibm850"],
    "ÇüéâäàåçêëèïîìÄÅÉæÆôöòûùÿÖÜø£Ø×ƒáíóúñÑªº¿®¬½¼¡«»░▒▓│┤ÁÂÀ©╣║╗╝¢¥┐└┴┬├─┼ãÃ╚╔╩╦╠═╬¤ðÐÊËÈıÍÎÏ┘┌█"
      ++ "▄¦Ì▀ÓßÔÒõÕµþÞÚÛÙýÝ¯´\xad±‗¾¶§÷¸°¨·¹³²■\xa0"⟩,
  ⟨["cp852", "852", "cspcp852", "ibm852"],
    "ÇüéâäůćçłëŐőîŹÄĆÉĹĺôöĽľŚśÖÜŤťŁ×čáíóúĄąŽžĘę¬źČş«»░▒▓│┤ÁÂĚŞ╣║╗╝Żż┐└┴┬├─┼Ăă╚╔╩╦╠═╬¤đĐĎËďŇÍÎě┘┌█"
      ++ "▄ŢŮ▀ÓßÔŃńňŠšŔÚŕŰýÝţ´\xad˝˛ˇ˘§÷¸°¨˙űŘř■\xa0"⟩,
  ⟨["cp855", "855", "csibm855", "ibm855"],
    "ђЂѓЃёЁєЄѕЅіІїЇјЈљЉњЊћЋќЌўЎџЏюЮъЪаАбБцЦдДеЕфФгГ«»░▒▓│┤хХиИ╣║╗╝йЙ┐└┴┬├─┼кК╚╔╩╦╠═╬¤лЛмМнНоОп┘┌█"
      ++ "▄Пя▀ЯрРсСтТуУжЖвВьЬ№\xadыЫзЗшШэЭщЩчЧ§■\xa0"⟩,
  ⟨["cp856"],
    "\u05d0\u05d1\u05d2\u05d3\u05d4\u05d5\u05d6\u05d7\u05d8\u05d9\u05da\u05db\u05dc\u05dd\u05de"
      ++ "\u05df\u05e0\u05e1\u05e2\u05e3\u05e4\u05e5\u05e6\u05e7\u05e8\u05e9\u05ea\uFFFD£\uFFFD×"
      ++ "\uFFFD\uFFFD\uFFFD\uFFFD\uFFFD\uFFFD\uFFFD\uFFFD\uFFFD\uFFFD®¬½¼\uFFFD«»░▒▓│┤\uFFFD"
      ++ "\uFFFD\uFFFD©╣║╗╝¢¥┐└┴┬├─┼\uFFFD\uFFFD╚╔╩╦╠═╬¤\uFFFD\uFFFD\uFFFD\uFFFD\uFFFD\uFFFD"
      ++ "\uFFFD\uFFFD\uFFFD┘┌█▄¦\uFFFD▀\uFFFD\uFFFD\uFFFD\uFFFD\uFFFD\uFFFDµ\uFFFD\uFFFD\uFFFD"
      ++ "\uFFFD\uFFFD\uFFFD\uFFFD¯´\xad±‗¾¶§÷¸°¨·¹³²■\xa0"⟩,
  ⟨["cp857", "857", "csibm857", "ibm857"],
    "ÇüéâäàåçêëèïîıÄÅÉæÆôöòûùİÖÜø£ØŞşáíóúñÑĞğ¿®¬½¼¡«»░▒▓│┤ÁÂÀ©╣║╗╝¢¥┐└┴┬├─┼ãÃ╚╔╩╦╠═╬¤ºªÊËÈ\uFFFDÍ"
      ++ "ÎÏ┘┌█▄¦Ì▀ÓßÔÒõÕµ\uFFFD×ÚÛÙìÿ¯´\xad±\uFFFD¾¶§÷¸°¨·¹³²■\xa0"⟩,
  ⟨["cp858", "858", "csibm858", "ibm858"],
    "ÇüéâäàåçêëèïîìÄÅÉæÆôöòûùÿÖÜø£Ø×ƒáíóúñÑªº¿®¬½¼¡«»░▒▓│┤ÁÂÀ©╣║╗╝¢¥┐└┴┬├─┼ãÃ╚╔╩╦╠═╬¤ðÐÊËÈ€ÍÎÏ┘┌█"
      ++ "▄¦Ì▀ÓßÔÒõÕµþÞÚÛÙýÝ¯´\xad±‗¾¶§÷¸°¨·¹³²■\xa0"⟩,
  ⟨["cp860", "860", "csibm860", "ibm860"],
    "ÇüéâãàÁçêÊèÍÔìÃÂÉÀÈôõòÚùÌÕÜ¢£Ù₧ÓáíóúñÑªº¿Ò¬½¼¡«»░▒▓│┤╡╢╖╕╣║╗╝╜╛┐└┴┬├─┼╞╟╚╔╩╦╠═╬╧╨╤╥╙╘╒╓╫╪┘┌█"
      ++ "▄▌▐▀αßΓπΣσµτΦΘΩδ∞φε∩≡±≥≤⌠⌡÷≈°∙·√ⁿ²■\xa0"⟩,
  ⟨["cp861", "861", "cp_is", "csibm861", "ibm861"],
    "ÇüéâäàåçêëèÐðÞÄÅÉæÆôöþûÝýÖÜø£Ø₧ƒáíóúÁÍÓÚ¿⌐¬½¼¡«»░▒▓│┤╡╢╖╕╣║╗╝╜╛┐└┴┬├─┼╞╟╚╔╩╦╠═╬╧╨╤╥╙╘╒╓╫╪┘┌█"
      ++ "▄▌▐▀αßΓπΣσµτΦΘΩδ∞φε∩≡±≥≤⌠⌡÷≈°∙·√ⁿ²■\xa0"⟩,
  ⟨["cp862", "862", "cspc862latinhebrew", "ibm862"],
    "\u05d0\u05d1\u05d2\u05d3\u05d4\u05d5\u05d6\u05d7\u05d8\u05d9\u05da\u05db\u05dc\u05dd\u05de"
      ++ "\u05df\u05e0\u05e1\u05e2\u05e3\u05e4\u05e5\u05e6\u05e7\u05e8\u05e9\u05ea¢£¥₧ƒáíóúñÑªº¿⌐"
      ++ "¬½¼¡«»░▒▓│┤╡╢╖╕╣║╗╝╜╛┐└┴┬├─┼╞╟╚╔╩╦╠═╬╧╨╤╥╙╘╒╓╫╪┘┌█▄▌▐▀αßΓπΣσµτΦΘΩδ∞φε∩≡±≥≤⌠⌡÷≈°∙·√ⁿ²■"
      ++ "\xa0"⟩,
  ⟨["cp863", "863", "csibm863", "ibm863"],
    "ÇüéâÂà¶çêëèïî‗À§ÉÈÊôËÏûù¤ÔÜ¢£ÙÛƒ¦´óú¨¸³¯Î⌐¬½¼¾«»░▒▓│┤╡╢╖╕╣║╗╝╜╛┐└┴┬├─┼╞╟╚╔╩╦╠═╬╧╨╤╥╙╘╒╓╫╪┘┌█"
      ++ "▄▌▐▀αßΓπΣσµτΦΘΩδ∞φε∩≡±≥≤⌠⌡÷≈°∙·√ⁿ²■\xa0"⟩,
  ⟨["cp864", "864", "csibm864", "ibm864"],
    "٪&'()*+,-./0123456789:;<=>?@ABCDEFGHIJKLMNOPQRSTUVWXYZ[\\]^_`abcdefghijklmnopqrstuvwxyz\x7b|"
      ++ "\x7d~\x7f°·∙√▒─│┼┤┬├┴┐┌└┘β∞φ±½¼≈«»\ufef7\ufef8\uFFFD\uFFFD\ufefb\ufefc\uFFFD\xa0\xad"
      ++ "\ufe82£¤\ufe84\uFFFD\uFFFD\ufe8e\ufe8f\ufe95\ufe99،\ufe9d\ufea1\ufea5\u0660\u0661\u0662"
      ++ "\u0663\u0664\u0665\u0666\u0667\u0668\u0669\ufed1\u061b\ufeb1\ufeb5\ufeb9\u061f¢\ufe80"
      ++ "\ufe81\ufe83\ufe85\ufeca\ufe8b\ufe8d\ufe91\ufe93\ufe97\ufe9b\ufe9f\ufea3\ufea7\ufea9"
      ++ "\ufeab\ufead\ufeaf\ufeb3\ufeb7\ufebb\ufebf\ufec1\ufec5\ufecb\ufecf¦¬÷×\ufec9\u0640"
      ++ "\ufed3\ufed7\ufedb\ufedf\ufee3\ufee7\ufeeb\ufeed\ufeef\ufef3\ufebd\ufecc\ufece\ufecd"
      ++ "\ufee1\ufe7d\u0651\ufee5\ufee9\ufeec\ufef0\ufef2\ufed0\ufed5\ufef5\ufef6\ufedd\ufed9"
      ++ "\ufef1■\uFFFD"⟩,
  ⟨["cp865", "865", "csibm865", "ibm865"],
    "ÇüéâäàåçêëèïîìÄÅÉæÆôöòûùÿÖÜø£Ø₧ƒáíóúñÑªº¿⌐¬½¼¡«¤░▒▓│┤╡╢╖╕╣║╗╝╜╛┐└┴┬├─┼╞╟╚╔╩╦╠═╬╧╨╤╥╙╘╒╓╫╪┘┌█"
      ++ "▄▌▐▀αßΓπΣσµτΦΘΩδ∞φε∩≡±≥≤⌠⌡÷≈°∙·√ⁿ²■\xa0"⟩,
  ⟨["cp866", "866", "csibm866", "ibm866"],
    "АБВГДЕЖЗИЙКЛМНОПРСТУФХЦЧШЩЪЫЬЭЮЯабвгдежзийклмноп░▒▓│┤╡╢╖╕╣║╗╝╜╛┐└┴┬├─┼╞╟╚╔╩╦╠═╬╧╨╤╥╙╘╒╓╫╪┘┌█"
      ++ "▄▌▐▀рстуфхцчшщъыьэюяЁёЄєЇїЎў°∙·√№¤■\xa0"⟩,
  ⟨["cp869", "869", "cp_gr", "csibm869", "ibm869"],
    "\uFFFD\uFFFD\uFFFD\uFFFD\uFFFD\uFFFDΆ\uFFFD·¬¦‘’Έ―ΉΊΪΌ\uFFFD\uFFFDΎΫ©Ώ²³ά£έήίϊΐόύΑΒΓΔΕΖΗ½ΘΙ«"
      ++ "»░▒▓│┤ΚΛΜΝ╣║╗╝ΞΟ┐└┴┬├─┼ΠΡ╚╔╩╦╠═╬ΣΤΥΦΧΨΩαβγ┘┌█▄δε▀ζηθικλμνξοπρσςτ΄\xad±υφχ§ψ΅°¨ωϋΰώ■\xa0"⟩,
  ⟨["cp874"],
    "€\uFFFD\uFFFD\uFFFD\uFFFD…\uFFFD\uFFFD\uFFFD\uFFFD\uFFFD\uFFFD\uFFFD\uFFFD\uFFFD\uFFFD\uFFFD"
      ++ "‘’“”•–—\uFFFD\uFFFD\uFFFD\uFFFD\uFFFD\uFFFD\uFFFD\uFFFD\xa0กขฃคฅฆงจฉชซฌญฎฏฐฑฒณดตถทธนบปผ"
      ++ "ฝพฟภมยรฤลฦวศษสหฬอฮฯะ\u0e31าำ\u0e34\u0e35\u0e36\u0e37\u0e38\u0e39\u0e3a\uFFFD\uFFFD"
      ++ "\uFFFD\uFFFD฿เแโใไๅๆ\u0e47\u0e48\u0e49\u0e4a\u0e4b\u0e4c\u0e4d\u0e4e๏๐๑๒๓๔๕๖๗๘๙๚๛\uFFFD"
      ++ "\uFFFD\uFFFD\uFFFD"⟩,
  ⟨["cp875"],
    "\x9c\t\x86\x7f\x97\x8d\x8e\x0b\x0c\r\x0e\x0f\x10\x11\x12\x13\x9d\x85\x08\x87\x18\x19\x92\x8f"
      ++ "\x1c\x1d\x1e\x1f\x80\x81\x82\x83\x84\n\x17\x1b\x88\x89\x8a\x8b\x8c\x05\x06\x07\x90\x91"
      ++ "\x16\x93\x94\x95\x96\x04\x98\x99\x9a\x9b\x14\x15\x9e\x1a ΑΒΓΔΕΖΗΘΙ[.<(+!&ΚΛΜΝΞΟΠΡΣ]$*);"
      ++ "^-/ΤΥΦΧΨΩΪΫ|,%_>?¨ΆΈΉ\xa0ΊΌΎΏ`:#@'=\"΅abcdefghiαβγδεζ°jklmnopqrηθικλμ´~stuvwxyzνξοπρσ£ά"
      ++ "έήϊίόύϋώςτυφχψ\x7bABCDEFGHI\xadωΐΰ‘―\x7dJKLMNOPQR±½\x1a·’¦\\\x1aSTUVWXYZ²§\x1a\x1a«¬012"
      ++ "3456789³©\x1a\x1a»\x9f"⟩,
  ⟨["hp_roman8", "cp1051", "ibm1051", "r8", "roman8"],
    "ÀÂÈÊËÎÏ´ˋˆ¨˜ÙÛ₤¯Ýý°ÇçÑñ¡¿¤£¥§ƒ¢âêôûáéóúàèòùäëöüÅîØÆåíøæÄìÖÜÉïßÔÁÃãÐðÍÌÓÒÕõŠšÚŸÿÞþ·µ¶¾—¼½ªº«■"
      ++ "»±\uFFFD"⟩,
  ⟨["iso8859_10", "csisolatin6", "iso_8859_10", "iso_8859_10_1992", "iso_ir_157", "l6", "latin6"],
    "ĄĒĢĪĨĶ§ĻĐŠŦŽ\xadŪŊ°ąēģīĩķ·ļđšŧž―ūŋĀÁÂÃÄÅÆĮČÉĘËĖÍÎÏÐŅŌÓÔÕÖŨØŲÚÛÜÝÞßāáâãäåæįčéęëėíîïðņōóôõöũøų"
      ++ "úûüýþĸ"⟩,
  ⟨["iso8859_11", "iso_8859_11", "iso_8859_11_2001", "thai"],
    "กขฃคฅฆงจฉชซฌญฎฏฐฑฒณดตถทธนบปผฝพฟภมยรฤลฦวศษสหฬอฮฯะ\u0e31าำ\u0e34\u0e35\u0e36\u0e37\u0e38\u0e39"
      ++ "\u0e3a\uFFFD\uFFFD\uFFFD\uFFFD฿เแโใไๅๆ\u0e47\u0e48\u0e49\u0e4a\u0e4b\u0e4c\u0e4d\u0e4e๏"
      ++ "๐๑๒๓๔๕๖๗๘๙๚๛\uFFFD\uFFFD\uFFFD\uFFFD"⟩,
  ⟨["iso8859_13", "iso_8859_13", "l7", "latin7"],
    "”¢£¤„¦§Ø©Ŗ«¬\xad®Æ°±²³“µ¶·ø¹ŗ»¼½¾æĄĮĀĆÄÅĘĒČÉŹĖĢĶĪĻŠŃŅÓŌÕÖ×ŲŁŚŪÜŻŽßąįāćäåęēčéźėģķīļšńņóōõö÷ųł"
      ++ "śūüżž’"⟩,
  ⟨["iso8859_14", "iso_8859_14", "iso_8859_14_1998", "iso_celtic", "iso_ir_199", "l8", "latin8"],
    "Ḃḃ£ĊċḊ§Ẁ©ẂḋỲ\xad®ŸḞḟĠġṀṁ¶ṖẁṗẃṠỳẄẅṡÀÁÂÃÄÅÆÇÈÉÊËÌÍÎÏŴÑÒÓÔÕÖṪØÙÚÛÜÝŶßàáâãäåæçèéêëìíîïŵñòóôõöṫøù"
      ++ "úûüýŷÿ"⟩,
  ⟨["iso8859_15", "iso_8859_15", "l9", "latin9"],
    "€¥Š§š©ª«¬\xad®¯°±²³Žµ¶·ž¹º»ŒœŸ¿ÀÁÂÃÄÅÆÇÈÉÊËÌÍÎÏÐÑÒÓÔÕÖ×ØÙÚÛÜÝÞßàáâãäåæçèéêëìíîïðñòóôõö÷øùúûü"
      ++ "ýþÿ"⟩,
  ⟨["iso8859_16", "iso_8859_16", "iso_8859_16_2001", "iso_ir_226", "l10", "latin10"],
    "ĄąŁ€„Š§š©Ș«Ź\xadźŻ°±ČłŽ”¶·žčș»ŒœŸżÀÁÂĂÄĆÆÇÈÉÊËÌÍÎÏĐŃÒÓÔŐÖŚŰÙÚÛÜĘȚßàáâăäćæçèéêëìíîïđńòóôőöśűù"
      ++ "úûüęțÿ"⟩,
  ⟨["iso8859_2", "csisolatin2", "iso_8859_2", "iso_8859_2_1987", "iso_ir_101", "l2", "latin2"],
    "Ą˘Ł¤ĽŚ§¨ŠŞŤŹ\xadŽŻ°ą˛ł´ľśˇ¸šşťź˝žżŔÁÂĂÄĹĆÇČÉĘËĚÍÎĎĐŃŇÓÔŐÖ×ŘŮÚŰÜÝŢßŕáâăäĺćçčéęëěíîďđńňóôőö÷řů"
      ++ "úűüýţ˙"⟩,
  ⟨["iso8859_3", "csisolatin3", "iso_8859_3", "iso_8859_3_1988", "iso_ir_109", "l3", "latin3"],
    "Ħ˘£¤\uFFFDĤ§¨İŞĞĴ\xad\uFFFDŻ°ħ²³´µĥ·¸ışğĵ½\uFFFDżÀÁÂ\uFFFDÄĊĈÇÈÉÊËÌÍÎÏ\uFFFDÑÒÓÔĠÖ×ĜÙÚÛÜŬŜßà"
      ++ "áâ\uFFFDäċĉçèéêëìíîï\uFFFDñòóôġö÷ĝùúûüŭŝ˙"⟩,
  ⟨["iso8859_4", "csisolatin4", "iso_8859_4", "iso_8859_4_1988", "iso_ir_110", "l4", "latin4"],
    "ĄĸŖ¤ĨĻ§¨ŠĒĢŦ\xadŽ¯°ą˛ŗ´ĩļˇ¸šēģŧŊžŋĀÁÂÃÄÅÆĮČÉĘËĖÍÎĪĐŅŌĶÔÕÖ×ØŲÚÛÜŨŪßāáâãäåæįčéęëėíîīđņōķôõö÷øų"
      ++ "úûüũū˙"⟩,
  ⟨["iso8859_5", "csisolatincyrillic", "cyrillic", "iso_8859_5", "iso_8859_5_1988", "iso_ir_144"],
    "ЁЂЃЄЅІЇЈЉЊЋЌ\xadЎЏАБВГДЕЖЗИЙКЛМНОПРСТУФХЦЧШЩЪЫЬЭЮЯабвгдежзийклмнопрстуфхцчшщъыьэюя№ёђѓєѕіїјљ"
      ++ "њћќ§ўџ"⟩,
  ⟨["iso8859_6", "arabic", "asmo_708", "csisolatinarabic", "ecma_114", "iso_8859_6",
    "iso_8859_6_1987", "iso_ir_127"],
    "\uFFFD\uFFFD\uFFFD¤\uFFFD\uFFFD\uFFFD\uFFFD\uFFFD\uFFFD\uFFFD،\xad\uFFFD\uFFFD\uFFFD\uFFFD"
      ++ "\uFFFD\uFFFD\uFFFD\uFFFD\uFFFD\uFFFD\uFFFD\uFFFD\uFFFD\u061b\uFFFD\uFFFD\uFFFD\u061f"
      ++ "\uFFFD\u0621\u0622\u0623\u0624\u0625\u0626\u0627\u0628\u0629\u062a\u062b\u062c\u062d"
      ++ "\u062e\u062f\u0630\u0631\u0632\u0633\u0634\u0635\u0636\u0637\u0638\u0639\u063a\uFFFD"
      ++ "\uFFFD\uFFFD\uFFFD\uFFFD\u0640\u0641\u0642\u0643\u0644\u0645\u0646\u0647\u0648\u0649"
      ++ "\u064a\u064b\u064c\u064d\u064e\u064f\u0650\u0651\u0652\uFFFD\uFFFD\uFFFD\uFFFD\uFFFD"
      ++ "\uFFFD\uFFFD\uFFFD\uFFFD\uFFFD\uFFFD\uFFFD\uFFFD"⟩,
  ⟨["iso8859_7", "csisolatingreek", "ecma_118", "elot_928", "greek", "greek8", "iso_8859_7",
    "iso_8859_7_1987", "iso_ir_126"],
    "‘’£€₯¦§¨©ͺ«¬\xad\uFFFD―°±²³΄΅Ά·ΈΉΊ»Ό½ΎΏΐΑΒΓΔΕΖΗΘΙΚΛΜΝΞΟΠΡ\uFFFDΣΤΥΦΧΨΩΪΫάέήίΰαβγδεζηθικλμνξο"
      ++ "πρςστυφχψωϊϋόύώ\uFFFD"⟩,
  ⟨["iso8859_8", "csisolatinhebrew", "hebrew", "iso_8859_8", "iso_8859_8_1988", "iso_ir_138"],
    "\uFFFD¢£¤¥¦§¨©×«¬\xad®¯°±²³´µ¶·¸¹÷»¼½¾\uFFFD\uFFFD\uFFFD\uFFFD\uFFFD\uFFFD\uFFFD\uFFFD\uFFFD"
      ++ "\uFFFD\uFFFD\uFFFD\uFFFD\uFFFD\uFFFD\uFFFD\uFFFD\uFFFD\uFFFD\uFFFD\uFFFD\uFFFD\uFFFD"
      ++ "\uFFFD\uFFFD\uFFFD\uFFFD\uFFFD\uFFFD\uFFFD\uFFFD\uFFFD‗\u05d0\u05d1\u05d2\u05d3\u05d4"
      ++ "\u05d5\u05d6\u05d7\u05d8\u05d9\u05da\u05db\u05dc\u05dd\u05de\u05df\u05e0\u05e1\u05e2"
      ++ "\u05e3\u05e4\u05e5\u05e6\u05e7\u05e8\u05e9\u05ea\uFFFD\uFFFD\u200e\u200f\uFFFD"⟩,
  ⟨["iso8859_9", "csisolatin5", "iso_8859_9", "iso_8859_9_1989", "iso_ir_148", "l5", "latin5"],
    "ĞÑÒÓÔÕÖ×ØÙÚÛÜİŞßàáâãäåæçèéêëìíîïğñòóôõö÷øùúûüışÿ"⟩,
  ⟨["koi8_r", "cskoi8r"],
    "─│┌┐└┘├┤┬┴┼▀▄█▌▐░▒▓⌠■∙√≈≤≥\xa0⌡°²·÷═║╒ё╓╔╕╖╗╘╙╚╛╜╝╞╟╠╡Ё╢╣╤╥╦╧╨╩╪╫╬©юабцдефгхийклмнопярстужвь"
      ++ "ызшэщчъЮАБЦДЕФГХИЙКЛМНОПЯРСТУЖВЬЫЗШЭЩЧЪ"⟩,
  ⟨["koi8_t"],
    "қғ‚Ғ„…†‡\uFFFD‰ҳ‹ҲҷҶ\uFFFDҚ‘’“”•–—\uFFFD™\uFFFD›\uFFFD\uFFFD\uFFFD\uFFFD\uFFFDӯӮё¤ӣ¦§\uFFFD"
      ++ "\uFFFD\uFFFD«¬\xad®\uFFFD°±²Ё\uFFFDӢ¶·\uFFFD№\uFFFD»\uFFFD\uFFFD\uFFFD©юабцдефгхийклмно"
      ++ "пярстужвьызшэщчъЮАБЦДЕФГХИЙКЛМНОПЯРСТУЖВЬЫЗШЭЩЧЪ"⟩,
  ⟨["koi8_u"],
    "─│┌┐└┘├┤┬┴┼▀▄█▌▐░▒▓⌠■∙√≈≤≥\xa0⌡°²·÷═║╒ёє╔ії╗╘╙╚╛ґ╝╞╟╠╡ЁЄ╣ІЇ╦╧╨╩╪Ґ╬©юабцдефгхийклмнопярстужвь"
      ++ "ызшэщчъЮАБЦДЕФГХИЙКЛМНОПЯРСТУЖВЬЫЗШЭЩЧЪ"⟩,
  ⟨["kz1048", "kz_1048", "rk1048", "strk1048_2002"],
    "ЂЃ‚ѓ„…†‡€‰Љ‹ЊҚҺЏђ‘’“”•–—\uFFFD™љ›њқһџ\xa0ҰұӘ¤Ө¦§Ё©Ғ«¬\xad®Ү°±Ііөµ¶·ё№ғ»әҢңүАБВГДЕЖЗИЙКЛМНОПР"
      ++ "СТУФХЦЧШЩЪЫЬЭЮЯабвгдежзийклмнопрстуфхцчшщъыьэюя"⟩,
  ⟨["mac_arabic"],
    "Ä\xa0ÇÉÑÖÜáàâä\u06ba«çéèêëí…îïñó»ôö÷úùûü !\"#$٪&'()*+،-./\u0660\u0661\u0662\u0663\u0664"
      ++ "\u0665\u0666\u0667\u0668\u0669:\u061b<=>\u061f❊\u0621\u0622\u0623\u0624\u0625\u0626"
      ++ "\u0627\u0628\u0629\u062a\u062b\u062c\u062d\u062e\u062f\u0630\u0631\u0632\u0633\u0634"
      ++ "\u0635\u0636\u0637\u0638\u0639\u063a[\\]^_\u0640\u0641\u0642\u0643\u0644\u0645\u0646"
      ++ "\u0647\u0648\u0649\u064a\u064b\u064c\u064d\u064e\u064f\u0650\u0651\u0652\u067e\u0679"
      ++ "\u0686\u06d5\u06a4\u06af\u0688\u0691\x7b|\x7d\u0698\u06d2"⟩,
  ⟨["mac_croatian"],
    "ÄÅÇÉÑÖÜáàâäãåçéèêëíìîïñóòôöõúùûü†°¢£§•¶ß®Š™´¨≠ŽØ∞±≤≥∆µ∂∑∏š∫ªºΩžø¿¡¬√ƒ≈Ć«Č…\xa0ÀÃÕŒœĐ—“”‘’÷◊"
      ++ "\uf8ff©⁄€‹›Æ»–·‚„‰ÂćÁčÈÍÎÏÌÓÔđÒÚÛÙıˆ˜¯πË˚¸Êæˇ"⟩,
  ⟨["mac_cyrillic", "maccyrillic"],
    "АБВГДЕЖЗИЙКЛМНОПРСТУФХЦЧШЩЪЫЬЭЮЯ†°Ґ£§•¶І®©™Ђђ≠Ѓѓ∞±≤≥іµґЈЄєЇїЉљЊњјЅ¬√ƒ≈∆«»…\xa0ЋћЌќѕ–—“”‘’÷„Ў"
      ++ "ўЏџ№Ёёяабвгдежзийклмнопрстуфхцчшщъыьэю€"⟩,
  ⟨["mac_farsi"],
    "Ä\xa0ÇÉÑÖÜáàâä\u06ba«çéèêëí…îïñó»ôö÷úùûü !\"#$٪&'()*+،-./۰۱۲۳۴۵۶۷۸۹:\u061b<=>\u061f❊\u0621"
      ++ "\u0622\u0623\u0624\u0625\u0626\u0627\u0628\u0629\u062a\u062b\u062c\u062d\u062e\u062f"
      ++ "\u0630\u0631\u0632\u0633\u0634\u0635\u0636\u0637\u0638\u0639\u063a[\\]^_\u0640\u0641"
      ++ "\u0642\u0643\u0644\u0645\u0646\u0647\u0648\u0649\u064a\u064b\u064c\u064d\u064e\u064f"
      ++ "\u0650\u0651\u0652\u067e\u0679\u0686\u06d5\u06a4\u06af\u0688\u0691\x7b|\x7d\u0698\u06d2"⟩,
  ⟨["mac_greek", "macgreek"],
    "Ä¹²É³ÖÜ΅àâä΄¨çéèêë£™îï•½‰ôö¦€ùûü†ΓΔΘΛΞΠß®©ΣΪ§≠°·Α±≤≥¥ΒΕΖΗΙΚΜΦΫΨΩάΝ¬ΟΡ≈Τ«»…\xa0ΥΧΆΈœ–―“”‘’÷ΉΊ"
      ++ "ΌΎέήίόΏύαβψδεφγηιξκλμνοπώρστθωςχυζϊϋΐΰ\xad"⟩,
  ⟨["mac_iceland", "maciceland"],
    "ÄÅÇÉÑÖÜáàâäãåçéèêëíìîïñóòôöõúùûüÝ°¢£§•¶ß®©™´¨≠ÆØ∞±≤≥¥µ∂∑∏π∫ªºΩæø¿¡¬√ƒ≈∆«»…\xa0ÀÃÕŒœ–—“”‘’÷◊ÿ"
      ++ "Ÿ⁄€ÐðÞþý·‚„‰ÂÊÁËÈÍÎÏÌÓÔ\uf8ffÒÚÛÙıˆ˜¯˘˙˚¸˝˛ˇ"⟩,
  ⟨["mac_latin2", "mac_centeuro", "maccentraleurope", "maclatin2"],
    "ÄĀāÉĄÖÜáąČäčĆćéŹźĎíďĒēĖóėôöõúĚěü†°Ę£§•¶ß®©™ę¨≠ģĮįĪ≤≥īĶ∂∑łĻļĽľĹĺŅņŃ¬√ńŇ∆«»…\xa0ňŐÕőŌ–—“”‘’÷◊ō"
      ++ "ŔŕŘ‹›řŖŗŠ‚„šŚśÁŤťÍŽžŪÓÔūŮÚůŰűŲųÝýķŻŁżĢˇ"⟩,
  ⟨["mac_roman", "macintosh", "macroman"],
    "ÄÅÇÉÑÖÜáàâäãåçéèêëíìîïñóòôöõúùûü†°¢£§•¶ß®©™´¨≠ÆØ∞±≤≥¥µ∂∑∏π∫ªºΩæø¿¡¬√ƒ≈∆«»…\xa0ÀÃÕŒœ–—“”‘’÷◊ÿ"
      ++ "Ÿ⁄€‹›\ufb01\ufb02‡·‚„‰ÂÊÁËÈÍÎÏÌÓÔ\uf8ffÒÚÛÙıˆ˜¯˘˙˚¸˝˛ˇ"⟩,
  ⟨["mac_romanian"],
    "ÄÅÇÉÑÖÜáàâäãåçéèêëíìîïñóòôöõúùûü†°¢£§•¶ß®©™´¨≠ĂȘ∞±≤≥¥µ∂∑∏π∫ªºΩăș¿¡¬√ƒ≈∆«»…\xa0ÀÃÕŒœ–—“”‘’÷◊ÿ"
      ++ "Ÿ⁄€‹›Țț‡·‚„‰ÂÊÁËÈÍÎÏÌÓÔ\uf8ffÒÚÛÙıˆ˜¯˘˙˚¸˝˛ˇ"⟩,
  ⟨["mac_turkish", "macturkish"],
    "ÄÅÇÉÑÖÜáàâäãåçéèêëíìîïñóòôöõúùûü†°¢£§•¶ß®©™´¨≠ÆØ∞±≤≥¥µ∂∑∏π∫ªºΩæø¿¡¬√ƒ≈∆«»…\xa0ÀÃÕŒœ–—“”‘’÷◊ÿ"
      ++ "ŸĞğİıŞş‡·‚„‰ÂÊÁËÈÍÎÏÌÓÔ\uf8ffÒÚÛÙ\uf8a0ˆ˜¯˘˙˚¸˝˛ˇ"⟩,
  ⟨["palmos"],
    "€\x81‚ƒ„…†‡ˆ‰Š‹Œ♦♣♥♠‘’“”•–—˜™š\x9bœ\x9d\x9eŸ\xa0¡¢£¤¥¦§¨©ª«¬\xad®¯°±²³´µ¶·¸¹º»¼½¾¿ÀÁÂÃÄÅÆÇÈÉ"
      ++ "ÊËÌÍÎÏÐÑÒÓÔÕÖ×ØÙÚÛÜÝÞßàáâãäåæçèéêëìíîïðñòóôõö÷øùúûüýþÿ"⟩,
  ⟨["ptcp154", "cp154", "csptcp154", "cyrillic_asian", "pt154"],
    "ҖҒӮғ„…ҶҮҲүҠӢҢҚҺҸҗ‘’“”•–—ҳҷҡӣңқһҹ\xa0ЎўЈӨҘҰ§Ё©Ә«¬ӯ®Ҝ°ұІіҙө¶·ё№ә»јҪҫҝАБВГДЕЖЗИЙКЛМНОПРСТУФХЦЧШ"
      ++ "ЩЪЫЬЭЮЯабвгдежзийклмнопрстуфхцчшщъыьэюя"⟩,
  ⟨["tis_620", "iso_ir_166", "tis620", "tis_620_0", "tis_620_2529_0", "tis_620_2529_1"],
    "\uFFFDกขฃคฅฆงจฉชซฌญฎฏฐฑฒณดตถทธนบปผฝพฟภมยรฤลฦวศษสหฬอฮฯะ\u0e31าำ\u0e34\u0e35\u0e36\u0e37\u0e38"
      ++ "\u0e39\u0e3a\uFFFD\uFFFD\uFFFD\uFFFD฿เแโใไๅๆ\u0e47\u0e48\u0e49\u0e4a\u0e4b\u0e4c\u0e4d"
      ++ "\u0e4e๏๐๑๒๓๔๕๖๗๘๙๚๛\uFFFD\uFFFD\uFFFD\uFFFD"⟩]

end CodePage

end Drift
