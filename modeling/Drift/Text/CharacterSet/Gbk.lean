import Drift.Text.CharacterSet

/-!
# Additions to GB 2312

* `CharacterSet.gbkSigns` — the signs that GBK adds to GB 2312, and the two that it changes.
* `CharacterSet.gbkCompatible` — the compatibility ideographs behind all others.
* `CharacterSet.gb18030Added` — the characters that later took places of private use.
-/

namespace Drift.CharacterSet

/-- The signs that **GBK** adds to GB 2312, and the two that it changes. -/
def gbkSigns : CharacterSet := [
  ⟨0xA1A4, "·"⟩,
  ⟨0xA1AA, "—"⟩,
  ⟨0xA2A1, "ⅰⅱⅲⅳⅴⅵⅶⅷⅸⅹ"⟩,
  ⟨0xA6E0, "︵︶︹︺︿﹀︽︾﹁﹂﹃﹄  ︻︼︷︸︱ ︳︴"⟩,
  ⟨0xA840, "ˊˋ˙–―‥‵℅℉↖↗↘↙∕∟∣≒≦≧⊿═║╒╓╔╕╖╗╘╙╚╛╜╝╞╟╠╡╢╣╤╥╦╧╨╩╪╫╬╭╮╯╰╱╲╳▁▂▃▄▅▆▇"⟩,
  ⟨0xA880, "█▉▊▋▌▍▎▏▓▔▕▼▽◢◣◤◥☉⊕〒〝〞"⟩,
  ⟨0xA8BB, "ɑ ńň ɡ"⟩,
  ⟨0xA940, "〡〢〣〤〥〦〧〨〩㊣㎎㎏㎜㎝㎞㎡㏄㏎㏑㏒㏕︰￢￤ ℡㈱ ‐   ー゛゜ヽヾ〆ゝゞ﹉﹊﹋﹌﹍﹎﹏﹐﹑﹒﹔﹕﹖﹗﹙﹚﹛﹜﹝﹞﹟﹠﹡"⟩,
  ⟨0xA980, "﹢﹣﹤﹥﹦﹨﹩﹪﹫"⟩,
  ⟨0xA996, "〇"⟩]

/-- The compatibility ideographs of GBK, in the order of their codes. -/
def gbkCompatible : String := "郎凉秊裏隣兀嗀﨎﨏﨑﨓﨔礼﨟蘒﨡﨣﨤﨧﨨﨩"

/-- The characters that **GB 18030** puts at codes of two bytes that GBK leaves free. -/
def gb18030Added : CharacterSet := [
  ⟨0xA2E3, "€"⟩,
  ⟨0xA8BF, "ǹ"⟩,
  ⟨0xA989, "〾⿰⿱⿲⿳⿴⿵⿶⿷⿸⿹⿺⿻"⟩,
  ⟨0xFE50, "⺁   ⺄㑳㑇⺈⺋ 㖞㘚㘎⺌⺗㥮㤘 㧏㧟㩳㧐  㭎㱮㳠⺧  ⺪䁖䅟⺮䌷⺳⺶⺷ 䎱䎬⺻䏝䓖䙡䙌"⟩,
  ⟨0xFE80, "䜣䜩䝼䞍⻊䥇䥺䥽䦂䦃䦅䦆䦟䦛䦷䦶  䲣䲟䲠䲡䱷䲢䴓䴔䴕䴖䴗䴘䴙䶮"⟩]

end Drift.CharacterSet
