import Drift.Text.CharacterSet

/-!
# Additions to Big5

* `CharacterSet.cp950Added` — the characters of code page 950 that Big5 has not, or has otherwise.
-/

namespace Drift.CharacterSet

/-- The characters of **code page 950** that Big5 has not, or has otherwise. -/
def cp950Added : CharacterSet := [
  ⟨0xA145, "‧"⟩,
  ⟨0xA14E, "﹑"⟩,
  ⟨0xA1C2, "¯"⟩,
  ⟨0xA1E3, "～"⟩,
  ⟨0xA1F2, "⊕⊙"⟩,
  ⟨0xA241, "∕﹨ ￥ ￠￡"⟩,
  ⟨0xA3E1, "€"⟩,
  ⟨0xF9D6, "碁銹裏墻恒粧嫺╔╦╗╠╬╣╚╩╝╒╤╕╞╪╡╘╧╛╓╥╖╟╫╢╙╨╜║═╭╮╰╯▓"⟩]

end Drift.CharacterSet
