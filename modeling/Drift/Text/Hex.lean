/-!
# Hexadecimal digits

* `hex` — a number in small hexadecimal digits, filled up with zeros.
-/

namespace Drift

/-- The number in small hexadecimal digits, with zeros in front up to the width. -/
def hex (width n : Nat) : String := String.ofList ((Nat.toDigits 16 n).leftpad width '0')

end Drift
