import Drift.Bytes

/-!
# The Adler-32 checksum

* `adler32` — two sums modulo 65521: of the bytes, beginning with one, and of those sums.
-/

namespace Drift

/-- The modulus of both sums. -/
def adlerModulus : Nat := 65521

/-- Both sums behind one more byte. -/
def adlerStep (sums : Nat × Nat) (b : UInt8) : Nat × Nat :=
  let low := (sums.1 + b.toNat) % adlerModulus
  (low, (sums.2 + low) % adlerModulus)

/-- The **checksum** of some bytes. -/
def adler32 (bytes : Bytes) : Nat :=
  let sums := bytes.foldl adlerStep (1, 0)
  sums.2 * 65536 + sums.1

end Drift
