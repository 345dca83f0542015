import Drift.Bytes

/-!
# Bit streams

Bits are taken from each byte beginning with the lowest.

* `BitStream` — the bits left of a byte in progress, and the bytes behind it.
* `BitStream.next?`, `BitStream.take?` — the next bit, and the next bits as a number.
* `BitStream.align` — drops the bits left of the byte in progress.
* `BitStream.size` — how many bits are left; taking one leaves one less (`size_next?`).
-/

namespace Drift.Deflate

/-- A **stream of bits**: what is left of the byte in progress, and the bytes behind it. -/
structure BitStream where
  pending : List Bool
  bytes : Bytes

namespace BitStream

/-- The bits of a byte, lowest first. -/
def bitsOf (b : UInt8) : List Bool :=
  let n := b.toNat
  [n.testBit 0, n.testBit 1, n.testBit 2, n.testBit 3, n.testBit 4, n.testBit 5, n.testBit 6,
   n.testBit 7]

/-- All bits of some bytes. -/
def ofBytes (bytes : Bytes) : BitStream := ⟨[], bytes⟩

/-- The number of bits left. -/
def size (s : BitStream) : Nat := s.pending.length + 8 * s.bytes.length

/-- The bits left, as a list. -/
def toList (s : BitStream) : List Bool := s.pending ++ s.bytes.flatMap bitsOf

/-- The next bit and the rest. -/
def next? (s : BitStream) : Option (Bool × BitStream) :=
  match s.pending with
  | b :: rest => some (b, ⟨rest, s.bytes⟩)
  | [] =>
    match s.bytes with
    | [] => none
    | x :: bytes => some (x.toNat.testBit 0, ⟨(bitsOf x).drop 1, bytes⟩)

/-- The next `n` bits as a number, lowest first. -/
def take? : (n : Nat) → BitStream → Option (Nat × BitStream)
  | 0, s => some (0, s)
  | n + 1, s =>
    match s.next? with
    | none => none
    | some (b, s) =>
      match take? n s with
      | none => none
      | some (v, s) => some (b.toNat + 2 * v, s)

/-- Drops the bits left of the byte in progress. -/
def align (s : BitStream) : BitStream := ⟨[], s.bytes⟩

/-! ## Sizes -/

theorem size_next? {s t : BitStream} {b : Bool} (h : s.next? = some (b, t)) :
    t.size + 1 = s.size := by
  obtain ⟨pending, bytes⟩ := s
  unfold next? at h
  split at h
  · next heq =>
    simp only [Option.some.injEq, Prod.mk.injEq] at h
    simp only at heq
    rw [← h.2, heq]
    simp only [size, List.length_cons]
    omega
  · next heq =>
    split at h
    · cases h
    · next heq' =>
      simp only [Option.some.injEq, Prod.mk.injEq] at h
      simp only at heq heq'
      rw [← h.2, heq, heq']
      simp only [size, bitsOf, List.drop, List.length_cons, List.length_nil]
      omega

theorem size_take? {n v : Nat} {s t : BitStream} (h : take? n s = some (v, t)) :
    t.size + n = s.size := by
  induction n generalizing s v with
  | zero =>
    simp only [take?, Option.some.injEq, Prod.mk.injEq] at h
    rw [h.2, Nat.add_zero]
  | succ n ih =>
    simp only [take?] at h
    split at h
    · cases h
    · next hb =>
      split at h
      · cases h
      · next ht =>
        simp only [Option.some.injEq, Prod.mk.injEq] at h
        obtain ⟨_, rfl⟩ := h
        have := size_next? hb
        have := ih ht
        omega

end BitStream

end Drift.Deflate
