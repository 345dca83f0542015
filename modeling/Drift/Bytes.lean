/-!
# Bytes

* `Bytes` — the content of files and messages.
* `Bytes.bigEndian`, `Bytes.number` — a number written in a fixed count of bytes, most significant
  first, and read back (`number_bigEndian`) when it is below `Bytes.bound` of that count.
* `Bytes.take?` — the first `n` bytes, when there are that many (`take?_eq_some_iff`).
* `Bytes.slice` — the bytes between two offsets, cut at the ends of the data.
-/

namespace Drift

/-- The content of a file or a message. -/
abbrev Bytes := List UInt8

namespace Bytes

/-! ## Numbers -/

/-- How many numbers fit into `width` bytes. -/
def bound (width : Nat) : Nat := 1 <<< (8 * width)

/-- The `width` low bytes of `n`, most significant first. -/
def bigEndian : (width : Nat) → (n : Nat) → Bytes
  | 0, _ => []
  | width + 1, n => UInt8.ofNat (n / bound width) :: bigEndian width n

/-- The number that the bytes spell, most significant first. -/
def number (bytes : Bytes) : Nat :=
  bytes.foldl (fun n b => n * 256 + b.toNat) 0

/-- The number that the bytes spell in two's complement. -/
def signed (bytes : Bytes) : Int :=
  let n := number bytes
  if 2 * n < bound bytes.length then n else (n : Int) - bound bytes.length

@[simp] theorem bound_zero : bound 0 = 1 := rfl

/-- One byte more fits 256 times as many numbers. -/
theorem bound_succ (width : Nat) : bound (width + 1) = bound width * 256 := by
  rw [bound, bound, Nat.mul_succ, Nat.shiftLeft_add, Nat.shiftLeft_eq]

theorem foldl_bigEndian (width n m : Nat) :
    (bigEndian width n).foldl (fun n b => n * 256 + b.toNat) m
      = m * bound width + n % bound width := by
  induction width generalizing m with
  | zero => simp [bigEndian, Nat.mod_one]
  | succ width ih =>
    rw [bigEndian, List.foldl_cons, ih, UInt8.toNat_ofNat', bound_succ, Nat.mod_mul, Nat.add_mul,
      Nat.mul_assoc, Nat.mul_comm 256, Nat.mul_comm (n / bound width % 256), Nat.add_assoc,
      Nat.add_comm (n % bound width)]

/-- A number that fits its width is read back. -/
theorem number_bigEndian {width n : Nat} (h : n < bound width) :
    number (bigEndian width n) = n := by
  rw [number, foldl_bigEndian, Nat.zero_mul, Nat.zero_add, Nat.mod_eq_of_lt h]

@[simp] theorem length_bigEndian (width n : Nat) : (bigEndian width n).length = width := by
  induction width with
  | zero => rfl
  | succ width ih => simp [bigEndian, ih]

/-! ## Parts -/

/-- The first `n` bytes in front of those already taken, and the rest. -/
def takeOnto (taken : Bytes) : Nat → Bytes → Option (Bytes × Bytes)
  | 0, rest => some (taken.reverse, rest)
  | n + 1, b :: rest => takeOnto (b :: taken) n rest
  | _ + 1, [] => none

/-- The first `n` bytes and the rest, or nothing when there are fewer. -/
def take? (n : Nat) (bytes : Bytes) : Option (Bytes × Bytes) := takeOnto [] n bytes

theorem takeOnto_eq_some_iff {taken bytes first rest : Bytes} {n : Nat} :
    takeOnto taken n bytes = some (first, rest) ↔
      ∃ part, first = taken.reverse ++ part ∧ bytes = part ++ rest ∧ part.length = n := by
  induction n generalizing taken bytes with
  | zero =>
    simp only [takeOnto, Option.some.injEq, Prod.mk.injEq, List.length_eq_zero_iff]
    constructor
    · rintro ⟨rfl, rfl⟩
      exact ⟨[], by simp⟩
    · rintro ⟨part, rfl, rfl, rfl⟩
      simp
  | succ n ih =>
    cases bytes with
    | nil =>
      simp only [takeOnto, reduceCtorEq, false_iff, not_exists, not_and]
      intro part _ h hlen
      rw [(List.nil_eq_append_iff.1 h).1] at hlen
      simp at hlen
    | cons b bytes =>
      rw [takeOnto, ih]
      constructor
      · rintro ⟨part, rfl, rfl, hlen⟩
        exact ⟨b :: part, by simp, by simp, by simp [hlen]⟩
      · rintro ⟨part, rfl, h, hlen⟩
        cases part with
        | nil => simp at hlen
        | cons c part =>
          simp only [List.cons_append, List.cons.injEq] at h
          obtain ⟨rfl, rfl⟩ := h
          exact ⟨part, by simp, rfl, by simpa using hlen⟩

/-- Taking succeeds exactly when the bytes begin with that many. -/
theorem take?_eq_some_iff {bytes first rest : Bytes} {n : Nat} :
    take? n bytes = some (first, rest) ↔ bytes = first ++ rest ∧ first.length = n := by
  rw [take?, takeOnto_eq_some_iff]
  constructor
  · rintro ⟨part, rfl, h⟩
    simpa using h
  · rintro h
    exact ⟨first, by simp, h⟩

/-- A place in `length` items, with negative places counted from the end and all cut to the data. -/
def clip (length : Nat) (place : Int) : Nat :=
  if place < 0 then ((length : Int) + place).toNat else min place.toNat length

/-- The bytes from `start` up to `stop`. -/
def slice (bytes : Bytes) (start stop : Int) : Bytes :=
  let first := clip bytes.length start
  (bytes.drop first).take (clip bytes.length stop - first)

end Bytes

end Drift
