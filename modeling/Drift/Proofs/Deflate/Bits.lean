import Drift.Deflate.Inflate
import Mathlib.Tactic.SplitIfs

/-!
# Bits that a stream begins with

* `BitStream.Begins` — a stream begins with some bits, and another one is what follows them.
* `BitStream.At` — a stream stands at a position, counted in bits from the start of a byte.
* `numeral` — the bits of a number, lowest first; `bits_eq_ok_iff` reads them.
* **`BitStream.begins_iff_exists_body`** — the bits that are taken from a stream, as whole bytes and
  what is left over of the last one.
* `BitStream.begins_pad_append_iff` — the bits up to the next byte, and whole bytes.
-/

namespace Drift.Deflate

namespace BitStream

/-! ## Bits and what follows them -/

/-- The stream `s` **begins with** some bits, and `r` is what follows them. -/
inductive Begins : (s : BitStream) → List Bool → (r : BitStream) → Prop where
  | nil (s : BitStream) : Begins s [] s
  | cons {s t r : BitStream} {b : Bool} {bits : List Bool} (h : s.next? = some (b, t))
      (hs : Begins t bits r) : Begins s (b :: bits) r

variable {s t r : BitStream} {bits : List Bool}

theorem begins_nil_iff : Begins s [] r ↔ r = s := by
  constructor
  · rintro ⟨⟩
    rfl
  · rintro rfl
    exact .nil r

theorem begins_cons_iff {b : Bool} :
    Begins s (b :: bits) r ↔ ∃ t, s.next? = some (b, t) ∧ Begins t bits r := by
  constructor
  · rintro (_ | ⟨h, hs⟩)
    exact ⟨_, h, hs⟩
  · rintro ⟨t, h, hs⟩
    exact .cons h hs

theorem begins_append_iff {a b : List Bool} :
    Begins s (a ++ b) r ↔ ∃ t, Begins s a t ∧ Begins t b r := by
  induction a generalizing s with
  | nil =>
    simp only [List.nil_append, begins_nil_iff, exists_eq_left]
  | cons x a ih =>
    simp only [List.cons_append, begins_cons_iff, ih]
    constructor
    · rintro ⟨t, ht, u, hu, hb⟩
      exact ⟨u, ⟨t, ht, hu⟩, hb⟩
    · rintro ⟨u, ⟨t, ht, hu⟩, hb⟩
      exact ⟨t, ht, u, hu, hb⟩

theorem Begins.append {a b : List Bool} (ha : Begins s a t) (hb : Begins t b r) :
    Begins s (a ++ b) r :=
  begins_append_iff.2 ⟨t, ha, hb⟩

theorem Begins.size_eq (h : Begins s bits r) : r.size + bits.length = s.size := by
  induction h with
  | nil => rfl
  | cons h _ ih =>
    have := size_next? h
    rw [List.length_cons]
    omega

/-! ## Positions -/

/-- The stream **stands at a position**, counted in bits from the start of a byte. -/
def At (s : BitStream) (position : Nat) : Prop :=
  s.pending.length < 8 ∧ (position + s.pending.length) % 8 = 0

theorem at_ofBytes (bytes : Bytes) {position : Nat} (h : position % 8 = 0) :
    (ofBytes bytes).At position :=
  ⟨Nat.succ_pos 7, h⟩

theorem size_ofBytes (bytes : Bytes) : (ofBytes bytes).size = 8 * bytes.length :=
  Nat.zero_add _

@[simp] theorem length_bitsOf (x : UInt8) : (bitsOf x).length = 8 := rfl

theorem length_flatMap_bitsOf (bytes : Bytes) :
    (bytes.flatMap bitsOf).length = 8 * bytes.length := by
  induction bytes with
  | nil => rfl
  | cons x bytes ih =>
    rw [List.flatMap_cons, List.length_append, length_bitsOf, ih, List.length_cons]
    omega

theorem bitsOf_eq_cons (x : UInt8) : bitsOf x = x.toNat.testBit 0 :: (bitsOf x).drop 1 := rfl

theorem next?_cons {b : Bool} {pending : List Bool} {bytes : Bytes} :
    next? ⟨b :: pending, bytes⟩ = some (b, ⟨pending, bytes⟩) := rfl

theorem next?_nil {x : UInt8} {bytes : Bytes} : next? ⟨[], x :: bytes⟩ = next? ⟨bitsOf x, bytes⟩ :=
  rfl

theorem next?_eq_some_iff {b : Bool} :
    s.next? = some (b, t) ↔ s = ⟨b :: t.pending, t.bytes⟩ ∨
      ∃ x, s = ⟨[], x :: t.bytes⟩ ∧ bitsOf x = b :: t.pending := by
  obtain ⟨pending, bytes⟩ := s
  obtain ⟨pending', bytes'⟩ := t
  cases pending with
  | cons c pending =>
    rw [next?_cons]
    simp [and_assoc]
  | nil =>
    cases bytes with
    | nil => simp [next?]
    | cons x bytes =>
      rw [next?_nil, bitsOf_eq_cons, next?_cons]
      simp only [Option.some.injEq, Prod.mk.injEq, mk.injEq, List.cons.injEq, reduceCtorEq,
        false_and, true_and, false_or]
      constructor
      · rintro ⟨rfl, rfl, rfl⟩
        exact ⟨x, ⟨rfl, rfl⟩, rfl⟩
      · rintro ⟨y, ⟨rfl, rfl⟩, h⟩
        rw [bitsOf_eq_cons, List.cons.injEq] at h
        exact ⟨h.1, h.2, rfl⟩

theorem Begins.at {position : Nat} (h : Begins s bits r) (hs : s.At position) :
    r.At (position + bits.length) := by
  induction h generalizing position with
  | nil => exact hs
  | cons h _ ih =>
    rw [List.length_cons, Nat.add_comm _ 1, ← Nat.add_assoc]
    refine ih ?_
    obtain ⟨hlt, hmod⟩ := hs
    rcases next?_eq_some_iff.1 h with rfl | ⟨x, rfl, hx⟩
    · simp only [List.length_cons] at hlt hmod
      exact ⟨by omega, by omega⟩
    · have hlen := congrArg List.length hx
      rw [length_bitsOf, List.length_cons] at hlen
      simp only [List.length_nil] at hmod
      exact ⟨by omega, by omega⟩

/-! ## Whole bytes -/

theorem Begins.exists_body (h : Begins s bits r) (hs : s.pending.length < 8) :
    ∃ body, s.bytes = body ++ r.bytes ∧
      s.pending ++ body.flatMap bitsOf = bits ++ r.pending ∧ r.pending.length < 8 := by
  induction h with
  | nil s => exact ⟨[], rfl, by simp, hs⟩
  | @cons s t r b bits h _ ih =>
    rcases next?_eq_some_iff.1 h with rfl | ⟨x, rfl, hx⟩
    · obtain ⟨body, hbytes, hbits, hr⟩ := ih (Nat.lt_of_succ_lt hs)
      exact ⟨body, hbytes, congrArg (List.cons b) hbits, hr⟩
    · have hlen := congrArg List.length hx
      rw [length_bitsOf, List.length_cons] at hlen
      obtain ⟨body, hbytes, hbits, hr⟩ := ih (by omega)
      refine ⟨x :: body, congrArg (List.cons x) hbytes, ?_, hr⟩
      rw [List.nil_append, List.flatMap_cons, hx]
      exact congrArg (List.cons b) hbits

theorem begins_of_body {body : Bytes} (hbytes : s.bytes = body ++ r.bytes)
    (hbits : s.pending ++ body.flatMap bitsOf = bits ++ r.pending) (hr : r.pending.length < 8)
    (hs : s.pending.length < 8) : Begins s bits r := by
  induction bits generalizing s body with
  | nil =>
    -- No byte is taken, since fewer bits are left over than a byte has.
    have hlen := congrArg List.length hbits
    cases body with
    | nil =>
      rw [List.flatMap_nil, List.append_nil] at hbits
      obtain ⟨pending, bytes⟩ := s
      cases hbits
      cases hbytes
      exact .nil _
    | cons x body =>
      simp only [List.length_append, List.flatMap_cons, length_bitsOf, List.length_nil] at hlen
      omega
  | cons b bits ih =>
    obtain ⟨pending, bytes⟩ := s
    cases hbytes
    cases pending with
    | cons c pending =>
      cases (List.cons.inj hbits).1
      exact .cons next?_cons (ih rfl (List.cons.inj hbits).2 (Nat.lt_of_succ_lt hs))
    | nil =>
      cases body with
      | nil => cases hbits
      | cons x body =>
        rw [List.nil_append, List.flatMap_cons, bitsOf_eq_cons] at hbits
        cases (List.cons.inj hbits).1
        have hnext : next? ⟨[], x :: (body ++ r.bytes)⟩
            = some (x.toNat.testBit 0, ⟨(bitsOf x).drop 1, body ++ r.bytes⟩) := rfl
        exact .cons hnext (ih rfl (List.cons.inj hbits).2 (Nat.lt_succ_self 7))

/-- The bits that a stream begins with are those **of whole bytes**, without what is left over of
the last one. -/
theorem begins_iff_exists_body (hs : s.pending.length < 8) :
    Begins s bits r ↔ ∃ body, s.bytes = body ++ r.bytes ∧
      s.pending ++ body.flatMap bitsOf = bits ++ r.pending ∧ r.pending.length < 8 :=
  ⟨fun h => h.exists_body hs, fun ⟨_, hbytes, hbits, hr⟩ => begins_of_body hbytes hbits hr hs⟩

theorem begins_ofBytes_iff {data : Bytes} :
    Begins (ofBytes data) bits r ↔ ∃ body, data = body ++ r.bytes ∧
      body.flatMap bitsOf = bits ++ r.pending ∧ r.pending.length < 8 :=
  begins_iff_exists_body (Nat.succ_pos 7)

theorem Begins.eq_of_length {a b : List Bool} (ha : Begins s a t) (hb : Begins s b r)
    (h : a.length = b.length) : a = b ∧ t = r := by
  induction ha generalizing b with
  | nil s =>
    obtain rfl := List.eq_nil_of_length_eq_zero h.symm
    exact ⟨rfl, (begins_nil_iff.1 hb).symm⟩
  | cons hs _ ih =>
    obtain ⟨c, b, rfl⟩ := List.exists_cons_of_length_eq_add_one h.symm
    obtain ⟨u, hu, hb⟩ := begins_cons_iff.1 hb
    cases hs.symm.trans hu
    obtain ⟨rfl, rfl⟩ := ih hb (Nat.succ.inj h)
    exact ⟨rfl, rfl⟩

theorem bitsOf_injective {x y : UInt8} (h : bitsOf x = bitsOf y) : x = y := by
  have hbit (i : Nat) : x.toNat.testBit i = y.toNat.testBit i := by
    rcases Nat.lt_or_ge i 8 with hi | hi
    · have := congrArg (·[i]?) h
      match i, hi with
      | 0, _ | 1, _ | 2, _ | 3, _ | 4, _ | 5, _ | 6, _ | 7, _ => exact Option.some.inj this
    · have hlt (z : UInt8) : z.toNat < 2 ^ i :=
        Nat.lt_of_lt_of_le z.toNat_lt (Nat.pow_le_pow_right Nat.two_pos hi)
      rw [Nat.testBit_lt_two_pow (hlt x), Nat.testBit_lt_two_pow (hlt y)]
  exact UInt8.toNat_inj.1 (Nat.eq_of_testBit_eq hbit)

theorem begins_pending (s : BitStream) : Begins s s.pending s.align := by
  obtain ⟨pending, bytes⟩ := s
  induction pending with
  | nil => exact .nil _
  | cons b pending ih => exact .cons next?_cons ih

theorem begins_bitsOf (x : UInt8) (bytes : Bytes) :
    Begins ⟨[], x :: bytes⟩ (bitsOf x) ⟨[], bytes⟩ := by
  have hnext : next? ⟨[], x :: bytes⟩ = some (x.toNat.testBit 0, ⟨(bitsOf x).drop 1, bytes⟩) := rfl
  rw [bitsOf_eq_cons]
  exact .cons hnext (begins_pending _)

theorem begins_flatMap_iff {data bytes : Bytes} :
    Begins ⟨[], bytes⟩ (data.flatMap bitsOf) r ↔ bytes = data ++ r.bytes ∧ r.pending = [] := by
  induction data generalizing bytes with
  | nil =>
    obtain ⟨pending, rest⟩ := r
    rw [List.flatMap_nil, begins_nil_iff, mk.injEq, and_comm, List.nil_append]
    exact and_congr_left fun _ => eq_comm
  | cons x data ih =>
    rw [List.flatMap_cons, begins_append_iff]
    constructor
    · rintro ⟨t, ht, hr⟩
      cases bytes with
      | nil =>
        obtain ⟨_, hnext, -⟩ := begins_cons_iff.1 ht
        cases hnext
      | cons y bytes =>
        obtain ⟨hbits, rfl⟩ := ht.eq_of_length (begins_bitsOf y bytes) rfl
        obtain ⟨rfl, hpending⟩ := ih.1 hr
        rw [bitsOf_injective hbits]
        exact ⟨rfl, hpending⟩
    · rintro ⟨rfl, hr⟩
      exact ⟨_, begins_bitsOf x _, ih.2 ⟨rfl, hr⟩⟩

/-- A stream that stands at a position begins with bits up to the next byte and with whole bytes
**exactly when these are what it holds**. -/
theorem begins_pad_append_iff {position : Nat} {pad : List Bool} {data : Bytes}
    (hs : s.At position) (hpad : pad.length < 8) (hbyte : (position + pad.length) % 8 = 0) :
    Begins s (pad ++ data.flatMap bitsOf) r ↔
      pad = s.pending ∧ s.bytes = data ++ r.bytes ∧ r.pending = [] := by
  obtain ⟨hpending, hmod⟩ := hs
  rw [begins_append_iff]
  constructor
  · rintro ⟨t, ht, hr⟩
    obtain ⟨rfl, rfl⟩ := ht.eq_of_length (begins_pending s) (by omega)
    exact ⟨rfl, begins_flatMap_iff.1 hr⟩
  · rintro ⟨rfl, hr⟩
    exact ⟨s.align, begins_pending s, begins_flatMap_iff.2 hr⟩

end BitStream

/-! ## Numbers -/

/-- The `n` lowest bits of a number, **lowest first**. -/
def numeral : (n v : Nat) → List Bool
  | 0, _ => []
  | n + 1, v => (v % 2 == 1) :: numeral n (v / 2)

@[simp] theorem length_numeral (n v : Nat) : (numeral n v).length = n := by
  induction n generalizing v with
  | zero => rfl
  | succ n ih => rw [numeral, List.length_cons, ih]

theorem numeral_succ (n : Nat) (b : Bool) (v : Nat) :
    numeral (n + 1) (b.toNat + 2 * v) = b :: numeral n v := by
  have hbit : ((b.toNat + 2 * v) % 2 == 1) = b := by cases b <;> simp
  have hrest : (b.toNat + 2 * v) / 2 = v := by
    have := b.toNat_lt
    omega
  rw [numeral, hbit, hrest]

theorem numeral_add (m n v w : Nat) (h : v < 1 <<< m) :
    numeral (m + n) (v + w * (1 <<< m)) = numeral m v ++ numeral n w := by
  induction m generalizing v with
  | zero =>
    obtain rfl : v = 0 := Nat.lt_one_iff.1 h
    simp [numeral]
  | succ m ih =>
    rw [Nat.shiftLeft_succ] at h ⊢
    have hmod : (v + w * (2 * 1 <<< m)) % 2 = v % 2 := by
      rw [Nat.mul_left_comm, Nat.add_mul_mod_self_left]
    have hdiv : (v + w * (2 * 1 <<< m)) / 2 = v / 2 + w * 1 <<< m := by
      rw [Nat.mul_left_comm, Nat.add_mul_div_left _ _ Nat.two_pos]
    rw [Nat.add_right_comm, numeral, numeral, hmod, hdiv, ih _ (by omega)]
    rfl

open BitStream

theorem take?_eq_some_iff {n v : Nat} {s r : BitStream} :
    take? n s = some (v, r) ↔ v < 1 <<< n ∧ Begins s (numeral n v) r := by
  induction n generalizing s v with
  | zero =>
    simp only [take?, numeral, begins_nil_iff, Option.some.injEq, Prod.mk.injEq]
    constructor
    · rintro ⟨rfl, rfl⟩
      exact ⟨Nat.one_pos, rfl⟩
    · rintro ⟨hv, rfl⟩
      exact ⟨(Nat.lt_one_iff.1 hv).symm, rfl⟩
  | succ n ih =>
    constructor
    · intro h
      simp only [take?] at h
      split at h
      · cases h
      · next b t hb =>
        split at h
        · cases h
        · next w u ht =>
          cases h
          obtain ⟨hw, hbegins⟩ := ih.1 ht
          have := b.toNat_lt
          rw [numeral_succ, Nat.shiftLeft_succ]
          exact ⟨by omega, .cons hb hbegins⟩
    · rintro ⟨hv, h⟩
      rw [Nat.shiftLeft_succ] at hv
      obtain ⟨t, hb, ht⟩ := begins_cons_iff.1 h
      have htake := ih.2 ⟨(by omega : v / 2 < 1 <<< n), ht⟩
      have hjoin : (v % 2 == 1).toNat + 2 * (v / 2) = v := by
        rcases Nat.mod_two_eq_zero_or_one v with h | h <;> simp only [h] <;> simp <;> omega
      simp only [take?, hb, htake, hjoin]

/-- A number is read **exactly when its bits come next**. -/
theorem bits_eq_ok_iff {n v : Nat} {s r : BitStream} :
    bits n s = .ok (v, r) ↔ v < 1 <<< n ∧ Begins s (numeral n v) r := by
  rw [← take?_eq_some_iff, bits]
  split
  · next h => rw [h, Except.ok.injEq, Option.some.injEq]
  · next h => rw [h]; exact ⟨nofun, nofun⟩

end Drift.Deflate
