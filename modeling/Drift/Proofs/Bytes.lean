import Drift.Bytes

/-!
# Bytes as numbers

* `Bytes.number_lt_bound`, `Bytes.bigEndian_number` — bytes spell a number that fits their count,
  and writing the number gives them back.
* `Bytes.eq_bigEndian_iff` — bytes of a given count are one number's.
* `Bytes.twos`, `Bytes.eq_twos_iff` — the same for whole numbers in two's complement.
* `Bytes.slice_append` — the part between two others is the slice between their ends.
-/

namespace Drift.Bytes

theorem toNat_ofNat_of_lt {n : Nat} (h : n < 256) : (UInt8.ofNat n).toNat = n :=
  UInt8.toNat_ofNat_of_lt' h

theorem bound_pos (width : Nat) : 0 < bound width := by
  rw [bound, Nat.shiftLeft_eq, Nat.one_mul]
  exact Nat.two_pow_pos _

theorem foldl_number (bytes : Bytes) (m : Nat) :
    bytes.foldl (fun n b => n * 256 + b.toNat) m = m * bound bytes.length + number bytes := by
  induction bytes generalizing m with
  | nil => simp [number]
  | cons b bytes ih =>
    rw [number, List.foldl_cons, List.foldl_cons, ih, ih (0 * 256 + b.toNat), List.length_cons,
      bound_succ, Nat.zero_mul, Nat.zero_add, Nat.add_mul, Nat.mul_assoc, Nat.mul_comm 256,
      Nat.add_assoc]

theorem number_cons (b : UInt8) (bytes : Bytes) :
    number (b :: bytes) = b.toNat * bound bytes.length + number bytes := by
  rw [number, List.foldl_cons, foldl_number, Nat.zero_mul, Nat.zero_add]

/-- Bytes spell a number that fits their count. -/
theorem number_lt_bound (bytes : Bytes) : number bytes < bound bytes.length := by
  induction bytes with
  | nil => exact Nat.one_pos
  | cons b bytes ih =>
    rw [number_cons, List.length_cons, bound_succ]
    have hb : (b.toNat + 1) * bound bytes.length ≤ 256 * bound bytes.length :=
      Nat.mul_le_mul_right _ b.toNat_lt
    rw [Nat.add_mul, Nat.one_mul] at hb
    omega

theorem bigEndian_add_mul (width n m : Nat) :
    bigEndian width (n + m * bound width) = bigEndian width n := by
  induction width generalizing n m with
  | zero => rfl
  | succ width ih =>
    have hm : m * bound (width + 1) = m * 256 * bound width := by
      rw [bound_succ, Nat.mul_comm (bound width), Nat.mul_assoc]
    rw [bigEndian, bigEndian, hm, ih, Nat.add_mul_div_right _ _ (bound_pos width)]
    congr 1
    apply UInt8.toNat_inj.1
    rw [UInt8.toNat_ofNat', UInt8.toNat_ofNat']
    omega

/-- Writing the number that bytes spell gives them back. -/
theorem bigEndian_number (bytes : Bytes) : bigEndian bytes.length (number bytes) = bytes := by
  induction bytes with
  | nil => rfl
  | cons b bytes ih =>
    rw [List.length_cons, bigEndian, number_cons, Nat.add_comm, bigEndian_add_mul, ih,
      Nat.add_mul_div_right _ _ (bound_pos _), Nat.div_eq_of_lt (number_lt_bound bytes),
      Nat.zero_add, UInt8.ofNat_toNat]

/-- Bytes of a given count are those of the number that they spell. -/
theorem eq_bigEndian_iff {part : Bytes} {width n : Nat} :
    part.length = width ∧ part.number = n ↔ n < bound width ∧ part = bigEndian width n := by
  constructor
  · rintro ⟨rfl, rfl⟩
    exact ⟨number_lt_bound part, (bigEndian_number part).symm⟩
  · rintro ⟨hn, rfl⟩
    exact ⟨length_bigEndian width n, number_bigEndian hn⟩

/-! ## Two's complement -/

/-- The bytes of a whole number in **two's complement**. -/
def twos (width : Nat) (z : Int) : Bytes := bigEndian width (z % bound width).toNat

theorem signed_eq (part : Bytes) : part.signed =
    if 2 * part.number < bound part.length then (part.number : Int)
    else part.number - bound part.length := rfl

/-- Bytes of a given count are those of the whole number that they spell in two's complement. -/
theorem eq_twos_iff {part : Bytes} {width : Nat} {z : Int} :
    part.length = width ∧ part.signed = z ↔
      (-(bound width : Int) ≤ 2 * z ∧ 2 * z < bound width) ∧ part = twos width z := by
  have hpos := bound_pos width
  constructor
  · rintro ⟨rfl, rfl⟩
    have hlt := number_lt_bound part
    have hmod : (part.signed % (bound part.length : Int)).toNat = part.number := by
      rw [signed_eq]
      split
      · rw [Int.emod_eq_of_lt (by omega) (by omega), Int.toNat_natCast]
      · rw [← Int.add_emod_right, Int.sub_add_cancel, Int.emod_eq_of_lt (by omega) (by omega),
          Int.toNat_natCast]
    refine ⟨?_, by rw [twos, hmod, bigEndian_number]⟩
    rw [signed_eq]
    split <;> constructor <;> omega
  · rintro ⟨⟨hlow, hhigh⟩, rfl⟩
    have hnn := Int.emod_nonneg z (by omega : (bound width : Int) ≠ 0)
    have hlt := Int.emod_lt_of_pos z (by omega : (0 : Int) < bound width)
    refine ⟨length_bigEndian _ _, ?_⟩
    rw [signed_eq, twos, length_bigEndian, number_bigEndian (by omega)]
    by_cases hz : 0 ≤ z
    · rw [Int.emod_eq_of_lt hz (by omega), if_pos (by omega)]
      omega
    · rw [← Int.add_emod_right, Int.emod_eq_of_lt (by omega) (by omega), if_neg (by omega)]
      omega

/-! ## Slices -/

theorem clip_natCast (length n : Nat) : clip length (n : Int) = min n length := by
  rw [clip, if_neg (by omega), Int.toNat_natCast]

theorem slice_of_le {bytes : Bytes} {start stop : Nat} (h : stop ≤ start) :
    bytes.slice start stop = [] := by
  rw [slice, clip_natCast, clip_natCast, Nat.sub_eq_zero_of_le (by omega), List.take_zero]

/-- What stands between the ends of two parts **is what the second one adds**. -/
theorem slice_append (front part back : Bytes) :
    (front ++ part ++ back).slice front.length (front ++ part).length = part := by
  have hfront : min front.length (front ++ part ++ back).length = front.length :=
    Nat.min_eq_left (by simp only [List.length_append]; omega)
  have hpart : min (front ++ part).length (front ++ part ++ back).length = (front ++ part).length :=
    Nat.min_eq_left (by simp only [List.length_append]; omega)
  rw [slice, clip_natCast, clip_natCast, hfront, hpart, List.append_assoc, List.drop_left,
    List.length_append, Nat.add_sub_cancel_left, List.take_left]

end Drift.Bytes
