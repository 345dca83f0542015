import Drift.Proofs.Deflate.Stored
import Drift.Proofs.Snapshot.Recompression
import Mathlib.Algebra.GroupWithZero.Nat

/-!
# The checksum finds out every changed byte

* `foldl_adlerStep_fst`, `adler32_mod` — the low half of a checksum is a sum of bytes.
* **`adler32_ne_of_byte`** — payloads that differ in one byte have different checksums.
* `decompress_eq_checksum` — a stream is refused whose last four bytes are not the checksum.
* **`load_of_changed`** — a stream of stored blocks in which a byte of the payload, or the checksum,
  is replaced by anything else is refused.
-/

namespace Drift

/-! ## Checksums -/

theorem foldl_adlerStep_fst (bytes : Bytes) {sums : Nat × Nat} (h : sums.1 < adlerModulus) :
    (bytes.foldl adlerStep sums).1 = (sums.1 + (bytes.map UInt8.toNat).sum) % adlerModulus := by
  induction bytes generalizing sums with
  | nil => exact (Nat.mod_eq_of_lt h).symm
  | cons b bytes ih =>
    rw [List.foldl_cons, ih (Zlib.adlerStep_lt sums b).1, List.map_cons, List.sum_cons, adlerStep,
      Nat.mod_add_mod, Nat.add_assoc]

/-- The low half of a checksum is one more than **the sum of the bytes**, up to the modulus. -/
theorem adler32_mod (bytes : Bytes) :
    adler32 bytes % 65536 = (1 + (bytes.map UInt8.toNat).sum) % adlerModulus := by
  have hone : ((1, 0) : Nat × Nat).1 < adlerModulus := by decide
  have hfst := foldl_adlerStep_fst bytes hone
  have hlt : (bytes.foldl adlerStep (1, 0)).1 < 65536 := by
    rw [hfst]
    exact Nat.lt_trans (Nat.mod_lt _ (by decide)) (by decide)
  rw [adler32, Nat.mul_add_mod_self_right, Nat.mod_eq_of_lt hlt, hfst]

/-- Payloads that differ **in one byte** have different checksums, wherever the byte stands: no two
bytes are equal up to the modulus. -/
theorem adler32_ne_of_byte {b c : UInt8} (h : b ≠ c) (before after : Bytes) :
    adler32 (before ++ b :: after) ≠ adler32 (before ++ c :: after) := by
  intro heq
  have hmod := congrArg (· % 65536) heq
  simp only [adler32_mod, List.map_append, List.map_cons, List.sum_append, List.sum_cons,
    adlerModulus] at hmod
  have hb := b.toNat_lt
  have hc := c.toNat_lt
  exact h (UInt8.toNat_inj.1 (by omega))

theorem adler32_set_ne {payload : Bytes} {k : Nat} {b : UInt8} (hk : k < payload.length)
    (hb : payload[k]? ≠ some b) : adler32 (payload.set k b) ≠ adler32 payload := by
  rw [List.getElem?_eq_getElem hk] at hb
  have hset : payload.set k b = payload.take k ++ b :: payload.drop (k + 1) := by
    rw [List.set_eq_take_append_cons_drop, if_pos hk]
  have hne := adler32_ne_of_byte (fun heq => hb (congrArg some heq.symm)) (payload.take k)
    (payload.drop (k + 1))
  rwa [List.getElem_cons_drop, List.take_append_drop, ← hset] at hne

/-! ## Streams -/

namespace Zlib

/-- Compressed data with four bytes behind it that are **not the checksum** of its payload is
refused for it. -/
theorem decompress_eq_checksum {method flags : UInt8} {body payload trailer : Bytes}
    (hhead : Head method flags) (hbody : Deflate.Deflated body payload)
    (hlength : trailer.length = 4) (hne : trailer ≠ Bytes.bigEndian 4 (adler32 payload)) :
    decompress (method :: flags :: (body ++ trailer)) = .error .checksum := by
  have htail : afterHead (method :: flags :: (body ++ trailer)) = .ok (body ++ trailer) :=
    afterHead_eq_ok_iff.2 ⟨method, flags, rfl, hhead⟩
  have hout : Deflate.inflate (body ++ trailer) = .ok (payload.toArray, trailer) :=
    Deflate.inflate_eq_ok_iff.2 ⟨body, rfl, hbody⟩
  have hsum : trailer.number ≠ adler32 payload :=
    fun hsum => hne (Bytes.eq_bigEndian_iff.1 ⟨hlength, hsum⟩).2
  have htake : trailer.take? 4 = some (trailer, []) :=
    Bytes.take?_eq_some_iff.2 ⟨(List.append_nil trailer).symm, hlength⟩
  simp only [decompress, htail, hout, checked, htake]
  exact if_neg hsum

theorem bigEndian_adler32_ne {bytes bytes' : Bytes} (h : adler32 bytes ≠ adler32 bytes') :
    Bytes.bigEndian 4 (adler32 bytes) ≠ Bytes.bigEndian 4 (adler32 bytes') := by
  intro heq
  have hnumber := congrArg Bytes.number heq
  rw [Bytes.number_bigEndian (adler32_lt bytes), Bytes.number_bigEndian (adler32_lt bytes')]
    at hnumber
  exact h hnumber

end Zlib

/-! ## Changed streams -/

namespace Snapshot

open Deflate (StoredBlocks Written place written_stored_iff)
open Zlib (Head)

/-- A stream of stored blocks expands to the bytes in them, and the checksum behind them **finds out
every change** of one of these bytes, wherever it stands, and every change of the checksum. -/
theorem load_of_changed {method flags : UInt8} {blocks : List Bytes}
    {body payload stream : Bytes} (hhead : Head method flags)
    (hbody : Written (blocks.map .stored) body) (hpayload : payload = blocks.flatten)
    (hstream : stream = method :: flags :: (body ++ Bytes.bigEndian 4 (adler32 payload))) :
    Zlib.decompress stream = .ok payload ∧
      (∀ k < payload.length, stream[2 + place blocks k]? = payload[k]? ∧
        ∀ b, payload[k]? ≠ some b →
          load (stream.set (2 + place blocks k) b) = .error Zlib.Fault.checksum.issue) ∧
      ∀ trailer : Bytes, trailer.length = 4 → trailer ≠ Bytes.bigEndian 4 (adler32 payload) →
        load (method :: flags :: (body ++ trailer)) = .error Zlib.Fault.checksum.issue := by
  obtain ⟨hne, hs⟩ := written_stored_iff.1 hbody
  have hdeflated := hs.deflated hne
  subst hpayload hstream
  refine ⟨?_, fun k hk => ?_, fun trailer hlength htrailer =>
    load_eq_error (Zlib.decompress_eq_checksum hhead hdeflated hlength htrailer)⟩
  · exact Zlib.decompress_eq_ok_iff.2 ⟨_, [], (List.append_nil _).symm, .mk hhead hdeflated⟩
  · have hplace := hs.getElem?_place hk
    have hlt : place blocks k < body.length :=
      (List.getElem?_eq_some_iff.1 (hplace.trans (List.getElem?_eq_getElem hk))).1
    rw [Nat.add_comm]
    refine ⟨(List.getElem?_append_left hlt).trans hplace, fun b hb => ?_⟩
    obtain ⟨blocks', hs', hempty, hflatten⟩ := hs.set_place hk b
    have hne' : blocks' ≠ [] := by
      rwa [← List.isEmpty_eq_false_iff, hempty, List.isEmpty_eq_false_iff]
    have hdeflated' := hs'.deflated hne'
    rw [hflatten] at hdeflated'
    change load (method :: flags :: (body ++ _).set (place blocks k) b) = _
    rw [List.set_append_left _ _ hlt]
    exact load_eq_error (Zlib.decompress_eq_checksum hhead hdeflated'
      (Bytes.length_bigEndian 4 _) (Zlib.bigEndian_adler32_ne (adler32_set_ne hk hb).symm))

/-- The log of no regions in two stored blocks, the first of them up to its version. -/
def splitLog : List Bytes := [emptyLog.take 13, emptyLog.drop 13]

/-- The bytes of `splitLog`. The first byte is filled with ones, which mean nothing. -/
def splitBody : Bytes :=
  [0xF8, 13, 0, 242, 255, 0x93, 0xAB, 99, 111, 110, 116, 114, 111, 108, 45, 108, 111, 103,
   1, 2, 0, 253, 255, 1, 0x90]

/-- A snapshot of no regions. -/
def splitSnapshot : Bytes :=
  0x78 :: 0x9C :: (splitBody ++ Bytes.bigEndian 4 (adler32 emptyLog))

theorem written_splitLog : Written (splitLog.map .stored) splitBody :=
  written_stored_iff.2 ⟨List.cons_ne_nil _ _,
    .cons ⟨List.replicate 5 true, by decide⟩ (by decide)
      (.cons ⟨List.replicate 5 false, by decide⟩ (by decide) .nil)⟩

/-- A snapshot of no regions is read, and refused with another version in it or without its
checksum. -/
theorem load_of_changed_splitSnapshot :
    load splitSnapshot = .ok [] ∧
      load (splitSnapshot.set 25 2) = .error Zlib.Fault.checksum.issue ∧
      load (0x78 :: 0x9C :: (splitBody ++ [0, 0, 0, 0])) = .error Zlib.Fault.checksum.issue := by
  have hhead : Head 0x78 0x9C := ⟨by decide, by decide, by decide, by decide⟩
  have hpayload : emptyLog = splitLog.flatten := rfl
  have hstream : splitSnapshot
      = 0x78 :: 0x9C :: (splitBody ++ Bytes.bigEndian 4 (adler32 emptyLog)) := rfl
  obtain ⟨hlog, hbyte, htrailer⟩ := load_of_changed hhead written_splitLog hpayload hstream
  have hencode : encode [] = .ok emptyLog := rfl
  exact ⟨load_of_encode hencode (Zlib.decompress_eq_ok_iff.1 hlog),
    (hbyte 13 (by decide)).2 2 (by decide), htrailer [0, 0, 0, 0] rfl (by decide)⟩

end Snapshot

end Drift
