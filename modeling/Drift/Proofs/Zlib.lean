import Drift.Proofs.Deflate.Stored
import Drift.Zlib
import Mathlib.Tactic.SplitIfs

/-!
# Compressed streams

* `Stream` — the streams of a payload: a head, compressed data and a checksum; `Carries` is said of
  bytes that begin with one.
* **`decompress_eq_ok_iff`** — bytes expand to a payload exactly when they carry it.
* `Stream.unique` — bytes begin with one stream at most, so no stream goes on where one ends.
* `Stored` — blocks of bytes as they are, up to a last one; `stored_of_storedOnto` and
  `deflated_of_stored` show that such blocks are what is written, and that they are compressed data.
* `adler32_lt` — a checksum has 32 bits.
* **`decompress_compress`** — a stream expands to its bytes, whatever stands behind it.
-/

namespace Drift.Zlib

open Deflate (Deflated Marks StoredBlocks inflate inflate_eq_ok_iff)

/-! ## Checksums -/

theorem adlerStep_lt (sums : Nat × Nat) (b : UInt8) :
    (adlerStep sums b).1 < adlerModulus ∧ (adlerStep sums b).2 < adlerModulus :=
  ⟨Nat.mod_lt _ (by decide), Nat.mod_lt _ (by decide)⟩

theorem foldl_adlerStep_lt (bytes : Bytes) {sums : Nat × Nat}
    (h : sums.1 < adlerModulus ∧ sums.2 < adlerModulus) :
    (bytes.foldl adlerStep sums).1 < adlerModulus ∧
      (bytes.foldl adlerStep sums).2 < adlerModulus := by
  induction bytes generalizing sums with
  | nil => exact h
  | cons b bytes ih => exact ih (adlerStep_lt sums b)

/-- A checksum has **32 bits**. -/
theorem adler32_lt (bytes : Bytes) : adler32 bytes < Bytes.bound 4 := by
  have hone : ((1, 0) : Nat × Nat).1 < adlerModulus ∧ ((1, 0) : Nat × Nat).2 < adlerModulus := by
    decide
  obtain ⟨hlow, hhigh⟩ := foldl_adlerStep_lt bytes hone
  change _ < 65521 at hlow hhigh
  change _ * 65536 + _ < 4294967296
  omega

/-! ## Streams -/

/-- The **head of a stream**: its check bits fit, it names the one method there is and a window of
that method, and it asks for no dictionary. -/
structure Head (method flags : UInt8) : Prop where
  check : (method.toNat * 256 + flags.toNat) % 31 = 0
  known : method.toNat % 16 = 8
  window : method.toNat / 16 ≤ 7
  dictionary : flags.toNat / 32 % 2 = 0

/-- The **streams** of a payload. -/
inductive Stream : (stream payload : Bytes) → Prop where
  | mk {method flags : UInt8} {body payload : Bytes} (hhead : Head method flags)
      (hbody : Deflated body payload) :
      Stream (method :: flags :: (body ++ Bytes.bigEndian 4 (adler32 payload))) payload

/-- Bytes that **carry** a payload: they begin with a stream of it. -/
def Carries (data payload : Bytes) : Prop :=
  ∃ stream rest, data = stream ++ rest ∧ Stream stream payload

theorem afterHead_eq_ok_iff {stream rest : Bytes} :
    afterHead stream = .ok rest ↔
      ∃ method flags, stream = method :: flags :: rest ∧ Head method flags := by
  constructor
  · intro h
    unfold afterHead at h
    split at h
    · next method flags tail =>
      split_ifs at h with hcheck hmethod hwindow hdictionary
      cases h
      exact ⟨method, flags, rfl, Decidable.not_not.1 hcheck, Decidable.not_not.1 hmethod,
        Nat.le_of_not_lt hwindow, by omega⟩
    · cases h
  · rintro ⟨method, flags, rfl, hcheck, hmethod, hwindow, hdictionary⟩
    rw [afterHead, if_neg (not_not_intro hcheck), if_neg (not_not_intro hmethod),
      if_neg (Nat.not_lt_of_le hwindow), if_neg (by omega)]

theorem checked_eq_ok_iff {out trailer payload : Bytes} :
    checked out trailer = .ok payload ↔
      payload = out ∧ ∃ rest, trailer = Bytes.bigEndian 4 (adler32 out) ++ rest := by
  constructor
  · intro h
    unfold checked at h
    split at h
    · cases h
    · next sum rest htake =>
      obtain ⟨rfl, hlength⟩ := Bytes.take?_eq_some_iff.1 htake
      split at h
      · next hsum =>
        cases h
        exact ⟨rfl, rest, by rw [(Bytes.eq_bigEndian_iff.1 ⟨hlength, hsum⟩).2]⟩
      · cases h
  · rintro ⟨rfl, rest, rfl⟩
    have hsum := Bytes.eq_bigEndian_iff.2 ⟨adler32_lt payload, rfl⟩
    rw [checked, Bytes.take?_eq_some_iff.2 ⟨rfl, hsum.1⟩]
    exact if_pos hsum.2

/-- Bytes expand to a payload **exactly when they carry it**. -/
theorem decompress_eq_ok_iff {data payload : Bytes} :
    decompress data = .ok payload ↔ Carries data payload := by
  constructor
  · intro h
    unfold decompress at h
    split at h
    · cases h
    · next tail htail =>
      obtain ⟨method, flags, rfl, hhead⟩ := afterHead_eq_ok_iff.1 htail
      split at h
      · cases h
      · next out trailer hout =>
        obtain ⟨body, rfl, hbody⟩ := inflate_eq_ok_iff.1 hout
        obtain ⟨rfl, rest, rfl⟩ := checked_eq_ok_iff.1 h
        refine ⟨_, rest, ?_, .mk hhead hbody⟩
        rw [List.cons_append, List.cons_append, List.append_assoc]
  · rintro ⟨_, rest, rfl, @⟨method, flags, body, _, hhead, hbody⟩⟩
    have htail : afterHead
        (method :: flags :: (body ++ Bytes.bigEndian 4 (adler32 payload)) ++ rest)
        = .ok (body ++ Bytes.bigEndian 4 (adler32 payload) ++ rest) :=
      afterHead_eq_ok_iff.2 ⟨method, flags, rfl, hhead⟩
    have hout : inflate (body ++ (Bytes.bigEndian 4 (adler32 payload) ++ rest))
        = .ok (payload.toArray, Bytes.bigEndian 4 (adler32 payload) ++ rest) :=
      inflate_eq_ok_iff.2 ⟨body, rfl, hbody⟩
    rw [← List.append_assoc] at hout
    simp only [decompress, htail, hout]
    exact checked_eq_ok_iff.2 ⟨rfl, rest, rfl⟩

/-- Bytes begin with **one stream** at most. -/
theorem Stream.unique {stream stream' rest rest' payload payload' : Bytes}
    (h : Stream stream payload) (h' : Stream stream' payload')
    (heq : stream ++ rest = stream' ++ rest') : stream = stream' ∧ payload = payload' := by
  cases h with
  | mk hhead hbody =>
    cases h' with
    | mk hhead' hbody' =>
      simp only [List.cons_append, List.append_assoc, List.cons.injEq] at heq
      obtain ⟨rfl, rfl, htail⟩ := heq
      obtain ⟨rfl, rfl⟩ := hbody.unique hbody' htail
      exact ⟨rfl, rfl⟩

/-! ## Stored blocks -/

/-- **Stored blocks** of some bytes. -/
inductive Stored : (data bytes : Bytes) → Prop where
  | last {block : Bytes} (h : block.length ≤ blockSize) :
      Stored (storedHead true block.length ++ block) block
  | more {block data bytes : Bytes} (h : block.length ≤ blockSize) (hs : Stored data bytes) :
      Stored (storedHead false block.length ++ block ++ data) (block ++ bytes)

theorem length_lt_of_take? {bytes : Bytes} {n : Nat} (h : bytes.take? n = none) :
    bytes.length < n := by
  refine Nat.lt_of_not_le fun hle => ?_
  have hsome := Bytes.take?_eq_some_iff.2
    ⟨(List.take_append_drop n bytes).symm, List.length_take_of_le hle⟩
  rw [h] at hsome
  cases hsome

theorem stored_of_storedOnto (done : List Bytes) (bytes : Bytes) :
    ∃ data, storedOnto done bytes = done.reverse.flatten ++ data ∧ Stored data bytes := by
  fun_induction storedOnto done bytes with
  | case1 done bytes h =>
    refine ⟨_, ?_, .last (Nat.le_of_lt (length_lt_of_take? h))⟩
    rw [List.reverse_cons, List.flatten_append, List.flatten_singleton]
  | case2 done bytes block rest h hrest =>
    obtain ⟨rfl, hlen⟩ := Bytes.take?_eq_some_iff.1 h
    rw [List.isEmpty_iff.1 hrest, List.append_nil, ← hlen]
    refine ⟨_, ?_, .last (Nat.le_of_eq hlen)⟩
    rw [List.reverse_cons, List.flatten_append, List.flatten_singleton]
  | case3 done bytes block rest h _ ih =>
    obtain ⟨rfl, hlen⟩ := Bytes.take?_eq_some_iff.1 h
    obtain ⟨data, hdata, hs⟩ := ih
    rw [hdata, ← hlen]
    refine ⟨_, ?_, .more (Nat.le_of_eq hlen) hs⟩
    rw [List.reverse_cons, List.flatten_append, List.flatten_singleton, List.append_assoc]

theorem storedHead_eq {length : Nat} (h : length ≤ blockSize) (last : Bool) :
    ∃ low high : UInt8, length = low.toNat + 256 * high.toNat ∧
      storedHead last length = [if last then 1 else 0, low, high, ~~~low, ~~~high] := by
  change length ≤ 65535 at h
  have hlow : UInt8.ofNat (255 - length % 256) = ~~~UInt8.ofNat length := by
    rw [← UInt8.toNat_inj, UInt8.toNat_not, UInt8.toNat_ofNat', UInt8.toNat_ofNat']
    simp only [UInt8.size, Nat.reducePow]
    omega
  have hhigh : UInt8.ofNat (255 - length / 256) = ~~~UInt8.ofNat (length / 256) := by
    rw [← UInt8.toNat_inj, UInt8.toNat_not, UInt8.toNat_ofNat', UInt8.toNat_ofNat']
    simp only [UInt8.size, Nat.reducePow]
    omega
  refine ⟨UInt8.ofNat length, UInt8.ofNat (length / 256), ?_, by rw [storedHead, hlow, hhigh]⟩
  rw [UInt8.toNat_ofNat', UInt8.toNat_ofNat']
  omega

theorem exists_storedBlocks {data bytes : Bytes} (hs : Stored data bytes) :
    ∃ blocks, StoredBlocks blocks data ∧ blocks ≠ [] ∧ blocks.flatten = bytes := by
  have hmark (last : Bool) : Marks (if last then 1 else 0) last :=
    ⟨List.replicate 5 false, by cases last <;> rfl⟩
  induction hs with
  | @last block h =>
    obtain ⟨low, high, hlength, hhead⟩ := storedHead_eq h true
    refine ⟨[block], ?_, List.cons_ne_nil _ _, List.flatten_singleton⟩
    rw [hhead]
    have hblock := StoredBlocks.cons (hmark true) hlength .nil
    rwa [List.append_nil] at hblock
  | @more block data bytes h _ ih =>
    obtain ⟨blocks, hblocks, hne, rfl⟩ := ih
    obtain ⟨low, high, hlength, hhead⟩ := storedHead_eq h false
    refine ⟨block :: blocks, ?_, List.cons_ne_nil _ _, List.flatten_cons⟩
    rw [hhead]
    refine .cons ?_ hlength hblocks
    rw [List.isEmpty_eq_false_iff.2 hne]
    exact hmark false

theorem deflated_of_stored {data bytes : Bytes} (hs : Stored data bytes) : Deflated data bytes := by
  obtain ⟨blocks, hblocks, hne, rfl⟩ := exists_storedBlocks hs
  exact hblocks.deflated hne

/-! ## Writing and reading -/

theorem head_levelHead (level : Level) :
    ∃ method flags, level.head = [method, flags] ∧ Head method flags := by
  unfold Level.head
  split_ifs <;> exact ⟨_, _, rfl, by constructor <;> decide⟩

/-- What is written **carries its bytes** at every level. -/
theorem carries_compress (level : Level) (bytes : Bytes) :
    Carries (compress level bytes) bytes := by
  obtain ⟨data, hdata, hs⟩ := stored_of_storedOnto [] bytes
  obtain ⟨method, flags, hlevel, hhead⟩ := head_levelHead level
  rw [List.reverse_nil, List.flatten_nil, List.nil_append] at hdata
  refine ⟨_, [], (List.append_nil _).symm, ?_⟩
  rw [compress, hdata, hlevel]
  exact .mk hhead (deflated_of_stored hs)

theorem Carries.append {data payload : Bytes} (h : Carries data payload) (rest : Bytes) :
    Carries (data ++ rest) payload := by
  obtain ⟨stream, more, rfl, hstream⟩ := h
  exact ⟨stream, more ++ rest, List.append_assoc .., hstream⟩

/-- A stream **expands to its bytes** at every level, and nothing behind it matters. -/
theorem decompress_compress (level : Level) (bytes rest : Bytes) :
    decompress (compress level bytes ++ rest) = .ok bytes :=
  decompress_eq_ok_iff.2 ((carries_compress level bytes).append rest)

end Drift.Zlib
