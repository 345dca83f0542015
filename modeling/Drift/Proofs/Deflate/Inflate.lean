import Drift.Proofs.Deflate.Head

/-!
# Compressed data is read from its forms

* `readStored_eq_ok_iff` — bytes as they are are read exactly when they come next, from a byte on.
* `readBlock_eq_ok_iff`, `blocks_of_readBlocks`, `readBlocks_of_blocks` — the same for the contents
  of a block, and for all blocks.
* **`inflate_eq_ok_iff`** — compressed data is read exactly when the bytes begin with it, whatever
  follows it.
* `Deflated.unique` — bytes begin with one piece of compressed data at most.
-/

namespace Drift.Deflate

open BitStream (Begins At begins_append_iff begins_cons_iff begins_pad_append_iff)

variable {s r : BitStream} {out out' : Output} {position : Nat}

/-! ## Blocks -/

theorem appendBytes_eq_ok_iff {n : Nat} {bytes rest : Bytes} :
    appendBytes n out bytes = .ok (out', rest) ↔
      ∃ part, part.length = n ∧ bytes = part ++ rest ∧ out'.toList = out.toList ++ part := by
  induction n generalizing out bytes with
  | zero =>
    constructor
    · intro h
      cases h
      exact ⟨[], rfl, rfl, (List.append_nil _).symm⟩
    · rintro ⟨part, hlength, rfl, hout⟩
      rw [List.eq_nil_of_length_eq_zero hlength, List.append_nil] at hout
      rw [List.eq_nil_of_length_eq_zero hlength, Array.toList_inj.1 hout]
      rfl
  | succ n ih =>
    cases bytes with
    | nil =>
      refine ⟨nofun, ?_⟩
      rintro ⟨part, hlength, hnil, -⟩
      rw [(List.append_eq_nil_iff.1 hnil.symm).1] at hlength
      cases hlength
    | cons b bytes =>
      rw [appendBytes, ih]
      constructor
      · rintro ⟨part, hlength, rfl, hout⟩
        refine ⟨b :: part, congrArg Nat.succ hlength, rfl, ?_⟩
        rw [hout, Array.toList_push, List.append_assoc, List.singleton_append]
      · rintro ⟨part, hlength, hbytes, hout⟩
        obtain ⟨c, part, rfl⟩ := List.exists_cons_of_length_eq_add_one hlength
        obtain ⟨rfl, rfl⟩ := List.cons.inj hbytes
        refine ⟨part, Nat.succ.inj hlength, rfl, ?_⟩
        rw [hout, Array.toList_push, List.append_assoc, List.singleton_append]

theorem eq_complement_iff {a b c d : UInt8} :
    a.toNat + 256 * b.toNat + (c.toNat + 256 * d.toNat) = 65535 ↔ c = ~~~a ∧ d = ~~~b := by
  have ha := a.toNat_lt
  have hb := b.toNat_lt
  have hc := c.toNat_lt
  have hd := d.toNat_lt
  rw [← UInt8.toNat_inj, ← UInt8.toNat_inj, UInt8.toNat_not, UInt8.toNat_not]
  simp only [UInt8.size]
  omega

theorem readStored_eq_ok_iff (hs : s.At position) :
    readStored out s = .ok (out', r) ↔
      ∃ bits part, Content position out.toList 0 bits part ∧ Begins s bits r ∧
        out'.toList = out.toList ++ part := by
  constructor
  · intro h
    unfold readStored at h
    split at h
    · next a b c d rest hbytes =>
      simp only at h
      split at h
      · next hsum =>
        split at h
        · cases h
        · next happend =>
          cases h
          obtain ⟨part, hlength, rfl, hout⟩ := appendBytes_eq_ok_iff.1 happend
          obtain ⟨rfl, rfl⟩ := eq_complement_iff.1 hsum
          exact ⟨_, part, .stored hs.1 hs.2 hlength,
            (begins_pad_append_iff hs hs.1 hs.2).2 ⟨rfl, hbytes, rfl⟩, hout⟩
      · cases h
    · cases h
  · rintro ⟨bits, part, hcontent, hbegins, hout⟩
    cases hcontent with
    | @stored _ _ low high hpad hbyte hlength =>
      obtain ⟨rfl, hbytes, hpending⟩ := (begins_pad_append_iff hs hpad hbyte).1 hbegins
      obtain ⟨pending, rest⟩ := r
      cases hpending
      have hsum : low.toNat + 256 * high.toNat + ((~~~low).toNat + 256 * (~~~high).toNat) = 65535 :=
        eq_complement_iff.2 ⟨rfl, rfl⟩
      have happend : appendBytes (low.toNat + 256 * high.toNat) out (part ++ rest)
          = .ok (out', rest) :=
        appendBytes_eq_ok_iff.2 ⟨part, hlength, rfl, hout⟩
      simp only [readStored, hbytes, List.cons_append, if_pos hsum, happend]
      rfl

/-- The contents of a block are read **exactly when they come next**. -/
theorem readBlock_eq_ok_iff {kind : Nat} (hs : s.At position) :
    readBlock kind out s = .ok (out', r) ↔
      ∃ bits part, Content position out.toList kind bits part ∧ Begins s bits r ∧
        out'.toList = out.toList ++ part := by
  have hfixed : fixedCodes = codes fixedLiterals fixedDistances := rfl
  match kind with
  | 0 => exact readStored_eq_ok_iff hs
  | 1 =>
    rw [readBlock, hfixed, readItems_eq_ok_iff]
    constructor
    · rintro ⟨bits, part, hitems, h⟩
      exact ⟨bits, part, .fixed hitems, h⟩
    · rintro ⟨bits, part, ⟨⟩, h⟩
      exact ⟨bits, part, ‹_›, h⟩
  | 2 =>
    rw [readBlock]
    constructor
    · intro h
      split at h
      · cases h
      · next found t hcodes =>
        obtain ⟨literals, distances, head, hhead, rfl, ht⟩ := readCodes_eq_ok_iff.1 hcodes
        obtain ⟨bits, part, hitems, hr, hout⟩ := readItems_eq_ok_iff.1 h
        exact ⟨head ++ bits, part, .dynamic hhead hitems, ht.append hr, hout⟩
    · rintro ⟨bits, part, hcontent, hbegins, hout⟩
      cases hcontent with
      | dynamic hhead hitems =>
        obtain ⟨t, ht, hr⟩ := begins_append_iff.1 hbegins
        simp only [readCodes_eq_ok_iff.2 ⟨_, _, _, hhead, rfl, ht⟩]
        exact readItems_eq_ok_iff.2 ⟨_, _, hitems, hr, hout⟩
  | kind + 3 =>
    refine ⟨nofun, ?_⟩
    rintro ⟨bits, part, ⟨⟩, -⟩

theorem Content.kind_lt {history part : Bytes} {kind : Nat} {bits : List Bool}
    (h : Content position history kind bits part) : kind < 3 := by
  cases h <;> decide

theorem blocks_of_readBlocks {fuel : Nat} (hs : s.At position)
    (h : readBlocks fuel out s = .ok (out', r)) :
    ∃ bits part, Blocks position out.toList bits part ∧ Begins s bits r ∧
      out'.toList = out.toList ++ part := by
  induction fuel generalizing out s position with
  | zero => cases h
  | succ fuel ih =>
    unfold readBlocks at h
    split at h
    · cases h
    · next head t hbits =>
      obtain ⟨hhead, ht⟩ := bits_eq_ok_iff.1 hbits
      have hAt := ht.at hs
      rw [length_numeral] at hAt
      rw [numeral] at ht
      split at h
      · cases h
      · next out₁ u hblock =>
        obtain ⟨bits, part, hcontent, hu, hout₁⟩ := (readBlock_eq_ok_iff hAt).1 hblock
        split at h
        · next hlast =>
          cases h
          rw [hlast] at ht
          exact ⟨_, part, .last hcontent, ht.append hu, hout₁⟩
        · next hmore =>
          have hmore : head % 2 = 0 := by omega
          obtain ⟨rest, parts, hblocks, hr, hout⟩ := ih (hu.at hAt) h
          rw [hout₁] at hblocks hout
          rw [hmore] at ht
          refine ⟨_, part ++ parts, .more hcontent hblocks, ht.append (hu.append hr), ?_⟩
          rw [hout, List.append_assoc]

theorem bits_blockHead {last : Bool} {kind : Nat} (hkind : kind < 4)
    (hbegins : Begins s (last :: numeral 2 kind) r) :
    Deflate.bits 3 s = .ok (last.toNat + 2 * kind, r) := by
  have := last.toNat_lt
  rw [bits_eq_ok_iff, numeral_succ]
  refine ⟨?_, hbegins⟩
  change _ < 8
  omega

theorem readBlocks_succ (fuel : Nat) {last : Bool} {kind : Nat} {part : Bytes} {bits : List Bool}
    (hs : s.At position) (hcontent : Content (position + 3) out.toList kind bits part)
    (hbegins : Begins s (last :: (numeral 2 kind ++ bits)) r) :
    ∃ out', readBlocks (fuel + 1) out s = (if last then .ok (out', r) else readBlocks fuel out' r) ∧
      out'.toList = out.toList ++ part ∧ r.At (position + 3 + bits.length) := by
  have hkind := hcontent.kind_lt
  obtain ⟨t, ht, hr⟩ := (begins_append_iff (a := last :: numeral 2 kind)).1 hbegins
  have hAt : t.At (position + 3) := ht.at hs
  have hhead := bits_blockHead (by omega) ht
  have hblock : readBlock kind out t = .ok ((out.toList ++ part).toArray, r) :=
    (readBlock_eq_ok_iff hAt).2 ⟨bits, part, hcontent, hr, rfl⟩
  refine ⟨_, ?_, rfl, hr.at hAt⟩
  rw [readBlocks]
  cases last with
  | true =>
    have hdiv : (true.toNat + 2 * kind) / 2 = kind := by rw [Bool.toNat_true]; omega
    have hmod : (true.toNat + 2 * kind) % 2 = 1 := by rw [Bool.toNat_true]; omega
    simp only [hhead, hdiv, hblock, if_pos hmod, if_true]
  | false =>
    have hdiv : (false.toNat + 2 * kind) / 2 = kind := by rw [Bool.toNat_false]; omega
    have hmod : ¬ (false.toNat + 2 * kind) % 2 = 1 := by rw [Bool.toNat_false]; omega
    simp only [hhead, hdiv, hblock, if_neg hmod, Bool.false_eq_true, if_false]

theorem readBlocks_of_blocks {fuel : Nat} {history part : Bytes} {bits : List Bool}
    (hblocks : Blocks position history bits part) (hs : s.At position) (hout : out.toList = history)
    (hbegins : Begins s bits r) (hfuel : bits.length < fuel) :
    ∃ out', readBlocks fuel out s = .ok (out', r) ∧ out'.toList = history ++ part := by
  obtain ⟨fuel, rfl⟩ := Nat.exists_eq_add_one_of_ne_zero (Nat.ne_zero_of_lt hfuel)
  induction hblocks generalizing out s fuel with
  | last hcontent =>
    subst hout
    obtain ⟨out', hread, hout', -⟩ := readBlocks_succ fuel hs hcontent hbegins
    exact ⟨out', hread, hout'⟩
  | @more position kind history part parts bits rest hcontent _ ih =>
    subst hout
    obtain ⟨t, ht, hr⟩ :=
      (begins_append_iff (a := false :: (numeral 2 kind ++ bits))).1 (by simpa using hbegins)
    obtain ⟨out₁, hread, hout₁, hAt⟩ := readBlocks_succ fuel hs hcontent ht
    simp only [List.length_cons, List.length_append] at hfuel
    obtain ⟨fuel, rfl⟩ := Nat.exists_eq_add_one_of_ne_zero (by omega : fuel ≠ 0)
    obtain ⟨out', hrest, hout'⟩ := ih hAt hout₁ hr fuel (by omega)
    exact ⟨out', hread.trans hrest, by rw [hout', List.append_assoc]⟩

/-! ## Whole bytes -/

/-- Compressed data is read **exactly when the bytes begin with it**, whatever follows it. -/
theorem inflate_eq_ok_iff {data rest : Bytes} :
    inflate data = .ok (out, rest) ↔ ∃ body, data = body ++ rest ∧ Deflated body out.toList := by
  unfold inflate
  constructor
  · intro h
    split at h
    · cases h
    · next hblocks =>
      cases h
      obtain ⟨bits, part, hblocks, hbegins, hout⟩ :=
        blocks_of_readBlocks (BitStream.at_ofBytes data (Nat.zero_mod 8)) hblocks
      obtain ⟨body, hbody, hbits, hpad⟩ := BitStream.begins_ofBytes_iff.1 hbegins
      refine ⟨body, hbody, bits, _, hbits, hpad, ?_⟩
      rw [hout]
      exact hblocks
  · rintro ⟨body, hbody, bits, pad, hbits, hpad, hblocks⟩
    have hbegins : Begins (.ofBytes data) bits ⟨pad, rest⟩ :=
      BitStream.begins_ofBytes_iff.2 ⟨body, hbody, hbits, hpad⟩
    have hfuel : bits.length < 8 * data.length + 1 := by
      have := hbegins.size_eq
      rw [BitStream.size_ofBytes] at this
      omega
    have hempty : (#[] : Output).toList = [] := rfl
    obtain ⟨found, hread, hfound⟩ := readBlocks_of_blocks hblocks
      (BitStream.at_ofBytes data (Nat.zero_mod 8)) hempty hbegins hfuel
    obtain rfl : found = out := Array.toList_inj.1 hfound
    simp only [hread]

/-- Bytes begin with **one piece of compressed data** at most. -/
theorem Deflated.unique {body body' rest rest' payload payload' : Bytes}
    (h : Deflated body payload) (h' : Deflated body' payload')
    (heq : body ++ rest = body' ++ rest') : body = body' ∧ payload = payload' := by
  have hread : inflate (body ++ rest) = .ok (payload.toArray, rest) :=
    inflate_eq_ok_iff.2 ⟨body, rfl, h⟩
  have hread' : inflate (body ++ rest) = .ok (payload'.toArray, rest') :=
    inflate_eq_ok_iff.2 ⟨body', heq, h'⟩
  obtain ⟨hout, rfl⟩ := Prod.mk.inj (Except.ok.inj (hread.symm.trans hread'))
  exact ⟨List.append_cancel_right heq, congrArg Array.toList hout⟩

end Drift.Deflate
