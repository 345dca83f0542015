import Drift.Proofs.Deflate.Writing

/-!
# Stored blocks as bytes

Stored blocks begin and end at bytes, so that their written forms can be told without bits.

* `Marks`, `StoredBlocks` — the first byte of a stored block, and stored blocks as bytes.
* **`written_stored_iff`** — the written forms of stored blocks are those bytes and no others.
* `StoredBlocks.deflated` — they are compressed data of the bytes in them.
* `place` — where a byte of the payload stands; `StoredBlocks.getElem?_place` finds it there, and
  **`StoredBlocks.set_place`** replaces it.
-/

namespace Drift.Deflate

/-! ## Bytes -/

/-- The **first byte of a stored block**: whether the block is the last one, its kind, and bits that
fill the byte. -/
def Marks (mark : UInt8) (last : Bool) : Prop :=
  ∃ fill, BitStream.bitsOf mark = last :: (numeral 2 0 ++ fill)

/-- **Stored blocks** as bytes: each of them stands behind its first byte and its length, which is
told twice. -/
inductive StoredBlocks : (blocks : List Bytes) → (body : Bytes) → Prop where
  | nil : StoredBlocks [] []
  | cons {mark low high : UInt8} {block body : Bytes} {blocks : List Bytes}
      (hmark : Marks mark blocks.isEmpty)
      (hlength : block.length = low.toNat + 256 * high.toNat) (hs : StoredBlocks blocks body) :
      StoredBlocks (block :: blocks)
        (mark :: low :: high :: (~~~low) :: (~~~high) :: (block ++ body))

theorem exists_marks (last : Bool) {fill : List Bool} (h : fill.length = 5) :
    ∃ mark, BitStream.bitsOf mark = last :: (numeral 2 0 ++ fill) := by
  match fill, h with
  | [a, b, c, d, e], _ => exact exists_bitsOf last false false a b c d e

theorem Block.Form.exists_marks {position kind : Nat} {block : Bytes} {bits : List Bool}
    (h : (Block.stored block).Form (position + 3) kind bits) (hposition : position % 8 = 0)
    (last : Bool) :
    ∃ mark low high, Marks mark last ∧ block.length = low.toNat + 256 * high.toNat ∧
      last :: (numeral 2 kind ++ bits)
        = (mark :: low :: high :: (~~~low) :: (~~~high) :: block).flatMap BitStream.bitsOf ∧
      (position + 3 + bits.length) % 8 = 0 := by
  cases h with
  | @stored fill _ low high hpad hbyte hlength =>
    obtain ⟨mark, hmark⟩ := Deflate.exists_marks last (by omega : fill.length = 5)
    refine ⟨mark, low, high, ⟨fill, hmark⟩, hlength, ?_, ?_⟩
    · rw [List.flatMap_cons (x := mark), hmark, List.cons_append, List.append_assoc]
    · rw [List.length_append, BitStream.length_flatMap_bitsOf]
      omega

theorem Marks.exists_form {mark low high : UInt8} {last : Bool} (h : Marks mark last)
    {block : Bytes} (hlength : block.length = low.toNat + 256 * high.toNat) {position : Nat}
    (hposition : position % 8 = 0) :
    ∃ bits, (Block.stored block).Form (position + 3) 0 bits ∧
      (mark :: low :: high :: (~~~low) :: (~~~high) :: block).flatMap BitStream.bitsOf
        = last :: (numeral 2 0 ++ bits) ∧
      (position + 3 + bits.length) % 8 = 0 := by
  obtain ⟨fill, hfill⟩ := h
  have hfive : fill.length = 5 := by
    have hbits := congrArg List.length hfill
    rw [BitStream.length_bitsOf, List.length_cons, List.length_append, length_numeral] at hbits
    omega
  have hpad : fill.length < 8 := by omega
  refine ⟨_, .stored hpad (by omega) hlength, ?_, ?_⟩
  · rw [List.flatMap_cons, hfill, List.cons_append, List.append_assoc]
  · rw [List.length_append, BitStream.length_flatMap_bitsOf]
    omega

theorem forms_stored_iff {position : Nat} (hposition : position % 8 = 0) {blocks : List Bytes}
    {bits : List Bool} :
    Forms position (blocks.map .stored) bits ↔
      blocks ≠ [] ∧ ∃ body, StoredBlocks blocks body ∧ bits = body.flatMap BitStream.bitsOf := by
  induction blocks generalizing position bits with
  | nil => exact ⟨nofun, fun h => absurd rfl h.1⟩
  | cons block blocks ih =>
    refine ⟨fun h => ⟨List.cons_ne_nil block blocks, ?_⟩, ?_⟩
    · generalize hall : (block :: blocks).map Block.stored = all at h
      cases h with
      | last hform =>
        obtain ⟨rfl, hblocks⟩ := List.cons.inj hall
        obtain rfl := List.map_eq_nil_iff.1 hblocks
        obtain ⟨mark, low, high, hmark, hlength, hbits, -⟩ := hform.exists_marks hposition true
        exact ⟨_, .cons hmark hlength .nil, by rw [hbits, List.append_nil]⟩
      | more hform hrest =>
        obtain ⟨rfl, rfl⟩ := List.cons.inj hall
        obtain ⟨mark, low, high, hmark, hlength, hbits, hnext⟩ :=
          hform.exists_marks hposition false
        obtain ⟨hne, body, hbody, rfl⟩ := (ih hnext).1 hrest
        rw [← List.isEmpty_eq_false_iff.2 hne] at hmark
        refine ⟨_, .cons hmark hlength hbody, ?_⟩
        rw [← List.append_assoc, ← List.cons_append, hbits, ← List.flatMap_append]
        rfl
    · rintro ⟨-, _, hbody, rfl⟩
      cases hbody with
      | @cons mark low high _ body _ hmark hlength hs =>
        obtain ⟨bits, hform, hbits, hnext⟩ := hmark.exists_form hlength hposition
        change Forms position _
          ((mark :: low :: high :: (~~~low) :: (~~~high) :: block ++ body).flatMap
            BitStream.bitsOf)
        rw [List.flatMap_append, hbits, List.cons_append, List.append_assoc]
        cases blocks with
        | nil =>
          cases hs
          rw [List.flatMap_nil, List.append_nil]
          exact .last hform
        | cons next blocks =>
          exact .more hform ((ih hnext).2 ⟨List.cons_ne_nil next blocks, body, hs, rfl⟩)

/-- The written forms of stored blocks are **those bytes**. -/
theorem written_stored_iff {blocks : List Bytes} {body : Bytes} :
    Written (blocks.map .stored) body ↔ blocks ≠ [] ∧ StoredBlocks blocks body := by
  constructor
  · rintro ⟨bits, pad, hbits, hpad, hforms⟩
    obtain ⟨hne, body', hbody', rfl⟩ := (forms_stored_iff (Nat.zero_mod 8)).1 hforms
    have hbegins : BitStream.Begins (.ofBytes body) (body'.flatMap BitStream.bitsOf) ⟨pad, []⟩ :=
      BitStream.begins_ofBytes_iff.2 ⟨body, (List.append_nil body).symm, hbits, hpad⟩
    obtain ⟨rfl, -⟩ := BitStream.begins_flatMap_iff.1 hbegins
    rw [List.append_nil]
    exact ⟨hne, hbody'⟩
  · rintro ⟨hne, hs⟩
    exact ⟨_, [], (List.append_nil _).symm, Nat.succ_pos 7,
      (forms_stored_iff (Nat.zero_mod 8)).2 ⟨hne, body, hs, rfl⟩⟩

/-! ## Payloads -/

variable {blocks : List Bytes} {body : Bytes}

theorem StoredBlocks.length_le (h : StoredBlocks blocks body) :
    ∀ block ∈ blocks, block.length ≤ 65535 := by
  induction h with
  | nil => nofun
  | @cons mark low high block body blocks _ hlength _ ih =>
    refine List.forall_mem_cons.2 ⟨?_, ih⟩
    have := low.toNat_lt
    have := high.toNat_lt
    omega

theorem expands_stored (history : Bytes) (blocks : List Bytes) :
    Expands history (blocks.map .stored) blocks.flatten := by
  induction blocks generalizing history with
  | nil => exact .nil
  | cons block blocks ih => exact .cons rfl (ih (history ++ block))

/-- Stored blocks are **compressed data** of the bytes in them. -/
theorem StoredBlocks.deflated (h : StoredBlocks blocks body) (hne : blocks ≠ []) :
    Deflated body blocks.flatten := by
  refine deflated_of_written (written_stored_iff.2 ⟨hne, h⟩) (List.forall_mem_map.2 h.length_le)
    (List.forall_mem_map.2 fun _ _ => ?_) (expands_stored [] blocks)
  exact Nat.zero_le 30

/-! ## Bytes of a payload -/

/-- **Where the byte of a payload stands** in its stored blocks: each block stands behind five
bytes. -/
def place : (blocks : List Bytes) → (k : Nat) → Nat
  | [], k => k
  | block :: blocks, k =>
    if k < block.length then 5 + k else 5 + block.length + place blocks (k - block.length)

theorem place_cons_of_lt {block : Bytes} {k : Nat} (h : k < block.length) :
    place (block :: blocks) k = 5 + k :=
  if_pos h

theorem place_cons_add (block : Bytes) (k : Nat) :
    place (block :: blocks) (block.length + k) = 5 + (block.length + place blocks k) := by
  rw [place, if_neg (Nat.not_lt.2 (Nat.le_add_right _ k)), Nat.add_sub_cancel_left, Nat.add_assoc]

theorem StoredBlocks.getElem?_place (h : StoredBlocks blocks body) {k : Nat}
    (hk : k < blocks.flatten.length) : body[place blocks k]? = blocks.flatten[k]? := by
  induction h generalizing k with
  | nil => cases hk
  | @cons mark low high block body blocks _ _ _ ih =>
    rw [List.flatten_cons, List.length_append] at hk
    rw [List.flatten_cons]
    rcases Nat.lt_or_ge k block.length with hlt | hge
    · rw [place_cons_of_lt hlt, List.getElem?_append_left hlt, Nat.add_comm]
      exact List.getElem?_append_left hlt
    · obtain ⟨k, rfl⟩ := Nat.exists_eq_add_of_le hge
      rw [place_cons_add, List.getElem?_append_right hge, Nat.add_sub_cancel_left,
        ← ih (by omega), Nat.add_comm 5]
      change (block ++ body)[block.length + place blocks k]? = _
      rw [List.getElem?_append_right (Nat.le_add_right _ _), Nat.add_sub_cancel_left]

/-- With another byte in the place of one of the payload, the bytes are **stored blocks of the
payload with that byte in it**. -/
theorem StoredBlocks.set_place (h : StoredBlocks blocks body) {k : Nat}
    (hk : k < blocks.flatten.length) (b : UInt8) :
    ∃ blocks', StoredBlocks blocks' (body.set (place blocks k) b) ∧
      blocks'.isEmpty = blocks.isEmpty ∧ blocks'.flatten = blocks.flatten.set k b := by
  induction h generalizing k with
  | nil => cases hk
  | @cons mark low high block body blocks hmark hlength hs ih =>
    rw [List.flatten_cons, List.length_append] at hk
    rw [List.flatten_cons]
    rcases Nat.lt_or_ge k block.length with hlt | hge
    · refine ⟨block.set k b :: blocks, ?_, rfl, ?_⟩
      · rw [place_cons_of_lt hlt, Nat.add_comm]
        change StoredBlocks _ (mark :: low :: high :: _ :: _ :: (block ++ body).set k b)
        rw [List.set_append_left _ _ hlt]
        exact .cons hmark (List.length_set.trans hlength) hs
      · rw [List.flatten_cons, List.set_append_left _ _ hlt]
    · obtain ⟨k, rfl⟩ := Nat.exists_eq_add_of_le hge
      obtain ⟨blocks', hs', hempty, hflatten⟩ := ih (by omega : k < blocks.flatten.length)
      refine ⟨block :: blocks', ?_, rfl, ?_⟩
      · rw [place_cons_add, Nat.add_comm 5]
        change StoredBlocks _
          (mark :: low :: high :: _ :: _ :: (block ++ body).set (block.length + place blocks k) b)
        rw [List.set_append_right _ _ (Nat.le_add_right _ _), Nat.add_sub_cancel_left]
        exact .cons (hempty ▸ hmark) hlength hs'
      · rw [List.flatten_cons, hflatten, List.set_append_right _ _ hge, Nat.add_sub_cancel_left]

end Drift.Deflate
