import Drift.Proofs.Deflate.Inflate

/-!
# Blocks, what they expand to and how they are written

The grammar of compressed data in two halves: blocks as a writer has them in mind, with no bits in
sight, and the bits that stand for them.

* `Block` — bytes as they are, or items under the fixed codes or under codes of its own.
* `Expansion`, `Expands` — the bytes that items and blocks expand to, behind the output so far.
* `Block.Legal` — the blocks that the format has; `Block.distanceCount` — how many distances a block
  tells the lengths of words for. There is room for 32 of them in the head of a block, but there are
  only 30, and the reader takes no more than those.
* `Preface`, `ItemsForm`, `Block.Form`, `Forms`, `Written` — the bits of blocks, and their bytes.
* **`deflated_of_written`** — legal blocks that tell the lengths of words for 30 distances at most
  are compressed data of what they expand to, however they are written.
* **`inflate_of_written`** — the others are refused for it.
-/

namespace Drift.Deflate

open BitStream (Begins At begins_append_iff)

/-! ## Blocks -/

/-- A **block**: bytes as they are, or items under the fixed codes or under codes of its own, which
are told by the lengths of their words. The end of a block is no item of it. -/
inductive Block where
  | stored (bytes : Bytes)
  | fixed (items : List Item)
  | dynamic (literals distances : List Nat) (items : List Item)
  deriving DecidableEq, Repr

/-- The **expansion of items** behind the output so far: a literal stands for itself, and a
back-reference repeats what lies some distance back. -/
inductive Expansion : (history : Bytes) → (items : List Item) → (part : Bytes) → Prop where
  | nil {history : Bytes} : Expansion history [] []
  | literal {history part : Bytes} {items : List Item} {b : UInt8}
      (hs : Expansion (history ++ [b]) items part) :
      Expansion history (.literal b :: items) (b :: part)
  | copy {history copied part : Bytes} {items : List Item} {length distance : Nat}
      (hcopy : Repeats history length distance copied)
      (hs : Expansion (history ++ copied) items part) :
      Expansion history (.copy length distance :: items) (copied ++ part)

/-- The expansion of a block. -/
def Block.Expands (history : Bytes) : (b : Block) → (part : Bytes) → Prop
  | stored bytes, part => part = bytes
  | fixed items, part => Expansion history items part
  | dynamic _ _ items, part => Expansion history items part

/-- The **expansion of blocks**, one behind the other: their back-references also reach into the
blocks before. -/
inductive Expands : (history : Bytes) → (blocks : List Block) → (part : Bytes) → Prop where
  | nil {history : Bytes} : Expands history [] []
  | cons {history part parts : Bytes} {b : Block} {blocks : List Block}
      (h : b.Expands history part) (hs : Expands (history ++ part) blocks parts) :
      Expands history (b :: blocks) (part ++ parts)

/-! ## Legal blocks -/

/-- A symbol **has a word** when its length is not zero. -/
def HasWord (lengths : List Nat) (symbol : Nat) : Prop := lengths.getD symbol 0 ≠ 0

instance (lengths : List Nat) (symbol : Nat) : Decidable (HasWord lengths symbol) :=
  inferInstanceAs (Decidable (_ ≠ _))

/-- A number that a table and the words of some lengths **can tell**: a symbol with a word gives a
base, and the number exceeds it by no more than the extra bits can tell. -/
def Codable (lengths : List Nat) (first : Nat) (table : List (Nat × Nat)) (n : Nat) : Prop :=
  ∃ i entry, table[i]? = some entry ∧ HasWord lengths (first + i) ∧
    entry.1 ≤ n ∧ n < entry.1 + 1 <<< entry.2

/-- An item that the words of some lengths **can tell**. -/
def Item.Codable (literals distances : List Nat) : Item → Prop
  | literal b => HasWord literals b.toNat
  | copy length distance =>
    Deflate.Codable literals 257 lengthBase length ∧
      Deflate.Codable distances 0 distanceBase distance
  | endOfBlock => False

/-- An item that **there are symbols for**: a literal, or a back-reference of a length and a distance
in their ranges. -/
def Item.Plain : Item → Prop
  | literal _ => True
  | copy length distance => (3 ≤ length ∧ length ≤ 258) ∧ (1 ≤ distance ∧ distance ≤ 32768)
  | endOfBlock => False

/-- Lengths of words that a block **may bring**: there is a word for the end of the block, no word is
too long, and no code leaves words unused, except for one whose words have one bit only. -/
structure Legal (literals distances : List Nat) : Prop where
  literals_length : 257 ≤ literals.length ∧ literals.length ≤ 286
  distances_length : 1 ≤ distances.length ∧ distances.length ≤ 32
  le : ∀ l ∈ literals ++ distances, l ≤ maxLength
  ends : HasWord literals 256
  literals_usable : Usable literals
  distances_usable : Usable distances

/-- The **legal blocks**. -/
def Block.Legal : Block → Prop
  | stored bytes => bytes.length ≤ 65535
  | fixed items => ∀ item ∈ items, item.Plain
  | dynamic literals distances items =>
    Deflate.Legal literals distances ∧ ∀ item ∈ items, item.Codable literals distances

/-- How many distances a block **tells the lengths of words for**. -/
def Block.distanceCount : Block → Nat
  | stored _ => 0
  | fixed _ => 0
  | dynamic _ distances _ => distances.length

/-! ## Written forms -/

/-- The **head of a block** as it is written, whatever codes its lengths make. -/
inductive Preface (literals distances : List Nat) : (bits : List Bool) → Prop where
  | mk {written : List Nat} {runs : List Bool} (hliterals : 257 ≤ literals.length)
      (hliterals' : literals.length ≤ 288) (hdistances : 1 ≤ distances.length)
      (hdistances' : distances.length ≤ 32)
      (hwritten : 4 ≤ written.length ∧ written.length ≤ 19) (hsmall : ∀ l ∈ written, l < 8)
      (hcode : Complete (inOrder written))
      (hruns : Runs (inOrder written) [] runs (literals ++ distances)) :
      Preface literals distances
        (numeral 5 (literals.length - 257) ++ (numeral 5 (distances.length - 1) ++
          (numeral 4 (written.length - 4) ++ (written.flatMap (numeral 3) ++ runs))))

/-- The **items of a block** as they are written, with the end of the block behind them. -/
inductive ItemsForm (literals distances : List Nat) :
    (items : List Item) → (bits : List Bool) → Prop where
  | done {bits : List Bool} (h : ItemForm literals distances .endOfBlock bits) :
      ItemsForm literals distances [] bits
  | cons {item : Item} {items : List Item} {form bits : List Bool}
      (h : ItemForm literals distances item form) (hs : ItemsForm literals distances items bits) :
      ItemsForm literals distances (item :: items) (form ++ bits)

/-- The **contents of a block** as they are written at a position in bits, and their kind. -/
inductive Block.Form (position : Nat) : (b : Block) → (kind : Nat) → (bits : List Bool) → Prop where
  | stored {pad : List Bool} {bytes : Bytes} {low high : UInt8} (hpad : pad.length < 8)
      (hbyte : (position + pad.length) % 8 = 0)
      (hlength : bytes.length = low.toNat + 256 * high.toNat) :
      Form position (.stored bytes) 0
        (pad ++ (low :: high :: (~~~low) :: (~~~high) :: bytes).flatMap BitStream.bitsOf)
  | fixed {items : List Item} {bits : List Bool}
      (h : ItemsForm fixedLiterals fixedDistances items bits) :
      Form position (.fixed items) 1 bits
  | dynamic {literals distances : List Nat} {items : List Item} {head bits : List Bool}
      (hhead : Preface literals distances head) (h : ItemsForm literals distances items bits) :
      Form position (.dynamic literals distances items) 2 (head ++ bits)

/-- **Blocks** as they are written from a position on: each one behind a mark of the last one and
its kind. -/
inductive Forms : (position : Nat) → (blocks : List Block) → (bits : List Bool) → Prop where
  | last {position kind : Nat} {b : Block} {bits : List Bool}
      (h : b.Form (position + 3) kind bits) :
      Forms position [b] (true :: (numeral 2 kind ++ bits))
  | more {position kind : Nat} {b : Block} {blocks : List Block} {bits rest : List Bool}
      (h : b.Form (position + 3) kind bits) (hs : Forms (position + 3 + bits.length) blocks rest) :
      Forms position (b :: blocks) (false :: (numeral 2 kind ++ (bits ++ rest)))

/-- The bytes in which blocks **are written**, to the end of the last byte. -/
def Written (blocks : List Block) (body : Bytes) : Prop :=
  ∃ bits pad, body.flatMap BitStream.bitsOf = bits ++ pad ∧ pad.length < 8 ∧ Forms 0 blocks bits

/-! ## Blocks that are read -/

variable {literals distances : List Nat} {items : List Item} {history part payload body : Bytes}
  {bits : List Bool} {b : Block} {blocks : List Block} {position kind : Nat}

theorem Preface.toHeadForm (h : Preface literals distances bits) (hlegal : Legal literals distances)
    (hcount : distances.length ≤ 30) : HeadForm literals distances bits := by
  cases h with
  | mk _ _ hdistances _ hwritten hsmall hcode hruns =>
    exact .mk hlegal.literals_length ⟨hdistances, hcount⟩ hwritten hsmall hcode hruns hlegal.ends
      hlegal.literals_usable hlegal.distances_usable

theorem ItemsForm.toItems (h : ItemsForm literals distances items bits)
    (hpart : Expansion history items part) : Items literals distances history bits part := by
  induction h generalizing history part with
  | done hend =>
    cases hpart
    exact .done hend
  | cons hitem _ ih =>
    cases hpart with
    | literal hs => exact .literal hitem (ih hs)
    | copy hcopy hs => exact .copy hitem hcopy (ih hs)

theorem Block.Form.toContent (h : b.Form position kind bits) (hlegal : b.Legal)
    (hcount : b.distanceCount ≤ 30) (hpart : b.Expands history part) :
    Content position history kind bits part := by
  cases h with
  | stored hpad hbyte hlength =>
    cases hpart
    exact .stored hpad hbyte hlength
  | fixed hitems => exact .fixed (hitems.toItems hpart)
  | dynamic hhead hitems =>
    exact .dynamic (hhead.toHeadForm hlegal.1 hcount) (hitems.toItems hpart)

theorem Forms.toBlocks (h : Forms position blocks bits) (hlegal : ∀ b ∈ blocks, b.Legal)
    (hcount : ∀ b ∈ blocks, b.distanceCount ≤ 30) (hpart : Expands history blocks part) :
    Blocks position history bits part := by
  induction h generalizing history part with
  | last hform =>
    cases hpart with
    | cons hfirst hnone =>
      cases hnone
      rw [List.append_nil]
      exact .last (hform.toContent (hlegal _ List.mem_cons_self) (hcount _ List.mem_cons_self)
        hfirst)
  | more hform _ ih =>
    cases hpart with
    | cons hfirst hrest =>
      obtain ⟨hb, hblocks⟩ := List.forall_mem_cons.1 hlegal
      obtain ⟨hcountb, hcounts⟩ := List.forall_mem_cons.1 hcount
      exact .more (hform.toContent hb hcountb hfirst) (ih hblocks hcounts hrest)

/-- Legal blocks that tell the lengths of words for no more distances than there are, **however they
are written**, are compressed data of what they expand to. -/
theorem deflated_of_written (h : Written blocks body) (hlegal : ∀ b ∈ blocks, b.Legal)
    (hcount : ∀ b ∈ blocks, b.distanceCount ≤ 30) (hpart : Expands [] blocks payload) :
    Deflated body payload := by
  obtain ⟨bits, pad, hbody, hpad, hforms⟩ := h
  exact ⟨bits, pad, hbody, hpad, hforms.toBlocks hlegal hcount hpart⟩

/-! ## Blocks that are refused -/

variable {s r : BitStream} {out : Output} {rest : List Bool}

theorem Preface.readCodes_eq_error (h : Preface literals distances bits)
    (hcount : 30 < distances.length) (hbegins : Begins s (bits ++ rest) r) :
    readCodes s = .error .tooManySymbols := by
  cases h with
  | mk hliterals hliterals' hdistances hdistances' hwritten _ _ _ =>
    simp only [List.append_assoc] at hbegins
    obtain ⟨counts, t, hbits, hfirst, hsecond, -, -⟩ :=
      exists_bits_counts (by omega) (by omega) (by omega) hbegins
    have hmany : 286 < counts % 32 + 257 ∨ 30 < counts / 32 % 32 + 1 := .inr (by omega)
    rw [readCodes, hbits]
    exact if_pos hmany

theorem Block.Form.readBlock_eq_error (h : b.Form position kind bits)
    (hcount : 30 < b.distanceCount) (hbegins : Begins s (bits ++ rest) r) :
    readBlock kind out s = .error .tooManySymbols := by
  cases h with
  | stored => exact absurd hcount (Nat.not_lt_zero 30)
  | fixed => exact absurd hcount (Nat.not_lt_zero 30)
  | dynamic hhead _ =>
    rw [List.append_assoc] at hbegins
    rw [readBlock, hhead.readCodes_eq_error hcount hbegins]

theorem Block.Form.kind_lt (h : b.Form position kind bits) : kind < 4 := by
  cases h <;> decide

theorem Block.Form.readBlocks_eq_error {last : Bool} (h : b.Form position kind bits)
    (hcount : 30 < b.distanceCount)
    (hbegins : Begins s (last :: (numeral 2 kind ++ (bits ++ rest))) r) (fuel : Nat) :
    readBlocks (fuel + 1) out s = .error .tooManySymbols := by
  obtain ⟨t, ht, hr⟩ := (begins_append_iff (a := last :: numeral 2 kind)).1 hbegins
  have hhead := bits_blockHead h.kind_lt ht
  have hkind : (last.toNat + 2 * kind) / 2 = kind := by
    have := last.toNat_lt
    omega
  simp only [readBlocks, hhead, hkind, h.readBlock_eq_error hcount hr]

theorem Forms.readBlocks_eq_error {fuel : Nat} (h : Forms position blocks bits)
    (hlegal : ∀ b ∈ blocks, b.Legal) (hcount : ∃ b ∈ blocks, 30 < b.distanceCount)
    (hpart : Expands history blocks payload) (hout : out.toList = history) (hs : s.At position)
    (hbegins : Begins s bits r) (hfuel : bits.length < fuel) :
    readBlocks fuel out s = .error .tooManySymbols := by
  obtain ⟨fuel, rfl⟩ := Nat.exists_eq_add_one_of_ne_zero (Nat.ne_zero_of_lt hfuel)
  induction h generalizing history payload out s fuel with
  | @last position kind b bits hform =>
    obtain ⟨_, hmem, hcount⟩ := hcount
    obtain rfl := List.mem_singleton.1 hmem
    rw [← List.append_nil bits] at hbegins
    exact hform.readBlocks_eq_error hcount hbegins fuel
  | @more position kind b blocks bits rest hform _ ih =>
    obtain ⟨hb, hblocks⟩ := List.forall_mem_cons.1 hlegal
    rcases Nat.lt_or_ge 30 b.distanceCount with hmany | hfew
    · exact hform.readBlocks_eq_error hmany hbegins fuel
    · -- The first block is read, and one behind it is refused.
      cases hpart with
      | cons hfirst hrest =>
        subst hout
        obtain ⟨found, hmem, hmany⟩ := hcount
        have hmem : found ∈ blocks := (List.mem_cons.1 hmem).resolve_left fun heq => by
          rw [heq] at hmany
          omega
        obtain ⟨t, ht, hr⟩ :=
          (begins_append_iff (a := false :: (numeral 2 kind ++ bits))).1 (by simpa using hbegins)
        obtain ⟨out₁, hread, hout₁, hAt⟩ :=
          readBlocks_succ fuel hs (hform.toContent hb hfew hfirst) ht
        simp only [List.length_cons, List.length_append] at hfuel
        obtain ⟨fuel, rfl⟩ := Nat.exists_eq_add_one_of_ne_zero (by omega : fuel ≠ 0)
        rw [hread]
        exact ih hblocks ⟨found, hmem, hmany⟩ hrest hout₁ hAt hr fuel (by omega)

/-- Legal blocks of which one tells the lengths of words for more distances than there are are
**refused for it**, however they are written and whatever follows them. -/
theorem inflate_of_written (h : Written blocks body) (hlegal : ∀ b ∈ blocks, b.Legal)
    (hcount : ∃ b ∈ blocks, 30 < b.distanceCount) (hpart : Expands [] blocks payload)
    (rest : Bytes) : inflate (body ++ rest) = .error .tooManySymbols := by
  obtain ⟨bits, pad, hbody, hpad, hforms⟩ := h
  have hbegins : Begins (.ofBytes (body ++ rest)) bits ⟨pad, rest⟩ :=
    BitStream.begins_ofBytes_iff.2 ⟨body, rfl, hbody, hpad⟩
  have hfuel : bits.length < 8 * (body ++ rest).length + 1 := by
    have := hbegins.size_eq
    rw [BitStream.size_ofBytes] at this
    omega
  have hempty : (#[] : Output).toList = [] := rfl
  rw [inflate, hforms.readBlocks_eq_error hlegal hcount hpart hempty
    (BitStream.at_ofBytes _ (Nat.zero_mod 8)) hbegins hfuel]

end Drift.Deflate
