import Drift.Proofs.Deflate.Code

/-!
# The written forms of compressed data

A grammar of compressed data that knows no reader: which bits expand to which bytes.

* `Repeats` — bytes that repeat what lies some distance back, also among themselves.
* `ItemForm`, `Items` — the forms of an item, and of the items of a block up to its end.
* `Runs` — the forms of code lengths, with their repetitions.
* `HeadForm` — the forms of the head of a block that brings its own codes.
* `Content`, `Blocks` — the forms of the contents of a block, and of all blocks up to the last one.
* `Deflated` — the bytes that hold such blocks.
-/

namespace Drift.Deflate

/-! ## Items -/

/-- Bytes that **repeat** what lies a distance back, also among themselves. -/
structure Repeats (history : Bytes) (length distance : Nat) (part : Bytes) : Prop where
  reach : 0 < distance ∧ distance ≤ history.length
  length_eq : part.length = length
  copy : ∀ i < length, part[i]? = (history ++ part)[history.length + i - distance]?

/-- A number as a **word and extra bits**: the entry of the word's symbol gives a base, to which the
extra bits are added. -/
inductive Coded (lengths : List Nat) (first : Nat) (table : List (Nat × Nat)) :
    (bits : List Bool) → (n : Nat) → Prop where
  | mk {word : List Bool} {i extra : Nat} {entry : Nat × Nat}
      (hword : Word lengths word (first + i)) (hentry : table[i]? = some entry)
      (hextra : extra < 1 <<< entry.2) :
      Coded lengths first table (word ++ numeral entry.2 extra) (entry.1 + extra)

variable (literals distances : List Nat)

/-- The **forms of an item** under the codes of some lengths. -/
inductive ItemForm : Item → List Bool → Prop where
  | literal {b : UInt8} {word : List Bool} (h : Word literals word b.toNat) :
      ItemForm (.literal b) word
  | copy {length distance : Nat} {long far : List Bool}
      (hlong : Coded literals 257 lengthBase long length)
      (hfar : Coded distances 0 distanceBase far distance) :
      ItemForm (.copy length distance) (long ++ far)
  | endOfBlock {word : List Bool} (h : Word literals word 256) : ItemForm .endOfBlock word

/-- The items **up to the end of a block**, behind the output so far, and what they expand to. -/
inductive Items : (history : Bytes) → (bits : List Bool) → (part : Bytes) → Prop where
  | done {history : Bytes} {bits : List Bool} (h : ItemForm literals distances .endOfBlock bits) :
      Items history bits []
  | literal {history part : Bytes} {form bits : List Bool} {b : UInt8}
      (h : ItemForm literals distances (.literal b) form) (hs : Items (history ++ [b]) bits part) :
      Items history (form ++ bits) (b :: part)
  | copy {history copied part : Bytes} {form bits : List Bool} {length distance : Nat}
      (h : ItemForm literals distances (.copy length distance) form)
      (hcopy : Repeats history length distance copied) (hs : Items (history ++ copied) bits part) :
      Items history (form ++ bits) (copied ++ part)

/-! ## Codes -/

/-- What a **repetition symbol** stands for behind the lengths so far: which length, how often at
least, and the count of bits that tell how much oftener. -/
inductive Repetition (done : List Nat) : (symbol length least width : Nat) → Prop where
  | last {length : Nat} (h : done.getLast? = some length) : Repetition done 16 length 3 2
  | zeros : Repetition done 17 0 3 3
  | manyZeros : Repetition done 18 0 11 7

/-- **Code lengths** behind the lengths so far, under the code for code lengths. -/
inductive Runs (code : List Nat) :
    (done : List Nat) → (bits : List Bool) → (lengths : List Nat) → Prop where
  | nil {done : List Nat} : Runs code done [] []
  | single {done lengths : List Nat} {word bits : List Bool} {length : Nat} (hlength : length < 16)
      (hword : Word code word length) (hs : Runs code (done ++ [length]) bits lengths) :
      Runs code done (word ++ bits) (length :: lengths)
  | repeated {done lengths : List Nat} {word bits : List Bool}
      {symbol length least width extra : Nat}
      (hword : Word code word symbol) (hrep : Repetition done symbol length least width)
      (hextra : extra < 1 <<< width)
      (hs : Runs code (done ++ List.replicate (least + extra) length) bits lengths) :
      Runs code done (word ++ (numeral width extra ++ bits))
        (List.replicate (least + extra) length ++ lengths)

/-- The lengths of the code for code lengths: they are written in the order of `lengthOrder`, and
those that are not written are zero. -/
def inOrder (written : List Nat) : List Nat :=
  (List.range 19).map fun symbol => written.getD (lengthOrder.idxOf symbol) 0

/-- Lengths that **leave no word unused**. -/
def Complete (lengths : List Nat) : Prop := kraft lengths = 1 <<< maxLength

instance (lengths : List Nat) : Decidable (Complete lengths) :=
  inferInstanceAs (Decidable (_ = _))

/-- Lengths that **may be read by**: they leave no word unused, or have words of one bit only. -/
def Usable (lengths : List Nat) : Prop :=
  Complete lengths ∨ kraft lengths < 1 <<< maxLength ∧ ∀ l ∈ lengths, l ≤ 1

instance (lengths : List Nat) : Decidable (Usable lengths) :=
  inferInstanceAs (Decidable (_ ∨ _))

/-- The **head of a block** that brings its own codes. -/
inductive HeadForm : (literals distances : List Nat) → (bits : List Bool) → Prop where
  | mk {literals distances written : List Nat} {runs : List Bool}
      (hliterals : 257 ≤ literals.length ∧ literals.length ≤ 286)
      (hdistances : 1 ≤ distances.length ∧ distances.length ≤ 30)
      (hwritten : 4 ≤ written.length ∧ written.length ≤ 19) (hsmall : ∀ l ∈ written, l < 8)
      (hcode : Complete (inOrder written))
      (hruns : Runs (inOrder written) [] runs (literals ++ distances))
      (hend : literals.getD 256 0 ≠ 0) (husable : Usable literals) (husable' : Usable distances) :
      HeadForm literals distances
        (numeral 5 (literals.length - 257) ++ (numeral 5 (distances.length - 1) ++
          (numeral 4 (written.length - 4) ++ (written.flatMap (numeral 3) ++ runs))))

/-- The lengths for literals in a block that brings no codes. -/
def fixedLiterals : List Nat :=
  List.replicate 144 8 ++ List.replicate 112 9 ++ List.replicate 24 7 ++ List.replicate 8 8

/-- The lengths for distances in a block that brings no codes. -/
def fixedDistances : List Nat := List.replicate 32 5

/-! ## Blocks -/

/-- The **contents of a block** of a kind, at a position in bits and behind the output so far: bytes
as they are, from the next byte on and behind their count and its complement, or items under the
fixed codes or under its own. -/
inductive Content (position : Nat) (history : Bytes) :
    (kind : Nat) → (bits : List Bool) → (part : Bytes) → Prop where
  | stored {pad : List Bool} {part : Bytes} {low high : UInt8} (hpad : pad.length < 8)
      (hbyte : (position + pad.length) % 8 = 0)
      (hlength : part.length = low.toNat + 256 * high.toNat) :
      Content position history 0
        (pad ++ (low :: high :: (~~~low) :: (~~~high) :: part).flatMap BitStream.bitsOf) part
  | fixed {bits : List Bool} {part : Bytes}
      (h : Items fixedLiterals fixedDistances history bits part) :
      Content position history 1 bits part
  | dynamic {literals distances : List Nat} {head bits : List Bool} {part : Bytes}
      (hhead : HeadForm literals distances head) (h : Items literals distances history bits part) :
      Content position history 2 (head ++ bits) part

/-- All **blocks up to the last one**, from a position on and behind the output so far. -/
inductive Blocks :
    (position : Nat) → (history : Bytes) → (bits : List Bool) → (part : Bytes) → Prop where
  | last {position kind : Nat} {history part : Bytes} {bits : List Bool}
      (h : Content (position + 3) history kind bits part) :
      Blocks position history (true :: (numeral 2 kind ++ bits)) part
  | more {position kind : Nat} {history part parts : Bytes} {bits rest : List Bool}
      (h : Content (position + 3) history kind bits part)
      (hs : Blocks (position + 3 + bits.length) (history ++ part) rest parts) :
      Blocks position history (false :: (numeral 2 kind ++ (bits ++ rest))) (part ++ parts)

/-- Bytes that hold **compressed data** and end with its last byte. -/
def Deflated (body payload : Bytes) : Prop :=
  ∃ bits pad, body.flatMap BitStream.bitsOf = bits ++ pad ∧ pad.length < 8 ∧
    Blocks 0 [] bits payload

end Drift.Deflate
