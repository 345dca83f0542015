import Drift.MessagePack.Reader
import Drift.Proofs.Bytes

/-!
# The written forms of MessagePack values

A grammar of messages that knows no reader: which bytes are a form of which value.

* `HeadForm` — the forms of a head. A number or a length may be written in any width that holds it,
  behind the tag of that width (`Counted`), or in the tag itself when it is small (`Packed`).
* `Leaf` — the forms of a value without items; `Moment` is the data of a timestamp.
* `Row` — the forms of several things, one after the other.
* `Container` — the forms of arrays and maps, given those of their items.
* `Form room` — the forms of a value with at most `room` containers inside each other; `Spells`
  leaves the room open.
* `Value.Holds` — a value of some kind stands at some place in another.
-/

namespace Drift.MessagePack

open Bytes (bound bigEndian twos)

/-! ## Heads -/

/-- The tags of numbers, each with the count of bytes behind it. -/
def unsignedTags : List (UInt8 × Nat) := [(0xCC, 1), (0xCD, 2), (0xCE, 4), (0xCF, 8)]

/-- The tags of numbers in two's complement. -/
def signedTags : List (UInt8 × Nat) := [(0xD0, 1), (0xD1, 2), (0xD2, 4), (0xD3, 8)]

/-- The tags of texts. -/
def textTags : List (UInt8 × Nat) := [(0xD9, 1), (0xDA, 2), (0xDB, 4)]

/-- The tags of bytes. -/
def binaryTags : List (UInt8 × Nat) := [(0xC4, 1), (0xC5, 2), (0xC6, 4)]

/-- The tags of extensions. -/
def extensionTags : List (UInt8 × Nat) := [(0xC7, 1), (0xC8, 2), (0xC9, 4)]

/-- The tags of extensions of one size only, each with that size. -/
def sizedExtensionTags : List (UInt8 × Nat) :=
  [(0xD4, 1), (0xD5, 2), (0xD6, 4), (0xD7, 8), (0xD8, 16)]

/-- The tags of arrays. -/
def arrayTags : List (UInt8 × Nat) := [(0xDC, 2), (0xDD, 4)]

/-- The tags of maps. -/
def mapTags : List (UInt8 × Nat) := [(0xDE, 2), (0xDF, 4)]

/-- A number **behind a tag**, in as many bytes as the tag says. -/
def Counted (tags : List (UInt8 × Nat)) (n : Nat) (form : Bytes) : Prop :=
  ∃ t ∈ tags, n < bound t.2 ∧ form = t.1 :: bigEndian t.2 n

/-- A number **in the tag itself**. -/
def Packed (base limit n : Nat) (form : Bytes) : Prop :=
  n < limit ∧ form = [UInt8.ofNat (base + n)]

/-- The **forms of a head**. -/
inductive HeadForm : Head → Bytes → Prop where
  | nil : HeadForm (.scalar .nil) [0xC0]
  | no : HeadForm (.scalar (.bool false)) [0xC2]
  | yes : HeadForm (.scalar (.bool true)) [0xC3]
  | positive {n : Nat} {form : Bytes} (h : Packed 0 0x80 n form) : HeadForm (.scalar (.int n)) form
  | negative {n : Nat} {form : Bytes} (h : Packed 0xE0 0x20 n form) :
      HeadForm (.scalar (.int ((n : Int) - 0x20))) form
  | unsigned {n : Nat} {form : Bytes} (h : Counted unsignedTags n form) :
      HeadForm (.scalar (.int n)) form
  | signed {t : UInt8 × Nat} {z : Int} (ht : t ∈ signedTags)
      (hz : -(bound t.2 : Int) ≤ 2 * z ∧ 2 * z < bound t.2) :
      HeadForm (.scalar (.int z)) (t.1 :: twos t.2 z)
  | single (bits : UInt32) :
      HeadForm (.scalar (.float (Double.ofSingle bits))) (0xCA :: bigEndian 4 bits.toNat)
  | double (bits : UInt64) : HeadForm (.scalar (.float ⟨bits⟩)) (0xCB :: bigEndian 8 bits.toNat)
  | shortText {n : Nat} {form : Bytes} (h : Packed 0xA0 0x20 n form) : HeadForm (.text n) form
  | text {n : Nat} {form : Bytes} (h : Counted textTags n form) : HeadForm (.text n) form
  | binary {n : Nat} {form : Bytes} (h : Counted binaryTags n form) : HeadForm (.binary n) form
  | sizedExtension {t : UInt8 × Nat} (ht : t ∈ sizedExtensionTags) :
      HeadForm (.extension t.2) [t.1]
  | extension {n : Nat} {form : Bytes} (h : Counted extensionTags n form) :
      HeadForm (.extension n) form
  | shortArray {n : Nat} {form : Bytes} (h : Packed 0x90 0x10 n form) : HeadForm (.array n) form
  | array {n : Nat} {form : Bytes} (h : Counted arrayTags n form) : HeadForm (.array n) form
  | shortMap {n : Nat} {form : Bytes} (h : Packed 0x80 0x10 n form) : HeadForm (.map n) form
  | map {n : Nat} {form : Bytes} (h : Counted mapTags n form) : HeadForm (.map n) form

theorem HeadForm.length_pos {h : Head} {form : Bytes} (hf : HeadForm h form) :
    0 < form.length := by
  cases hf with
  | positive h | negative h | shortText h | shortArray h | shortMap h =>
    obtain ⟨-, rfl⟩ := h
    exact Nat.one_pos
  | unsigned h | text h | binary h | extension h | array h | map h =>
    obtain ⟨t, -, -, rfl⟩ := h
    exact Nat.succ_pos _
  | nil | no | yes | signed | single | double | sizedExtension => exact Nat.succ_pos _

/-! ## Values without items -/

/-- The greatest count of nanoseconds in a timestamp. -/
def maxNanoseconds : Nat := 999999999

/-- The **data of a timestamp**: seconds alone in 32 bits, nanoseconds and seconds in 30 and 34
bits, or both in full. -/
inductive Moment : Int → Nat → Bytes → Prop where
  | seconds {n : Nat} (h : n < bound 4) : Moment n 0 (bigEndian 4 n)
  | shared {n k : Nat} (h : n < 0x400000000) (hk : k ≤ maxNanoseconds) :
      Moment n k (bigEndian 8 (k * 0x400000000 + n))
  | full {z : Int} {k : Nat} (h : -(bound 8 : Int) ≤ 2 * z ∧ 2 * z < bound 8)
      (hk : k ≤ maxNanoseconds) : Moment z k (bigEndian 4 k ++ twos 8 z)

/-- The **forms of a value without items**. The length of an extension leaves room for its code. -/
inductive Leaf : Value → Bytes → Prop where
  | scalar {v : Value} {head : Bytes} (h : HeadForm (.scalar v) head) : Leaf v head
  | text {s : String} {head : Bytes} (h : HeadForm (.text (Utf8.encodeString s).length) head) :
      Leaf (.text s) (head ++ Utf8.encodeString s)
  | binary {data head : Bytes} (h : HeadForm (.binary data.length) head) :
      Leaf (.binary data) (head ++ data)
  | extension {code : Nat} {data head : Bytes} (hc : code < 0x80)
      (hd : data.length ≠ 0xFFFFFFFF) (h : HeadForm (.extension data.length) head) :
      Leaf (.extension code data) (head ++ UInt8.ofNat code :: data)
  | timestamp {seconds : Int} {nanoseconds : Nat} {data head : Bytes}
      (hm : Moment seconds nanoseconds data) (h : HeadForm (.extension data.length) head) :
      Leaf (.timestamp seconds nanoseconds) (head ++ 0xFF :: data)

/-! ## Containers -/

/-- The **forms of several things**, one after the other. -/
inductive Row {α : Type} (form : α → Bytes → Prop) : List α → Bytes → Prop where
  | nil : Row form [] []
  | cons {a : α} {as : List α} {f fs : Bytes} (h : form a f) (hs : Row form as fs) :
      Row form (a :: as) (f ++ fs)

/-- A key of a map is a text or bytes. -/
inductive Key : Value → Prop where
  | text (s : String) : Key (.text s)
  | binary (b : Bytes) : Key (.binary b)

/-- The form of a key and its value. -/
def PairForm (form : Value → Bytes → Prop) (p : Value × Value) (f : Bytes) : Prop :=
  Key p.1 ∧ ∃ key v, form p.1 key ∧ form p.2 v ∧ f = key ++ v

/-- The **forms of arrays and maps**, given those of their items. -/
inductive Container (form : Value → Bytes → Prop) : Value → Bytes → Prop where
  | array {items : List Value} {head body : Bytes} (h : HeadForm (.array items.length) head)
      (hb : Row form items body) : Container form (.array items) (head ++ body)
  | map {pairs : List (Value × Value)} {head body : Bytes} (h : HeadForm (.map pairs.length) head)
      (hb : Row (PairForm form) pairs body) : Container form (.map pairs) (head ++ body)

/-- The **forms of a value** with at most `room` containers inside each other. -/
def Form : (room : Nat) → Value → Bytes → Prop
  | 0 => Leaf
  | room + 1 => fun v f => Leaf v f ∨ Container (Form room) v f

theorem Form.of_leaf {room : Nat} {v : Value} {f : Bytes} (h : Leaf v f) : Form room v f := by
  cases room with
  | zero => exact h
  | succ room => exact .inl h

theorem Leaf.length_pos {v : Value} {f : Bytes} (h : Leaf v f) : 0 < f.length := by
  cases h with
  | scalar h => exact h.length_pos
  | text h | binary h | extension _ _ h | timestamp _ h =>
    rw [List.length_append]
    exact Nat.add_pos_left h.length_pos _

theorem Form.length_pos {room : Nat} {v : Value} {f : Bytes} (h : Form room v f) :
    0 < f.length := by
  cases room with
  | zero => exact Leaf.length_pos h
  | succ room =>
    rcases h with h | h
    · exact h.length_pos
    · cases h with
      | array h | map h =>
        rw [List.length_append]
        exact Nat.add_pos_left h.length_pos _

theorem Row.length_le {α : Type} {form : α → Bytes → Prop} {least : Nat}
    (hleast : ∀ a f, form a f → least ≤ f.length) {as : List α} {fs : Bytes}
    (h : Row form as fs) : as.length * least ≤ fs.length := by
  induction h with
  | nil => exact Nat.le_of_eq (Nat.zero_mul _)
  | cons h _ ih =>
    have := hleast _ _ h
    rw [List.length_cons, List.length_append, Nat.add_mul, Nat.one_mul]
    omega

theorem Row.imp {α : Type} {form form' : α → Bytes → Prop} {as : List α} {fs : Bytes}
    (h : Row form as fs) (himp : ∀ a ∈ as, ∀ f, form a f → form' a f) : Row form' as fs := by
  induction h with
  | nil => exact .nil
  | cons h _ ih =>
    refine .cons (himp _ List.mem_cons_self _ h) (ih fun a ha => ?_)
    exact himp a (List.mem_cons_of_mem _ ha)

theorem PairForm.imp {form form' : Value → Bytes → Prop} {p : Value × Value} {f : Bytes}
    (h : PairForm form p f) (hkey : ∀ f, form p.1 f → form' p.1 f)
    (hv : ∀ f, form p.2 f → form' p.2 f) : PairForm form' p f := by
  obtain ⟨hk, key, v, hkf, hvf, rfl⟩ := h
  exact ⟨hk, key, v, hkey _ hkf, hv _ hvf, rfl⟩

/-! ## Room -/

theorem Form.succ {room : Nat} {v : Value} {f : Bytes} (h : Form room v f) :
    Form (room + 1) v f := by
  induction room generalizing v f with
  | zero => exact .inl h
  | succ room ih =>
    rcases h with h | h
    · exact .inl h
    · cases h with
      | array h hb => exact .inr (.array h (hb.imp fun _ _ _ hf => ih hf))
      | map h hb =>
        exact .inr (.map h (hb.imp fun _ _ _ hf => hf.imp (fun _ => ih) (fun _ => ih)))

theorem Form.mono {room room' : Nat} (hle : room ≤ room') {v : Value} {f : Bytes}
    (h : Form room v f) : Form room' v f := by
  induction hle with
  | refl => exact h
  | step _ ih => exact ih.succ

/-- The value has at most `room` containers inside each other. -/
inductive Nests : Nat → Value → Prop where
  | leaf {room : Nat} {v : Value} (ha : ∀ items, v ≠ .array items) (hm : ∀ pairs, v ≠ .map pairs) :
      Nests room v
  | array {room : Nat} {items : List Value} (h : ∀ v ∈ items, Nests room v) :
      Nests (room + 1) (.array items)
  | map {room : Nat} {pairs : List (Value × Value)} (hkey : ∀ p ∈ pairs, Nests room p.1)
      (hv : ∀ p ∈ pairs, Nests room p.2) : Nests (room + 1) (.map pairs)

/-- No form of a value takes more room than the value needs. -/
theorem Form.of_nests {room room' : Nat} {v : Value} {f : Bytes} (hn : Nests room v)
    (h : Form room' v f) : Form room v f := by
  induction hn generalizing room' f with
  | leaf ha hm =>
    refine .of_leaf ?_
    cases room' with
    | zero => exact h
    | succ =>
      rcases h with h | h
      · exact h
      · cases h with
        | array => exact absurd rfl (ha _)
        | map => exact absurd rfl (hm _)
  | array _ ih =>
    cases room' with
    | zero => cases h with | scalar h => cases h
    | succ =>
      rcases h with h | h
      · cases h with | scalar h => cases h
      · cases h with
        | array h hb => exact .inr (.array h (hb.imp fun v hv _ hf => ih v hv hf))
  | map _ _ ihkey ihv =>
    cases room' with
    | zero => cases h with | scalar h => cases h
    | succ =>
      rcases h with h | h
      · cases h with | scalar h => cases h
      · cases h with
        | map h hb =>
          refine .inr (.map h (hb.imp fun p hp _ hf => ?_))
          exact hf.imp (fun _ => ihkey p hp) (fun _ => ihv p hp)

/-- The bytes are **a form of the value**, with any room. -/
def Spells (v : Value) (f : Bytes) : Prop := ∃ room, Form room v f

/-! ## Values of one kind inside others -/

/-- The value, or one at any place inside it, has the property. -/
inductive Value.Holds (p : Value → Prop) : Value → Prop where
  | here {v : Value} (h : p v) : Holds p v
  | item {v : Value} {items : List Value} (hv : v ∈ items) (h : Holds p v) : Holds p (.array items)
  | key {key v : Value} {pairs : List (Value × Value)} (hv : (key, v) ∈ pairs) (h : Holds p key) :
      Holds p (.map pairs)
  | value {key v : Value} {pairs : List (Value × Value)} (hv : (key, v) ∈ pairs) (h : Holds p v) :
      Holds p (.map pairs)

end Drift.MessagePack
