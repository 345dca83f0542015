import Drift.MessagePack.Writer
import Drift.Proofs.MessagePack.Form
import Drift.Proofs.Result
import Mathlib.Tactic.SplitIfs

/-!
# The writer follows the grammar

* `form_of_nat`, `form_of_arrayHead`, `leaf_of_text` — what is written is a form.
* `nat_eq_ok`, `arrayHead_eq_ok`, `text_eq_ok` — when something is written, and `nat_eq_error` and
  `text_eq_error` when it is not.
-/

namespace Drift.MessagePack

open Bytes (bound)

/-- The greatest number that is written. -/
def maxNumber : Nat := 0xFFFFFFFFFFFFFFFF

/-- Texts and arrays are written when they have fewer parts. -/
def lengthBound : Nat := 0x100000000

/-! ## Numbers -/

theorem form_of_nat {n : Nat} {f : Bytes} (h : nat n = .ok f) : HeadForm (.scalar (.int n)) f := by
  unfold nat at h
  split at h
  · next hn =>
    cases h
    exact .positive ⟨hn, by rw [Nat.zero_add]⟩
  split at h
  · next hn => cases h; exact .unsigned ⟨(0xCC, 1), by decide, hn, rfl⟩
  split at h
  · next hn => cases h; exact .unsigned ⟨(0xCD, 2), by decide, hn, rfl⟩
  split at h
  · next hn => cases h; exact .unsigned ⟨(0xCE, 4), by decide, hn, rfl⟩
  split at h
  · next hn => cases h; exact .unsigned ⟨(0xCF, 8), by decide, hn, rfl⟩
  · cases h

theorem nat_eq_ok {n : Nat} (h : n ≤ maxNumber) : ∃ f, nat n = .ok f := by
  have hn : n < 0x10000000000000000 := Nat.lt_succ_of_le h
  unfold nat
  rw [if_pos hn]
  split_ifs <;> exact ⟨_, rfl⟩

theorem nat_eq_error {n : Nat} (h : ¬ n ≤ maxNumber) : nat n = .error .numberTooLarge := by
  have hn : 0x10000000000000000 ≤ n := Nat.lt_of_not_le h
  unfold nat
  rw [if_neg (by omega), if_neg (by omega), if_neg (by omega), if_neg (by omega),
    if_neg (by omega)]

/-! ## Arrays and texts -/

theorem form_of_arrayHead {n : Nat} {f : Bytes} (h : arrayHead n = .ok f) :
    HeadForm (.array n) f := by
  unfold arrayHead at h
  split at h
  · next hn => cases h; exact .shortArray ⟨hn, rfl⟩
  split at h
  · next hn => cases h; exact .array ⟨(0xDC, 2), by decide, hn, rfl⟩
  split at h
  · next hn => cases h; exact .array ⟨(0xDD, 4), by decide, hn, rfl⟩
  · cases h

theorem arrayHead_eq_ok {n : Nat} (h : n < lengthBound) : ∃ f, arrayHead n = .ok f := by
  have hn : n < 0x100000000 := h
  unfold arrayHead
  rw [if_pos hn]
  split_ifs <;> exact ⟨_, rfl⟩

theorem form_of_textHead {n : Nat} {f : Bytes} (h : textHead n = .ok f) :
    HeadForm (.text n) f := by
  unfold textHead at h
  split at h
  · next hn => cases h; exact .shortText ⟨hn, rfl⟩
  split at h
  · next hn => cases h; exact .text ⟨(0xD9, 1), by decide, hn, rfl⟩
  split at h
  · next hn => cases h; exact .text ⟨(0xDA, 2), by decide, hn, rfl⟩
  split at h
  · next hn => cases h; exact .text ⟨(0xDB, 4), by decide, hn, rfl⟩
  · cases h

theorem leaf_of_text {s : String} {f : Bytes} (h : text s = .ok f) : Leaf (.text s) f := by
  obtain ⟨head, hh, hf⟩ := bind_eq_ok_iff.1 h
  cases hf
  exact .text (form_of_textHead hh)

theorem textHead_eq_ok {n : Nat} (h : n < lengthBound) : ∃ f, textHead n = .ok f := by
  have hn : n < 0x100000000 := h
  unfold textHead
  rw [if_pos hn]
  split_ifs <;> exact ⟨_, rfl⟩

theorem text_eq_ok {s : String} (h : (Utf8.encodeString s).length < lengthBound) :
    ∃ f, text s = .ok f := by
  obtain ⟨head, hhead⟩ := textHead_eq_ok h
  exact ⟨_, bind_eq_ok_iff.2 ⟨head, hhead, rfl⟩⟩

theorem text_eq_error {s : String} (h : ¬ (Utf8.encodeString s).length < lengthBound) :
    text s = .error (.tooLong .text) := by
  have hn : 0x100000000 ≤ (Utf8.encodeString s).length := Nat.le_of_not_lt h
  have hhead : textHead (Utf8.encodeString s).length = .error (.tooLong .text) := by
    unfold textHead
    rw [if_neg (by omega), if_neg (by omega), if_neg (by omega), if_neg (by omega)]
  simp only [text, hhead]
  rfl

end Drift.MessagePack
