import Drift.Proofs.MessagePack.Writing

/-!
# The writer takes the shortest form

* `Brief` — something is written, in no more bytes than a form of it has.
* `length_nat_le`, `length_arrayHead_le`, `length_textHead_le` — no narrower width holds what is
  written.
* `Spells.leaf`, `Spells.array_inv`, `Row.cons_inv` — take a form apart.
* `brief_nat`, `brief_arrayHead`, `brief_text` — numbers, heads of arrays and texts that have a form
  are written, and in no more bytes.
-/

namespace Drift.MessagePack

open Bytes (bound length_bigEndian)

/-- Something **is written**, and takes no more bytes than a form of it. -/
def Brief (written : Except WriteFault Bytes) (form : Bytes) : Prop :=
  ∃ f, written = .ok f ∧ f.length ≤ form.length

variable {n width : Nat} {f g : Bytes}

/-! ## Widths -/

/-- No number takes more bytes than **any width that holds it**, and a tag. -/
theorem length_nat_le (h : nat n = .ok f) (hwidth : width ∈ [1, 2, 4, 8]) (hn : n < bound width) :
    f.length ≤ width + 1 := by
  have hcases : width = 1 ∧ n < 0x100 ∨ width = 2 ∧ n < 0x10000 ∨
      width = 4 ∧ n < 0x100000000 ∨ width = 8 := by
    simp only [List.mem_cons, List.not_mem_nil, or_false] at hwidth
    rcases hwidth with rfl | rfl | rfl | rfl
    · exact .inl ⟨rfl, hn⟩
    · exact .inr (.inl ⟨rfl, hn⟩)
    · exact .inr (.inr (.inl ⟨rfl, hn⟩))
    · exact .inr (.inr (.inr rfl))
  unfold nat at h
  split_ifs at h <;> cases h <;> simp only [List.length_cons, List.length_nil, length_bigEndian] <;>
    omega

theorem length_textHead_le (h : textHead n = .ok f) (hwidth : width ∈ [1, 2, 4])
    (hn : n < bound width) : f.length ≤ width + 1 := by
  have hcases : width = 1 ∧ n < 0x100 ∨ width = 2 ∧ n < 0x10000 ∨ width = 4 := by
    simp only [List.mem_cons, List.not_mem_nil, or_false] at hwidth
    rcases hwidth with rfl | rfl | rfl
    · exact .inl ⟨rfl, hn⟩
    · exact .inr (.inl ⟨rfl, hn⟩)
    · exact .inr (.inr rfl)
  unfold textHead at h
  split_ifs at h <;> cases h <;> simp only [List.length_cons, List.length_nil, length_bigEndian] <;>
    omega

theorem length_arrayHead_le (h : arrayHead n = .ok f) (hwidth : width ∈ [2, 4])
    (hn : n < bound width) : f.length ≤ width + 1 := by
  have hcases : width = 2 ∧ n < 0x10000 ∨ width = 4 := by
    simp only [List.mem_cons, List.not_mem_nil, or_false] at hwidth
    rcases hwidth with rfl | rfl
    · exact .inl ⟨rfl, hn⟩
    · exact .inr rfl
  unfold arrayHead at h
  split_ifs at h <;> cases h <;> simp only [List.length_cons, List.length_nil, length_bigEndian] <;>
    omega

/-! ## Heads -/

theorem le_maxNumber_of_lt_bound (hwidth : width ∈ [1, 2, 4, 8]) (hn : n < bound width) :
    n ≤ maxNumber := by
  simp only [List.mem_cons, List.not_mem_nil, or_false] at hwidth
  rcases hwidth with rfl | rfl | rfl | rfl
  · exact Nat.le_trans (Nat.le_of_lt hn) (by decide)
  · exact Nat.le_trans (Nat.le_of_lt hn) (by decide)
  · exact Nat.le_trans (Nat.le_of_lt hn) (by decide)
  · exact Nat.le_of_lt_succ hn

theorem lt_lengthBound_of_lt_bound (hwidth : width ∈ [1, 2, 4]) (hn : n < bound width) :
    n < lengthBound := by
  simp only [List.mem_cons, List.not_mem_nil, or_false] at hwidth
  rcases hwidth with rfl | rfl | rfl
  · exact Nat.lt_of_lt_of_le hn (by decide)
  · exact Nat.lt_of_lt_of_le hn (by decide)
  · exact hn

theorem brief_nat_of_lt_bound (hwidth : width ∈ [1, 2, 4, 8]) (hn : n < bound width)
    (hg : g.length = width + 1) : Brief (nat n) g := by
  obtain ⟨f, hf⟩ := nat_eq_ok (le_maxNumber_of_lt_bound hwidth hn)
  exact ⟨f, hf, by rw [hg]; exact length_nat_le hf hwidth hn⟩

/-- A number **in any form** is written, and in no more bytes. -/
theorem brief_nat (h : HeadForm (.scalar (.int n)) g) : Brief (nat n) g := by
  generalize hz : (n : Int) = z at h
  cases h with
  | positive hp =>
    obtain ⟨hn, rfl⟩ := hp
    obtain rfl := Int.natCast_inj.1 hz
    exact ⟨[UInt8.ofNat n], if_pos hn, Nat.le_refl 1⟩
  | negative hp =>
    obtain ⟨hn, -⟩ := hp
    omega
  | unsigned hc =>
    obtain ⟨t, ht, hn, rfl⟩ := hc
    obtain rfl := Int.natCast_inj.1 hz
    have hwidth : t.2 ∈ [1, 2, 4, 8] := List.mem_map_of_mem (f := Prod.snd) ht
    exact brief_nat_of_lt_bound hwidth hn (by rw [List.length_cons, length_bigEndian])
  | @signed t _ ht hz' =>
    have hwidth : t.2 ∈ [1, 2, 4, 8] := List.mem_map_of_mem (f := Prod.snd) ht
    exact brief_nat_of_lt_bound hwidth (by omega)
      (by rw [List.length_cons, Bytes.twos, length_bigEndian])

theorem brief_textHead (h : HeadForm (.text n) g) : Brief (textHead n) g := by
  cases h with
  | shortText hp =>
    obtain ⟨hn, rfl⟩ := hp
    exact ⟨[UInt8.ofNat (0xA0 + n)], if_pos hn, Nat.le_refl 1⟩
  | text hc =>
    obtain ⟨t, ht, hn, rfl⟩ := hc
    have hwidth : t.2 ∈ [1, 2, 4] := List.mem_map_of_mem (f := Prod.snd) ht
    obtain ⟨f, hf⟩ := textHead_eq_ok (lt_lengthBound_of_lt_bound hwidth hn)
    refine ⟨f, hf, ?_⟩
    rw [List.length_cons, length_bigEndian]
    exact length_textHead_le hf hwidth hn

theorem brief_arrayHead (h : HeadForm (.array n) g) : Brief (arrayHead n) g := by
  cases h with
  | shortArray hp =>
    obtain ⟨hn, rfl⟩ := hp
    exact ⟨[UInt8.ofNat (0x90 + n)], if_pos hn, Nat.le_refl 1⟩
  | array hc =>
    obtain ⟨t, ht, hn, rfl⟩ := hc
    have hwidth : t.2 ∈ [2, 4] := List.mem_map_of_mem (f := Prod.snd) ht
    obtain ⟨f, hf⟩ := arrayHead_eq_ok (lt_lengthBound_of_lt_bound (.tail 1 hwidth) hn)
    refine ⟨f, hf, ?_⟩
    rw [List.length_cons, length_bigEndian]
    exact length_arrayHead_le hf hwidth hn

/-! ## Forms taken apart -/

/-- A form of a value that is no container. -/
theorem Spells.leaf {v : Value} (h : Spells v f) (ha : ∀ items, v ≠ .array items)
    (hm : ∀ pairs, v ≠ .map pairs) : Leaf v f := by
  obtain ⟨room, h⟩ := h
  have hleaf : Form 0 v f := h.of_nests (.leaf ha hm)
  exact hleaf

/-- A form of an array is a head with **forms of its items** behind it. -/
theorem Spells.array_inv {items : List Value} (h : Spells (.array items) f) :
    ∃ head body, HeadForm (.array items.length) head ∧ Row Spells items body ∧
      f = head ++ body := by
  obtain ⟨room, h⟩ := h
  cases room with
  | zero => cases h with | scalar h => cases h
  | succ room =>
    rcases h with h | h
    · cases h with | scalar h => cases h
    · cases h with
      | array h hb => exact ⟨_, _, h, hb.imp fun _ _ _ hf => ⟨room, hf⟩, rfl⟩

theorem Row.cons_inv {α : Type} {form : α → Bytes → Prop} {a : α} {as : List α} {fs : Bytes}
    (h : Row form (a :: as) fs) : ∃ f rest, form a f ∧ Row form as rest ∧ fs = f ++ rest := by
  cases h with
  | cons h hs => exact ⟨_, _, h, hs, rfl⟩

/-! ## Texts -/

/-- A text **in any form** is written, and in no more bytes. -/
theorem brief_text {s : String} (h : Spells (.text s) g) : Brief (text s) g := by
  cases h.leaf nofun nofun with
  | scalar hscalar => cases hscalar
  | text hform =>
    obtain ⟨head, hhead, hle⟩ := brief_textHead hform
    refine ⟨head ++ Utf8.encodeString s, bind_eq_ok_iff.2 ⟨head, hhead, rfl⟩, ?_⟩
    rw [List.length_append, List.length_append]
    omega

end Drift.MessagePack
