import Drift.Proofs.Bytes
import Drift.Text.Utf8
import Mathlib.Data.List.Basic
import Mathlib.Tactic.SplitIfs

/-!
# UTF-8 is read as it is written

* `Utf8.lead?_two`, `Utf8.lead?_three`, `Utf8.lead?_four` — the lead bytes by the bits they bring.
* `Utf8.continue?_eq_ok_iff` — the bytes that are read onto a lead byte.
* `Utf8.next_eq_ok_iff` — a character is read exactly when the bytes begin with its encoding.
* `Utf8.decode_eq_ok_iff`, `Utf8.decodeString_eq_ok_iff` — bytes are the text that they encode.
-/

namespace Drift.Utf8

open Bytes (toNat_ofNat_of_lt)

/-! ## Lead bytes -/

deriving instance DecidableEq for Lead

theorem lead?_two {k : Nat} (hk : 2 ≤ k) (hk' : k < 32) :
    lead? (UInt8.ofNat (k + 0xC0)) = some ⟨k, 1, 0x80, 0xBF⟩ := by
  have h : ∀ k : Fin 32, 2 ≤ k.val →
      lead? (UInt8.ofNat (k.val + 0xC0)) = some ⟨k.val, 1, 0x80, 0xBF⟩ := by decide
  exact h ⟨k, hk'⟩ hk

theorem lead?_three {k : Nat} (hk : k < 16) :
    lead? (UInt8.ofNat (k + 0xE0)) =
      some ⟨k, 2, if k = 0 then 0xA0 else 0x80, if k = 13 then 0x9F else 0xBF⟩ := by
  have h : ∀ k : Fin 16, lead? (UInt8.ofNat (k.val + 0xE0)) =
      some ⟨k.val, 2, if k.val = 0 then 0xA0 else 0x80, if k.val = 13 then 0x9F else 0xBF⟩ := by
    decide
  exact h ⟨k, hk⟩

theorem lead?_four {k : Nat} (hk : k < 5) :
    lead? (UInt8.ofNat (k + 0xF0)) =
      some ⟨k, 3, if k = 0 then 0x90 else 0x80, if k = 4 then 0x8F else 0xBF⟩ := by
  have h : ∀ k : Fin 5, lead? (UInt8.ofNat (k.val + 0xF0)) =
      some ⟨k.val, 3, if k.val = 0 then 0x90 else 0x80, if k.val = 4 then 0x8F else 0xBF⟩ := by
    decide
  exact h ⟨k, hk⟩

theorem lead?_cases {b : UInt8} {l : Lead} (h : lead? b = some l) :
    (∃ k, 2 ≤ k ∧ k < 32 ∧ b = UInt8.ofNat (k + 0xC0)) ∨
      (∃ k, k < 16 ∧ b = UInt8.ofNat (k + 0xE0)) ∨ ∃ k, k < 5 ∧ b = UInt8.ofNat (k + 0xF0) := by
  have hrange : 0xC2 ≤ b.toNat ∧ b.toNat < 0xF5 := by
    simp only [lead?, UInt8.lt_iff_toNat_lt, ← UInt8.toNat_inj, UInt8.reduceToNat] at h
    split_ifs at h <;> omega
  have hb : ∀ n, b.toNat = n → b = UInt8.ofNat n := by
    rintro n rfl
    exact (UInt8.ofNat_toNat).symm
  by_cases h₁ : b.toNat < 0xE0
  · exact .inl ⟨b.toNat - 0xC0, by omega, by omega, hb _ (by omega)⟩
  by_cases h₂ : b.toNat < 0xF0
  · exact .inr (.inl ⟨b.toNat - 0xE0, by omega, hb _ (by omega)⟩)
  · exact .inr (.inr ⟨b.toNat - 0xF0, by omega, hb _ (by omega)⟩)

/-! ## Continuation bytes -/

/-- Continuation bytes, the first of them from `low` to `high`. -/
def Tail (low high : UInt8) : Bytes → Prop
  | [] => True
  | b :: rest => (low ≤ b ∧ b ≤ high) ∧ Tail 0x80 0xBF rest

/-- The code that continuation bytes complete. -/
def spell (code : Nat) (tail : Bytes) : Nat := tail.foldl (fun n b => n * 64 + b.toNat % 64) code

theorem continue?_eq_ok_iff {code seen more : Nat} {low high : UInt8} {bytes rest : Bytes}
    {c : Char} :
    continue? code seen more low high bytes = .ok (c, rest) ↔
      ∃ tail, bytes = tail ++ rest ∧ tail.length = more ∧ Tail low high tail ∧
        c = Char.ofNat (spell code tail) := by
  induction more generalizing code seen low high bytes with
  | zero =>
    simp only [continue?, Except.ok.injEq, Prod.mk.injEq, List.length_eq_zero_iff]
    constructor
    · rintro ⟨rfl, rfl⟩
      exact ⟨[], rfl, rfl, trivial, rfl⟩
    · rintro ⟨_, rfl, rfl, -, rfl⟩
      exact ⟨rfl, rfl⟩
  | succ more ih =>
    cases bytes with
    | nil =>
      simp only [continue?, reduceCtorEq, false_iff]
      rintro ⟨tail, h, hlen, -⟩
      rw [(List.nil_eq_append_iff.1 h).1] at hlen
      cases hlen
    | cons b bytes =>
      rw [continue?]
      constructor
      · intro h
        split at h
        · next hb =>
          obtain ⟨tail, rfl, hlen, ht, hc⟩ := ih.1 h
          exact ⟨b :: tail, rfl, by rw [List.length_cons, hlen], ⟨hb, ht⟩, hc⟩
        · cases h
      · rintro ⟨tail, h, hlen, ht, hc⟩
        cases tail with
        | nil => cases hlen
        | cons x tail =>
          obtain ⟨rfl, rfl⟩ := List.cons.inj h
          rw [if_pos ht.1]
          exact ih.2 ⟨tail, rfl, Nat.succ.inj hlen, ht.2, hc⟩

/-! ## Characters -/

theorem toNat_ofNat {n : Nat} (h : n.isValidChar) : (Char.ofNat n).toNat = n := by
  rw [Char.ofNat, dif_pos h]
  exact UInt32.toNat_ofNatLT

theorem encode_one {n : Nat} (h : n < 0x80) :
    String.utf8EncodeChar (Char.ofNat n) = [UInt8.ofNat n] := by
  have hv : (Char.ofNat n).val.toNat = n := toNat_ofNat (.inl (by omega))
  simp only [String.utf8EncodeChar, hv]
  rw [if_pos (by omega)]

theorem encode_two {n : Nat} (h : 0x80 ≤ n) (h' : n < 0x800) :
    String.utf8EncodeChar (Char.ofNat n) =
      [UInt8.ofNat (n / 64 + 0xC0), UInt8.ofNat (n % 64 + 0x80)] := by
  have hv : (Char.ofNat n).val.toNat = n := toNat_ofNat (.inl (by omega))
  simp only [String.utf8EncodeChar, hv]
  rw [if_neg (by omega), if_pos (by omega), Nat.mod_eq_of_lt (by omega : n / 64 < 32)]

theorem encode_three {n : Nat} (h : 0x800 ≤ n) (h' : n < 0x10000)
    (hs : n < 0xD800 ∨ 0xDFFF < n) :
    String.utf8EncodeChar (Char.ofNat n) =
      [UInt8.ofNat (n / 4096 + 0xE0), UInt8.ofNat (n / 64 % 64 + 0x80),
       UInt8.ofNat (n % 64 + 0x80)] := by
  have hv : (Char.ofNat n).val.toNat = n :=
    toNat_ofNat (hs.imp_right fun hs => ⟨hs, by omega⟩)
  simp only [String.utf8EncodeChar, hv]
  rw [if_neg (by omega), if_neg (by omega), if_pos (by omega),
    Nat.mod_eq_of_lt (by omega : n / 4096 < 16)]

theorem encode_four {n : Nat} (h : 0x10000 ≤ n) (h' : n < 0x110000) :
    String.utf8EncodeChar (Char.ofNat n) =
      [UInt8.ofNat (n / 262144 + 0xF0), UInt8.ofNat (n / 4096 % 64 + 0x80),
       UInt8.ofNat (n / 64 % 64 + 0x80), UInt8.ofNat (n % 64 + 0x80)] := by
  have hv : (Char.ofNat n).val.toNat = n := toNat_ofNat (.inr ⟨by omega, h'⟩)
  simp only [String.utf8EncodeChar, hv]
  rw [if_neg (by omega), if_neg (by omega), if_neg (by omega),
    Nat.mod_eq_of_lt (by omega : n / 262144 < 8)]

theorem encode_spell {b : UInt8} {l : Lead} {tail : Bytes} (hl : lead? b = some l)
    (hlen : tail.length = l.more) (ht : Tail l.low l.high tail) :
    String.utf8EncodeChar (Char.ofNat (spell l.code tail)) = b :: tail := by
  rcases lead?_cases hl with ⟨k, hk, hk', rfl⟩ | ⟨k, hk, rfl⟩ | ⟨k, hk, rfl⟩
  · obtain rfl := Option.some.inj ((lead?_two hk hk').symm.trans hl)
    obtain ⟨x, rfl⟩ := List.length_eq_one_iff.1 hlen
    simp only [Tail, UInt8.le_iff_toNat_le, UInt8.reduceToNat, and_true] at ht
    change String.utf8EncodeChar (Char.ofNat (k * 64 + x.toNat % 64)) = _
    rw [encode_two (by omega) (by omega),
      (by omega : (k * 64 + x.toNat % 64) / 64 = k),
      (by omega : (k * 64 + x.toNat % 64) % 64 + 0x80 = x.toNat), UInt8.ofNat_toNat]
  · obtain rfl := Option.some.inj ((lead?_three hk).symm.trans hl)
    obtain ⟨x, y, rfl⟩ := List.length_eq_two.1 hlen
    simp only [Tail, UInt8.le_iff_toNat_le, UInt8.reduceToNat, and_true] at ht
    have hlow : k = 0 → 0xA0 ≤ x.toNat := fun h => by simpa [h] using ht.1.1
    have hhigh : k = 13 → x.toNat ≤ 0x9F := fun h => by simpa [h] using ht.1.2
    have hx : 0x80 ≤ x.toNat ∧ x.toNat ≤ 0xBF := by
      have := ht.1
      split_ifs at this <;> simp only [UInt8.reduceToNat] at this <;> omega
    change String.utf8EncodeChar
      (Char.ofNat ((k * 64 + x.toNat % 64) * 64 + y.toNat % 64)) = _
    rw [encode_three (by omega) (by omega) (by omega),
      (by omega : ((k * 64 + x.toNat % 64) * 64 + y.toNat % 64) / 4096 = k),
      (by omega : ((k * 64 + x.toNat % 64) * 64 + y.toNat % 64) / 64 % 64 + 0x80 = x.toNat),
      (by omega : ((k * 64 + x.toNat % 64) * 64 + y.toNat % 64) % 64 + 0x80 = y.toNat),
      UInt8.ofNat_toNat, UInt8.ofNat_toNat]
  · obtain rfl := Option.some.inj ((lead?_four hk).symm.trans hl)
    obtain ⟨x, y, z, rfl⟩ := List.length_eq_three.1 hlen
    simp only [Tail, UInt8.le_iff_toNat_le, UInt8.reduceToNat, and_true] at ht
    have hlow : k = 0 → 0x90 ≤ x.toNat := fun h => by simpa [h] using ht.1.1
    have hhigh : k = 4 → x.toNat ≤ 0x8F := fun h => by simpa [h] using ht.1.2
    have hx : 0x80 ≤ x.toNat ∧ x.toNat ≤ 0xBF := by
      have := ht.1
      split_ifs at this <;> simp only [UInt8.reduceToNat] at this <;> omega
    change String.utf8EncodeChar
      (Char.ofNat (((k * 64 + x.toNat % 64) * 64 + y.toNat % 64) * 64 + z.toNat % 64)) = _
    generalize hn : ((k * 64 + x.toNat % 64) * 64 + y.toNat % 64) * 64 + z.toNat % 64 = n
    rw [encode_four (by omega) (by omega), (by omega : n / 262144 = k),
      (by omega : n / 4096 % 64 + 0x80 = x.toNat), (by omega : n / 64 % 64 + 0x80 = y.toNat),
      (by omega : n % 64 + 0x80 = z.toNat), UInt8.ofNat_toNat, UInt8.ofNat_toNat,
      UInt8.ofNat_toNat]

/-- Bytes that **spell a character** by a lead byte and its continuation. -/
def Led (n : Nat) (bytes : Bytes) : Prop :=
  ∃ lead l tail, bytes = lead :: tail ∧ lead? lead = some l ∧ tail.length = l.more ∧
    Tail l.low l.high tail ∧ spell l.code tail = n

@[simp] theorem toNat_continuation (m : Nat) :
    (UInt8.ofNat (m % 64 + 0x80)).toNat = m % 64 + 0x80 :=
  toNat_ofNat_of_lt (by omega)

@[simp] theorem bits_continuation (m : Nat) :
    (UInt8.ofNat (m % 64 + 0x80)).toNat % 64 = m % 64 := by
  rw [toNat_continuation]
  omega

theorem led_two {n : Nat} (h : 0x80 ≤ n) (h' : n < 0x800) :
    Led n [UInt8.ofNat (n / 64 + 0xC0), UInt8.ofNat (n % 64 + 0x80)] := by
  refine ⟨_, _, _, rfl, lead?_two (k := n / 64) (by omega) (by omega), rfl, ?_, ?_⟩
  · simp only [Tail, UInt8.le_iff_toNat_le, toNat_continuation, UInt8.reduceToNat, and_true]
    omega
  · change n / 64 * 64 + _ % 64 = _
    rw [bits_continuation]
    omega

theorem led_three {n : Nat} (h : 0x800 ≤ n) (h' : n < 0x10000)
    (hs : n < 0xD800 ∨ 0xDFFF < n) :
    Led n [UInt8.ofNat (n / 4096 + 0xE0), UInt8.ofNat (n / 64 % 64 + 0x80),
      UInt8.ofNat (n % 64 + 0x80)] := by
  refine ⟨_, _, _, rfl, lead?_three (k := n / 4096) (by omega), rfl, ?_, ?_⟩
  · simp only [Tail, UInt8.le_iff_toNat_le, toNat_continuation, and_true]
    split_ifs <;> simp only [UInt8.reduceToNat] <;> omega
  · change (n / 4096 * 64 + _ % 64) * 64 + _ % 64 = _
    rw [bits_continuation, bits_continuation]
    omega

theorem led_four {n : Nat} (h : 0x10000 ≤ n) (h' : n < 0x110000) :
    Led n [UInt8.ofNat (n / 262144 + 0xF0), UInt8.ofNat (n / 4096 % 64 + 0x80),
      UInt8.ofNat (n / 64 % 64 + 0x80), UInt8.ofNat (n % 64 + 0x80)] := by
  refine ⟨_, _, _, rfl, lead?_four (k := n / 262144) (by omega), rfl, ?_, ?_⟩
  · simp only [Tail, UInt8.le_iff_toNat_le, toNat_continuation, and_true]
    split_ifs <;> simp only [UInt8.reduceToNat] <;> omega
  · change ((n / 262144 * 64 + _ % 64) * 64 + _ % 64) * 64 + _ % 64 = _
    rw [bits_continuation, bits_continuation, bits_continuation]
    omega

theorem encode_cases (c : Char) :
    (c.toNat < 0x80 ∧ String.utf8EncodeChar c = [UInt8.ofNat c.toNat]) ∨
      Led c.toNat (String.utf8EncodeChar c) := by
  have hvalid : c.toNat < 0xD800 ∨ 0xDFFF < c.toNat ∧ c.toNat < 0x110000 := c.valid
  obtain ⟨n, hn, rfl⟩ : ∃ n, c.toNat = n ∧ c = Char.ofNat n := ⟨_, rfl, c.ofNat_toNat.symm⟩
  rw [hn] at hvalid ⊢
  by_cases h₁ : n < 0x80
  · exact .inl ⟨h₁, encode_one h₁⟩
  right
  by_cases h₂ : n < 0x800
  · rw [encode_two (by omega) h₂]
    exact led_two (by omega) h₂
  by_cases h₃ : n < 0x10000
  · rw [encode_three (by omega) h₃ (by omega)]
    exact led_three (by omega) h₃ (by omega)
  · rw [encode_four (by omega) (by omega)]
    exact led_four (by omega) (by omega)

theorem not_lt_of_lead? {b : UInt8} {l : Lead} (h : lead? b = some l) : ¬ b < 0x80 := by
  simp only [UInt8.lt_iff_toNat_lt, UInt8.reduceToNat]
  rcases lead?_cases h with ⟨k, -, hk, rfl⟩ | ⟨k, hk, rfl⟩ | ⟨k, hk, rfl⟩ <;>
    rw [toNat_ofNat_of_lt (by omega)] <;> omega

/-- A character is read exactly when the bytes **begin with its encoding**. -/
theorem next_eq_ok_iff {b : UInt8} {bytes rest : Bytes} {c : Char} :
    next b bytes = .ok (c, rest) ↔ b :: bytes = String.utf8EncodeChar c ++ rest := by
  constructor
  · intro h
    unfold next at h
    split at h
    · next hb =>
      simp only [Except.ok.injEq, Prod.mk.injEq] at h
      obtain ⟨rfl, rfl⟩ := h
      rw [encode_one (UInt8.lt_iff_toNat_lt.1 hb), UInt8.ofNat_toNat, List.cons_append,
        List.nil_append]
    · split at h
      · cases h
      · next l hl =>
        obtain ⟨tail, rfl, hlen, ht, rfl⟩ := continue?_eq_ok_iff.1 h
        rw [encode_spell hl hlen ht, List.cons_append]
  · intro h
    rcases encode_cases c with ⟨hc, he⟩ | ⟨lead, l, tail, he, hl, hlen, ht, hc⟩ <;>
      rw [he] at h <;> obtain ⟨rfl, rfl⟩ := List.cons.inj h
    · have hb : (UInt8.ofNat c.toNat).toNat = c.toNat := toNat_ofNat_of_lt (by omega)
      rw [next, if_pos (UInt8.lt_iff_toNat_lt.2 (by rw [hb]; exact hc)), hb, Char.ofNat_toNat]
    · rw [next, if_neg (not_lt_of_lead? hl), hl]
      exact continue?_eq_ok_iff.2 ⟨tail, rfl, hlen, ht, by rw [hc, Char.ofNat_toNat]⟩

/-! ## Texts -/

theorem encode_cons (c : Char) (text : List Char) :
    encode (c :: text) = String.utf8EncodeChar c ++ encode text := by
  rw [encode_eq_flatMap, encode_eq_flatMap, List.flatMap_cons]

theorem encode_ne_cons_of_error {b : UInt8} {bytes : Bytes} {fault : Nat × Flaw}
    (h : next b bytes = .error fault) (text : List Char) : b :: bytes ≠ encode text := by
  cases text with
  | nil => nofun
  | cons c text =>
    intro htext
    rw [encode_cons] at htext
    cases h.symm.trans (next_eq_ok_iff.2 htext)

theorem encode_eq_cons_iff {b : UInt8} {bytes rest : Bytes} {c : Char} {text : List Char}
    (h : next b bytes = .ok (c, rest)) :
    b :: bytes = encode text ↔ ∃ more, text = c :: more ∧ rest = encode more := by
  constructor
  · intro htext
    cases text with
    | nil => cases htext
    | cons x text =>
      rw [encode_cons] at htext
      cases h.symm.trans (next_eq_ok_iff.2 htext)
      exact ⟨text, rfl, rfl⟩
  · rintro ⟨more, rfl, rfl⟩
    rw [next_eq_ok_iff.1 h, encode_cons]

theorem decodeFrom_cons (offset : Nat) (done : List Char) (b : UInt8) (bytes : Bytes) :
    decodeFrom offset done (b :: bytes) = match next b bytes with
      | .error (length, flaw) => .error ⟨offset, b, length, flaw⟩
      | .ok (c, rest) => decodeFrom (offset + c.utf8Size) (c :: done) rest := by
  rw [decodeFrom]
  split <;> simp only [*]

theorem decodeFrom_eq_ok_iff {offset : Nat} {done text : List Char} {bytes : Bytes} :
    decodeFrom offset done bytes = .ok text ↔
      ∃ more, text = done.reverse ++ more ∧ bytes = encode more := by
  induction offset, done, bytes using decodeFrom.induct generalizing text with
  | case1 offset done =>
    rw [decodeFrom, Except.ok.injEq]
    constructor
    · rintro rfl
      exact ⟨[], (List.append_nil _).symm, rfl⟩
    · rintro ⟨more, rfl, h⟩
      cases more with
      | nil => exact (List.append_nil _).symm
      | cons c more =>
        rw [encode_cons] at h
        exact absurd (List.append_eq_nil_iff.1 h.symm).1 String.utf8EncodeChar_ne_nil
  | case2 offset done b bytes length flaw hn =>
    rw [decodeFrom_cons, hn]
    simp only [reduceCtorEq, false_iff]
    rintro ⟨more, -, h⟩
    exact encode_ne_cons_of_error hn more h
  | case3 offset done b bytes c rest hn ih =>
    rw [decodeFrom_cons, hn]
    simp only [ih, encode_eq_cons_iff hn, List.reverse_cons, List.append_assoc,
      List.singleton_append]
    constructor
    · rintro ⟨more, rfl, h⟩
      exact ⟨c :: more, rfl, more, rfl, h⟩
    · rintro ⟨_, rfl, more, rfl, h⟩
      exact ⟨more, rfl, h⟩

/-- Bytes are **the text that they encode**. -/
theorem decode_eq_ok_iff {bytes : Bytes} {text : List Char} :
    decode bytes = .ok text ↔ bytes = encode text := by
  rw [decode, decodeFrom_eq_ok_iff]
  constructor
  · rintro ⟨more, rfl, h⟩
    exact h
  · intro h
    exact ⟨text, rfl, h⟩

/-- Bytes are the string that they encode. -/
theorem decodeString_eq_ok_iff {bytes : Bytes} {text : String} :
    decodeString bytes = .ok text ↔ bytes = encodeString text := by
  rw [decodeString, encodeString, ← decode_eq_ok_iff]
  cases decode bytes with
  | error fault => simp [Except.map]
  | ok chars =>
    simp only [Except.map, Except.ok.injEq]
    constructor
    · rintro rfl
      exact String.toList_ofList.symm
    · rintro rfl
      exact String.ofList_toList

theorem encodeString_injective {s t : String} (h : encodeString s = encodeString t) : s = t :=
  Except.ok.inj ((decodeString_eq_ok_iff.2 rfl).symm.trans (decodeString_eq_ok_iff.2 h))

end Drift.Utf8
