import Drift.Proofs.Utf8
import Drift.Text.Encoding

/-!
# Encodings beside UTF-8

* `Encoding.Charwise` — an encoding lays a text down character by character; `charwise_utf8`,
  `charwise_ascii`, `charwise_latin1`, `charwise_utf16`.
* `Encoding.flatMap_eq_iff` — where one of two spellings of a character is lighter unless they are
  the same, a text is spelled alike only when each of its characters is.
* `Encoding.flatMap_latin1_eq_iff` — the bytes of a text in Latin-1 are its UTF-8 exactly when it is
  ASCII.
* `Encoding.flatMap_utf16_eq_iff` — in UTF-16 they are only when the text is empty.
-/

namespace Drift.Encoding

open Bytes (toNat_ofNat_of_lt)

/-! ## Character by character -/

/-- The bytes of a text are **those of its characters**, one after the other. -/
def Charwise (e : Encoding) (f : Char → Bytes) : Prop :=
  ∀ text bytes, e.encode text = .ok bytes → bytes = text.flatMap f

theorem charwise_utf8 : Charwise utf8 String.utf8EncodeChar := by
  intro text bytes h
  obtain rfl := Except.ok.inj h
  exact Utf8.encode_eq_flatMap text

theorem charwise_utf16 (order : ByteOrder) : Charwise (utf16 (some order)) (pairBytes order) :=
  fun _ _ h => (Except.ok.inj h).symm

theorem encodeNarrow_eq_ok {e : Encoding} {table : Array Char} {f : Char → Bytes}
    (hf : ∀ c b, e.byte? table c = some b → f c = [b]) {offset : Nat} {done bytes : Bytes}
    {text : List Char} (h : encodeNarrow e table offset done text = .ok bytes) :
    bytes = done.reverse ++ text.flatMap f := by
  induction text generalizing offset done with
  | nil =>
    obtain rfl := Except.ok.inj h
    rw [List.flatMap_nil, List.append_nil]
  | cons c text ih =>
    rw [encodeNarrow] at h
    cases hc : e.byte? table c with
    | none => rw [hc] at h; cases h
    | some b =>
      rw [hc] at h
      rw [ih h, List.reverse_cons, List.append_assoc, List.flatMap_cons, hf c b hc]

theorem charwise_narrow {e : Encoding} {f : Char → Bytes}
    (he : ∀ text, e.encode text = (encodeNarrow e #[] 0 [] text).mapError .run)
    (hf : ∀ c b, e.byte? #[] c = some b → f c = [b]) : Charwise e f := by
  intro text bytes h
  rw [he] at h
  cases hnarrow : encodeNarrow e #[] 0 [] text with
  | error => rw [hnarrow] at h; cases h
  | ok bytes' =>
    rw [hnarrow] at h
    obtain rfl := Except.ok.inj h
    exact encodeNarrow_eq_ok hf hnarrow

theorem utf8EncodeChar_of_lt {c : Char} (h : c.toNat < 0x80) :
    String.utf8EncodeChar c = [UInt8.ofNat c.toNat] := by
  rw [← Utf8.encode_one h, Char.ofNat_toNat]

theorem charwise_ascii : Charwise ascii String.utf8EncodeChar := by
  refine charwise_narrow (fun _ => rfl) fun c b h => ?_
  change (if c.toNat < 128 then some (UInt8.ofNat c.toNat) else none) = some b at h
  split at h
  · next hc => rw [utf8EncodeChar_of_lt hc, Option.some.inj h]
  · cases h

theorem charwise_latin1 : Charwise latin1 fun c => [UInt8.ofNat c.toNat] := by
  refine charwise_narrow (fun _ => rfl) fun c b h => ?_
  change (if c.toNat < 256 then some (UInt8.ofNat c.toNat) else none) = some b at h
  split at h
  · rw [Option.some.inj h]
  · cases h

/-! ## Weights -/

/-- What bytes **weigh together**. -/
def weight (w : UInt8 → Int) : Bytes → Int
  | [] => 0
  | b :: bytes => w b + weight w bytes

section

variable {w : UInt8 → Int}

@[simp] theorem weight_nil : weight w [] = 0 := rfl

@[simp] theorem weight_cons (b : UInt8) (bytes : Bytes) :
    weight w (b :: bytes) = w b + weight w bytes := rfl

@[simp] theorem weight_append (front back : Bytes) :
    weight w (front ++ back) = weight w front + weight w back := by
  induction front with
  | nil => rw [List.nil_append, weight_nil, Int.zero_add]
  | cons b front ih => rw [List.cons_append, weight_cons, weight_cons, ih, Int.add_assoc]

@[simp] theorem weight_reverse (bytes : Bytes) : weight w bytes.reverse = weight w bytes := by
  induction bytes with
  | nil => rfl
  | cons b bytes ih =>
    rw [List.reverse_cons, weight_append, ih, weight_cons, weight_cons, weight_nil, Int.add_zero,
      Int.add_comm]

@[simp] theorem weight_unitBytes (order : ByteOrder) (width n : Nat) :
    weight w (unitBytes order width n) = weight w (Bytes.bigEndian width n) := by
  cases order with
  | little => exact weight_reverse _
  | big => rfl

theorem weight_one (bytes : Bytes) : weight (fun _ => 1) bytes = bytes.length := by
  induction bytes with
  | nil => rfl
  | cons b bytes ih => rw [weight_cons, ih, List.length_cons, Int.natCast_succ, Int.add_comm]

variable {f g : Char → Bytes}

theorem weight_flatMap_le (h : ∀ c, weight w (f c) ≤ weight w (g c)) (text : List Char) :
    weight w (text.flatMap f) ≤ weight w (text.flatMap g) := by
  induction text with
  | nil => exact Int.le_refl _
  | cons c text ih =>
    rw [List.flatMap_cons, List.flatMap_cons, weight_append, weight_append]
    exact Int.add_le_add (h c) ih

/-- Where the first spelling of a character is the lighter one unless both are the same, a text is
spelled alike **only when each of its characters is**. -/
theorem flatMap_eq_iff (h : ∀ c, f c = g c ∨ weight w (f c) < weight w (g c)) {text : List Char} :
    text.flatMap f = text.flatMap g ↔ ∀ c ∈ text, f c = g c := by
  have hle : ∀ c, weight w (f c) ≤ weight w (g c) := fun c =>
    (h c).elim (fun hc => Int.le_of_eq (congrArg _ hc)) Int.le_of_lt
  induction text with
  | nil => exact iff_of_true rfl nofun
  | cons c text ih =>
    rw [List.forall_mem_cons, List.flatMap_cons, List.flatMap_cons]
    rcases h c with hc | hc
    · rw [hc, List.append_cancel_left_eq]
      exact ih.trans (and_iff_right rfl).symm
    · refine iff_of_false (fun heq => ?_) fun heq => ?_
      · have hsum := congrArg (weight w) heq
        have hrest := weight_flatMap_le hle text
        simp only [weight_append] at hsum
        omega
      · rw [heq.1] at hc
        exact absurd hc (Int.lt_irrefl _)

theorem flatMap_eq_iff_of_lt (h : ∀ c, weight w (f c) < weight w (g c)) {text : List Char} :
    text.flatMap f = text.flatMap g ↔ text = [] := by
  rw [flatMap_eq_iff fun c => .inr (h c)]
  refine ⟨fun heq => List.eq_nil_iff_forall_not_mem.2 fun c hc => ?_, by rintro rfl; nofun⟩
  have hlt := h c
  rw [heq c hc] at hlt
  exact Int.lt_irrefl _ hlt

end

/-! ## Latin-1 -/

theorem utf8EncodeChar_of_le {c : Char} (h : 0x80 ≤ c.toNat) :
    2 ≤ (String.utf8EncodeChar c).length := by
  rw [String.length_utf8EncodeChar]
  have hpos := c.utf8Size_pos
  have hone : c.utf8Size ≠ 1 := fun hone => by
    have hval : c.toNat ≤ 0x7F := UInt32.le_iff_toNat_le.1 (Char.utf8Size_eq_one_iff.1 hone)
    omega
  omega

/-- The bytes of a text in Latin-1 are **its UTF-8 exactly when it is ASCII**. -/
theorem flatMap_latin1_eq_iff {text : List Char} :
    (text.flatMap fun c => [UInt8.ofNat c.toNat]) = text.flatMap String.utf8EncodeChar ↔
      ∀ c ∈ text, c.toNat < 0x80 := by
  rw [flatMap_eq_iff (w := fun _ => 1) fun c => ?_]
  · refine forall₂_congr fun c _ => ⟨fun heq => ?_, fun hc => (utf8EncodeChar_of_lt hc).symm⟩
    by_contra hc
    have htwo := utf8EncodeChar_of_le (Nat.le_of_not_lt hc)
    rw [← heq, List.length_singleton] at htwo
    omega
  · by_cases hc : c.toNat < 0x80
    · exact .inl (utf8EncodeChar_of_lt hc).symm
    · have htwo := utf8EncodeChar_of_le (Nat.le_of_not_lt hc)
      right
      rw [weight_one, weight_one, List.length_singleton]
      omega

/-! ## UTF-16 -/

/-- The balance of a byte: one for ASCII, nothing for a byte that **leads a surrogate** in UTF-16,
and one less for any other. -/
def balance (b : UInt8) : Int :=
  if b.toNat < 0x80 then 1 else if 0xD8 ≤ b.toNat ∧ b.toNat < 0xE0 then 0 else -1

theorem neg_one_le_balance (b : UInt8) : -1 ≤ balance b := by
  unfold balance
  split_ifs <;> decide

theorem balance_ofNat {n : Nat} (h : n < 256) :
    balance (UInt8.ofNat n) = if n < 0x80 then 1 else if 0xD8 ≤ n ∧ n < 0xE0 then 0 else -1 := by
  rw [balance, toNat_ofNat_of_lt h]

theorem balance_continuation (n : Nat) : balance (UInt8.ofNat (n % 64 + 0x80)) = -1 := by
  rw [balance_ofNat (by omega), if_neg (by omega), if_neg (by omega)]

theorem balance_lead {n : Nat} (h : 0xE0 ≤ n) (h' : n < 256) : balance (UInt8.ofNat n) = -1 := by
  rw [balance_ofNat h', if_neg (by omega), if_neg (by omega)]

theorem balance_surrogate {n : Nat} (h : 0xD800 ≤ n) (h' : n < 0xE000) :
    balance (UInt8.ofNat (n / 256)) = 0 := by
  rw [balance_ofNat (by omega), if_neg (by omega), if_pos (by omega)]

theorem weight_pair (order : ByteOrder) (n : Nat) :
    weight balance (unitBytes order 2 n) =
      balance (UInt8.ofNat (n / 256)) + balance (UInt8.ofNat n) := by
  rw [weight_unitBytes]
  change balance (UInt8.ofNat (n / 256)) + (balance (UInt8.ofNat (n / 1)) + 0) = _
  rw [Nat.div_one, Int.add_zero]

theorem balance_utf8_lt_utf16 (order : ByteOrder) (c : Char) :
    weight balance (String.utf8EncodeChar c) < weight balance (pairBytes order c) := by
  have hvalid : c.toNat < 0xD800 ∨ 0xDFFF < c.toNat ∧ c.toNat < 0x110000 := c.valid
  obtain ⟨n, hn, rfl⟩ : ∃ n, c.toNat = n ∧ c = Char.ofNat n := ⟨_, rfl, c.ofNat_toNat.symm⟩
  rw [hn] at hvalid
  rw [pairBytes, hn]
  have hlow := fun m => neg_one_le_balance (UInt8.ofNat m)
  by_cases h₃ : n < 0x10000
  · rw [if_pos h₃, weight_pair]
    have hn₁ := hlow n
    have hn₂ := hlow (n / 256)
    by_cases h₁ : n < 0x80
    · -- One byte of ASCII stands against two.
      rw [Utf8.encode_one h₁, weight_cons, weight_nil, Nat.div_eq_of_lt (by omega),
        balance_ofNat (by omega : n < 256), if_pos h₁]
      decide
    by_cases h₂ : n < 0x800
    · -- The high byte of the unit is ASCII, and neither byte of UTF-8 is.
      rw [Utf8.encode_two (by omega) h₂, weight_cons, weight_cons, weight_nil,
        balance_continuation, balance_ofNat (by omega : n / 256 < 256), if_pos (by omega),
        balance_ofNat (by omega)]
      split_ifs <;> omega
    · -- Three bytes are taken away against two.
      rw [Utf8.encode_three (by omega) h₃ (by omega)]
      simp only [weight_cons, weight_nil, balance_continuation]
      rw [balance_lead (by omega) (by omega)]
      omega
  · -- Four bytes are taken away against two: those that lead the surrogates weigh nothing.
    rw [if_neg h₃, weight_append, weight_pair, weight_pair, Utf8.encode_four (by omega) (by omega)]
    simp only [weight_cons, weight_nil, balance_continuation]
    rw [balance_lead (by omega) (by omega), balance_surrogate (by omega) (by omega),
      balance_surrogate (by omega) (by omega)]
    have hn₁ := hlow (0xD800 + (n - 0x10000) / 1024)
    have hn₂ := hlow (0xDC00 + (n - 0x10000) % 1024)
    omega

/-- No text but the empty one has **the same bytes in UTF-16** as in UTF-8. -/
theorem flatMap_utf16_eq_iff (order : ByteOrder) {text : List Char} :
    text.flatMap (pairBytes order) = text.flatMap String.utf8EncodeChar ↔ text = [] := by
  rw [eq_comm]
  exact flatMap_eq_iff_of_lt (balance_utf8_lt_utf16 order)

end Drift.Encoding
