import Drift.Proofs.MessagePack.Form
import Drift.Proofs.Utf8
import Mathlib.Tactic.FinCases

/-!
# The reader follows the grammar

* `head_eq_ok_iff` — a head is read exactly from its forms.
* `Reads` — within some number of bytes, a reader finds exactly the things whose form the bytes
  begin with; `reads_several`, `reads_pair`, `reads_read` show it of rows, pairs and values.
* `readText_eq_ok_iff`, `readBinary_eq_ok_iff`, `readExtension_eq_ok_iff` — what is read behind the
  head of a text, of bytes and of an extension; `readRow_eq_ok_iff` — what is read behind that of a
  container. The limits on lengths never stand in the way of a form that is there.
* **`unpack_eq_ok_iff`** — a message holds a value exactly when it is a form of it;
  `unpack_eq_extraData` and `exists_unpack_eq_error` refuse what is longer or shorter than a form.
-/

namespace Drift.MessagePack

open Bytes (bound bigEndian twos toNat_ofNat_of_lt)

/-! ## Numbers -/

theorem taking_eq_ok_iff {n : Nat} {bytes part rest : Bytes} :
    taking n bytes = .ok (part, rest) ↔ bytes = part ++ rest ∧ part.length = n := by
  rw [← Bytes.take?_eq_some_iff, taking]
  cases bytes.take? n <;> simp

theorem unsigned_eq_ok_iff {width n : Nat} {bytes rest : Bytes} :
    unsigned width bytes = .ok (n, rest) ↔ n < bound width ∧ bytes = bigEndian width n ++ rest := by
  constructor
  · intro h
    unfold unsigned at h
    split at h
    · next part _ ht =>
      obtain ⟨rfl, hlen⟩ := taking_eq_ok_iff.1 ht
      cases h
      obtain ⟨hn, hp⟩ := Bytes.eq_bigEndian_iff.1 ⟨hlen, rfl⟩
      exact ⟨hn, by rw [← hp]⟩
    · cases h
  · rintro ⟨hn, rfl⟩
    obtain ⟨hlen, hnum⟩ := Bytes.eq_bigEndian_iff.2 ⟨hn, rfl⟩
    rw [unsigned, taking_eq_ok_iff.2 ⟨rfl, hlen⟩]
    exact congrArg (fun n => Except.ok (n, rest)) hnum

theorem signed_eq_ok_iff {width : Nat} {z : Int} {bytes rest : Bytes} :
    signed width bytes = .ok (z, rest) ↔
      (-(bound width : Int) ≤ 2 * z ∧ 2 * z < bound width) ∧ bytes = twos width z ++ rest := by
  constructor
  · intro h
    unfold signed at h
    split at h
    · next part _ ht =>
      obtain ⟨rfl, hlen⟩ := taking_eq_ok_iff.1 ht
      cases h
      obtain ⟨hz, hp⟩ := Bytes.eq_twos_iff.1 ⟨hlen, rfl⟩
      exact ⟨hz, by rw [← hp]⟩
    · cases h
  · rintro ⟨hz, rfl⟩
    obtain ⟨hlen, hnum⟩ := Bytes.eq_twos_iff.2 ⟨hz, rfl⟩
    rw [signed, taking_eq_ok_iff.2 ⟨rfl, hlen⟩]
    exact congrArg (fun z => Except.ok (z, rest)) hnum

theorem Reader.head_eq_ok_iff {α : Type} {r : Reader α} {f : α → Head} {h : Head}
    {bytes rest : Bytes} :
    r.head f bytes = .ok (h, rest) ↔ ∃ a, r bytes = .ok (a, rest) ∧ f a = h := by
  unfold Reader.head
  cases r bytes with
  | error fault => simp
  | ok found =>
    obtain ⟨a, rest'⟩ := found
    simp only [Except.ok.injEq, Prod.mk.injEq]
    constructor
    · rintro ⟨rfl, rfl⟩
      exact ⟨a, ⟨rfl, rfl⟩, rfl⟩
    · rintro ⟨_, ⟨rfl, rfl⟩, rfl⟩
      exact ⟨rfl, rfl⟩

/-! ## Heads -/

theorem unsigned_head_eq_ok_iff {width : Nat} {f : Nat → Head} {h : Head} {bytes rest : Bytes} :
    (unsigned width).head f bytes = .ok (h, rest) ↔
      ∃ n, n < bound width ∧ bytes = bigEndian width n ++ rest ∧ f n = h := by
  rw [Reader.head_eq_ok_iff]
  simp only [unsigned_eq_ok_iff, and_assoc]

theorem signed_head_eq_ok_iff {width : Nat} {f : Int → Head} {h : Head} {bytes rest : Bytes} :
    (signed width).head f bytes = .ok (h, rest) ↔
      ∃ z : Int, (-(bound width : Int) ≤ 2 * z ∧ 2 * z < bound width) ∧
        bytes = twos width z ++ rest ∧ f z = h := by
  rw [Reader.head_eq_ok_iff]
  simp only [signed_eq_ok_iff, and_assoc]

theorem eq_tag {b : UInt8} {n : Nat} (h : b.toNat = n) : b = UInt8.ofNat n := by
  rw [← h, UInt8.ofNat_toNat]

theorem form_of_unsigned {tags : List (UInt8 × Nat)} {b : UInt8} {n width : Nat} {f : Nat → Head}
    {h : Head} {bytes rest : Bytes} (hr : (unsigned width).head f bytes = .ok (h, rest))
    (hb : b.toNat = n) (ht : (UInt8.ofNat n, width) ∈ tags)
    (hf : ∀ {n form}, Counted tags n form → HeadForm (f n) form) :
    ∃ form, HeadForm h form ∧ b :: bytes = form ++ rest := by
  obtain ⟨m, hm, rfl, rfl⟩ := unsigned_head_eq_ok_iff.1 hr
  exact ⟨_, hf ⟨_, ht, hm, rfl⟩, by rw [eq_tag hb, List.cons_append]⟩

theorem form_of_signed {b : UInt8} {n width : Nat} {h : Head} {bytes rest : Bytes}
    (hr : (signed width).head (fun z => .scalar (.int z)) bytes = .ok (h, rest))
    (hb : b.toNat = n) (ht : (UInt8.ofNat n, width) ∈ signedTags) :
    ∃ form, HeadForm h form ∧ b :: bytes = form ++ rest := by
  obtain ⟨z, hz, rfl, rfl⟩ := signed_head_eq_ok_iff.1 hr
  exact ⟨_, .signed ht hz, by rw [eq_tag hb, List.cons_append]⟩

theorem form_of_packed {base limit n : Nat} {b : UInt8} {f : Nat → Head} {h : Head}
    {bytes rest : Bytes} (hr : (Except.ok (f n, bytes) : Except Fault _) = .ok (h, rest))
    (hb : b.toNat = base + n) (hn : n < limit)
    (hf : ∀ {n form}, Packed base limit n form → HeadForm (f n) form) :
    ∃ form, HeadForm h form ∧ b :: bytes = form ++ rest := by
  cases hr
  exact ⟨_, hf ⟨hn, rfl⟩, by rw [eq_tag hb, List.cons_append, List.nil_append]⟩

theorem form_of_tag {k : Nat} (hk : k < 0x20) {h : Head} {bytes rest : Bytes}
    (hr : headOf (UInt8.ofNat (0xC0 + k)) bytes = .ok (h, rest)) :
    ∃ form, HeadForm h form ∧ UInt8.ofNat (0xC0 + k) :: bytes = form ++ rest := by
  match k, hk with
  | 0x00, _ => cases hr; exact ⟨_, .nil, rfl⟩
  | 0x01, _ => cases hr
  | 0x02, _ => cases hr; exact ⟨_, .no, rfl⟩
  | 0x03, _ => cases hr; exact ⟨_, .yes, rfl⟩
  | 0x04, _ | 0x05, _ | 0x06, _ => exact form_of_unsigned hr rfl (by decide) .binary
  | 0x07, _ | 0x08, _ | 0x09, _ => exact form_of_unsigned hr rfl (by decide) .extension
  | 0x0A, _ =>
    obtain ⟨n, hn, rfl, rfl⟩ := unsigned_head_eq_ok_iff.1 hr
    have hn : n % 2 ^ 32 = n := Nat.mod_eq_of_lt hn
    refine ⟨_, .single (UInt32.ofNat n), ?_⟩
    rw [UInt32.toNat_ofNat', hn]
    rfl
  | 0x0B, _ =>
    obtain ⟨n, hn, rfl, rfl⟩ := unsigned_head_eq_ok_iff.1 hr
    have hn : n % 2 ^ 64 = n := Nat.mod_eq_of_lt hn
    refine ⟨_, .double (UInt64.ofNat n), ?_⟩
    rw [UInt64.toNat_ofNat', hn]
    rfl
  | 0x0C, _ | 0x0D, _ | 0x0E, _ | 0x0F, _ =>
    exact form_of_unsigned (f := fun n => .scalar (.int n)) hr rfl (by decide) .unsigned
  | 0x10, _ | 0x11, _ | 0x12, _ | 0x13, _ => exact form_of_signed hr rfl (by decide)
  | 0x14, _ => cases hr; exact ⟨_, .sizedExtension (t := (0xD4, 1)) (by decide), rfl⟩
  | 0x15, _ => cases hr; exact ⟨_, .sizedExtension (t := (0xD5, 2)) (by decide), rfl⟩
  | 0x16, _ => cases hr; exact ⟨_, .sizedExtension (t := (0xD6, 4)) (by decide), rfl⟩
  | 0x17, _ => cases hr; exact ⟨_, .sizedExtension (t := (0xD7, 8)) (by decide), rfl⟩
  | 0x18, _ => cases hr; exact ⟨_, .sizedExtension (t := (0xD8, 16)) (by decide), rfl⟩
  | 0x19, _ | 0x1A, _ | 0x1B, _ => exact form_of_unsigned hr rfl (by decide) .text
  | 0x1C, _ | 0x1D, _ => exact form_of_unsigned hr rfl (by decide) .array
  | 0x1E, _ | 0x1F, _ => exact form_of_unsigned hr rfl (by decide) .map
  | k + 0x20, hk => exact absurd hk (by omega)

theorem form_of_headOf {b : UInt8} {h : Head} {bytes rest : Bytes}
    (hr : headOf b bytes = .ok (h, rest)) :
    ∃ form, HeadForm h form ∧ b :: bytes = form ++ rest := by
  have hlt := b.toNat_lt
  by_cases htag : 0xC0 ≤ b.toNat ∧ b.toNat < 0xE0
  · have hb : b = UInt8.ofNat (0xC0 + (b.toNat - 0xC0)) := eq_tag (by omega)
    rw [hb] at hr ⊢
    exact form_of_tag (by omega) hr
  unfold headOf at hr
  simp only at hr
  split at hr
  · exact form_of_packed (f := fun n => .scalar (.int n)) hr (by omega) (by omega) .positive
  split at hr
  · exact form_of_packed (f := .map) hr (by omega) (by omega) .shortMap
  split at hr
  · exact form_of_packed (f := .array) hr (by omega) (by omega) .shortArray
  split at hr
  · exact form_of_packed (f := .text) hr (by omega) (by omega) .shortText
  · have hvalue : (b.toNat : Int) - 256 = ((b.toNat - 0xE0 : Nat) : Int) - 0x20 := by omega
    rw [if_pos (by omega), hvalue] at hr
    exact form_of_packed (f := fun n => .scalar (.int ((n : Int) - 0x20))) hr (by omega)
      (by omega) .negative

theorem head_of_counted {tags : List (UInt8 × Nat)} {n : Nat} {form : Bytes} {f : Nat → Head}
    (hc : Counted tags n form) (rest : Bytes)
    (hr : ∀ t ∈ tags, ∀ bytes, headOf t.1 bytes = (unsigned t.2).head f bytes) :
    head (form ++ rest) = .ok (f n, rest) := by
  obtain ⟨t, ht, hn, rfl⟩ := hc
  rw [List.cons_append, head, hr t ht]
  exact unsigned_head_eq_ok_iff.2 ⟨n, hn, rfl, rfl⟩

theorem headOf_signed : ∀ t ∈ signedTags, ∀ bytes,
    headOf t.1 bytes = (signed t.2).head (fun z => .scalar (.int z)) bytes := by
  intro t ht bytes
  fin_cases ht <;> rfl

theorem headOf_sizedExtension : ∀ t ∈ sizedExtensionTags, ∀ bytes,
    headOf t.1 bytes = .ok (.extension t.2, bytes) := by
  intro t ht bytes
  fin_cases ht <;> rfl

theorem head_of_packed {base limit n : Nat} {form : Bytes} {h : Head} (hp : Packed base limit n form)
    (hbase : base + limit ≤ 0x100) (rest : Bytes)
    (hr : ∀ b : UInt8, b.toNat = base + n → n < limit → headOf b rest = .ok (h, rest)) :
    head (form ++ rest) = .ok (h, rest) := by
  obtain ⟨hn, rfl⟩ := hp
  exact hr _ (toNat_ofNat_of_lt (by omega)) hn

theorem head_of_form {h : Head} {form : Bytes} (hf : HeadForm h form) (rest : Bytes) :
    head (form ++ rest) = .ok (h, rest) := by
  cases hf with
  | nil | no | yes => rfl
  | positive hp =>
    refine head_of_packed hp (by decide) rest fun b hb hn => ?_
    rw [headOf, hb, if_pos (by omega), Nat.zero_add]
  | @negative n _ hp =>
    refine head_of_packed hp (by decide) rest fun b hb hn => ?_
    rw [headOf, hb, if_neg (by omega), if_neg (by omega), if_neg (by omega), if_neg (by omega),
      if_pos (by omega), (by omega : ((0xE0 + n : Nat) : Int) - 256 = (n : Int) - 0x20)]
  | unsigned hc =>
    exact head_of_counted (f := fun n => .scalar (.int n)) hc rest fun t ht bytes => by
      fin_cases ht <;> rfl
  | @signed t z ht hz =>
    rw [List.cons_append, head, headOf_signed t ht]
    exact signed_head_eq_ok_iff.2 ⟨z, hz, rfl, rfl⟩
  | single bits =>
    refine unsigned_head_eq_ok_iff.2 ⟨bits.toNat, bits.toNat_lt, rfl, ?_⟩
    rw [UInt32.ofNat_toNat]
  | double bits =>
    refine unsigned_head_eq_ok_iff.2 ⟨bits.toNat, bits.toNat_lt, rfl, ?_⟩
    rw [UInt64.ofNat_toNat]
  | shortText hp =>
    refine head_of_packed hp (by decide) rest fun b hb hn => ?_
    rw [headOf, hb, if_neg (by omega), if_neg (by omega), if_neg (by omega), if_pos (by omega),
      Nat.add_sub_cancel_left]
  | text hc => exact head_of_counted hc rest fun t ht bytes => by fin_cases ht <;> rfl
  | binary hc => exact head_of_counted hc rest fun t ht bytes => by fin_cases ht <;> rfl
  | sizedExtension ht => exact headOf_sizedExtension _ ht rest
  | extension hc => exact head_of_counted hc rest fun t ht bytes => by fin_cases ht <;> rfl
  | shortArray hp =>
    refine head_of_packed hp (by decide) rest fun b hb hn => ?_
    rw [headOf, hb, if_neg (by omega), if_neg (by omega), if_pos (by omega),
      Nat.add_sub_cancel_left]
  | array hc => exact head_of_counted hc rest fun t ht bytes => by fin_cases ht <;> rfl
  | shortMap hp =>
    refine head_of_packed hp (by decide) rest fun b hb hn => ?_
    rw [headOf, hb, if_neg (by omega), if_pos (by omega), Nat.add_sub_cancel_left]
  | map hc => exact head_of_counted hc rest fun t ht bytes => by fin_cases ht <;> rfl

theorem head_eq_ok_iff {h : Head} {bytes rest : Bytes} :
    head bytes = .ok (h, rest) ↔ ∃ form, HeadForm h form ∧ bytes = form ++ rest := by
  constructor
  · intro hr
    cases bytes with
    | nil => cases hr
    | cons b bytes => exact form_of_headOf hr
  · rintro ⟨form, hf, rfl⟩
    exact head_of_form hf rest

/-! ## Extensions -/

theorem moment_of_timestamp {data : Bytes} {v : Value} (h : timestamp data = .ok v) :
    ∃ s n, Moment s n data ∧ v = .timestamp s n := by
  unfold timestamp at h
  simp only at h
  split at h
  · next hlen =>
    obtain ⟨hn, hd⟩ := Bytes.eq_bigEndian_iff.1 ⟨hlen, rfl⟩
    rw [if_neg (Nat.not_lt_zero _)] at h
    cases h
    have hm := Moment.seconds hn
    rw [← hd] at hm
    exact ⟨_, _, hm, rfl⟩
  · next hlen =>
    obtain ⟨hn, hd⟩ := Bytes.eq_bigEndian_iff.1 ⟨hlen, rfl⟩
    split at h
    · cases h
    · next hk =>
      cases h
      have hm := Moment.shared (Nat.mod_lt data.number (by decide : 0 < 0x400000000))
        (Nat.not_lt.1 hk)
      rw [Nat.div_add_mod', ← hd] at hm
      exact ⟨_, _, hm, rfl⟩
  · next hlen =>
    split at h
    · cases h
    · next hk =>
      cases h
      obtain ⟨-, hn⟩ := Bytes.eq_bigEndian_iff.1
        ⟨(by rw [List.length_take, hlen]; rfl : (data.take 4).length = 4), rfl⟩
      obtain ⟨hz, hs⟩ := Bytes.eq_twos_iff.1
        ⟨(by rw [List.length_drop, hlen] : (data.drop 4).length = 8), rfl⟩
      have hm := Moment.full hz (Nat.not_lt.1 hk)
      rw [← hn, ← hs, List.take_append_drop] at hm
      exact ⟨_, _, hm, rfl⟩
  · cases h

theorem timestamp_of_moment {s : Int} {n : Nat} {data : Bytes} (hm : Moment s n data) :
    timestamp data = .ok (.timestamp s n) := by
  cases hm with
  | seconds hn =>
    obtain ⟨hlen, hnum⟩ := Bytes.eq_bigEndian_iff.2 ⟨hn, rfl⟩
    simp only [timestamp, hlen, hnum]
    rfl
  | @shared s _ hn hk =>
    have hlt : n * 0x400000000 + s < bound 8 := by
      change n ≤ 999999999 at hk
      change _ < 2 ^ 64
      omega
    obtain ⟨hlen, hnum⟩ := Bytes.eq_bigEndian_iff.2 ⟨hlt, rfl⟩
    have hdiv : (n * 0x400000000 + s) / 0x400000000 = n := by omega
    have hmod : (n * 0x400000000 + s) % 0x400000000 = s := by omega
    simp only [timestamp, hlen, hnum, hdiv, hmod]
    exact if_neg (Nat.not_lt.2 hk)
  | full hz hk =>
    have hlt : n < bound 4 := Nat.lt_of_le_of_lt hk (by decide)
    obtain ⟨hlen, hnum⟩ := Bytes.eq_bigEndian_iff.2 ⟨hlt, rfl⟩
    obtain ⟨hlen', hnum'⟩ := Bytes.eq_twos_iff.2 ⟨hz, rfl⟩
    have hall : (bigEndian 4 n ++ twos 8 s).length = 12 := by
      rw [List.length_append, hlen, hlen']
    simp only [timestamp, hall, List.take_left' hlen, List.drop_left' hlen, hnum, hnum']
    exact if_neg (Nat.not_lt.2 hk)

theorem readExtension_eq_ok_iff {total length : Nat} {v : Value} {bytes rest : Bytes} :
    readExtension total length bytes = .ok (v, rest) ↔
      length ≠ 0xFFFFFFFF ∧ ∃ code data, data.length = length ∧ extension code data = .ok v ∧
        bytes = code :: data ++ rest := by
  constructor
  · intro h
    unfold readExtension at h
    split at h
    · cases h
    · next hne =>
      refine ⟨hne, ?_⟩
      split at h
      · cases h
      · cases h
      · next code data rest' ht =>
        obtain ⟨rfl, hlen⟩ := taking_eq_ok_iff.1 ht
        split at h
        · next hv =>
          cases h
          exact ⟨code, data, Nat.succ.inj hlen, hv, rfl⟩
        · cases h
  · rintro ⟨hne, code, data, rfl, hv, rfl⟩
    have ht : taking (data.length + 1) (code :: data ++ rest) = .ok (code :: data, rest) :=
      taking_eq_ok_iff.2 ⟨rfl, rfl⟩
    rw [readExtension, if_neg hne, ht]
    simp only [hv]

/-! ## Rows and pairs -/

variable {α : Type} {limit : Nat}

/-- Within `limit` bytes, the reader finds **exactly the things whose form** the bytes begin
with. -/
def Reads (limit : Nat) (r : Reader α) (form : α → Bytes → Prop) : Prop :=
  ∀ {a : α} {bytes rest : Bytes}, bytes.length ≤ limit →
    (r bytes = .ok (a, rest) ↔ ∃ f, form a f ∧ bytes = f ++ rest)

theorem several_eq_ok_iff {item : Reader α} {form : α → Bytes → Prop}
    (hitem : Reads limit item form) {n : Nat} {done all : List α} {bytes rest : Bytes}
    (hlen : bytes.length ≤ limit) :
    several item n done bytes = .ok (all, rest) ↔
      ∃ as fs, all = done.reverse ++ as ∧ as.length = n ∧ Row form as fs ∧ bytes = fs ++ rest := by
  induction n generalizing done bytes with
  | zero =>
    constructor
    · intro h
      cases h
      exact ⟨[], [], (List.append_nil _).symm, rfl, .nil, rfl⟩
    · rintro ⟨as, fs, rfl, has, hrow, rfl⟩
      cases hrow with
      | nil => rw [List.append_nil]; rfl
      | cons => cases has
  | succ n ih =>
    constructor
    · intro h
      unfold several at h
      split at h
      · cases h
      · next a rest' hr =>
        obtain ⟨f, hf, rfl⟩ := (hitem hlen).1 hr
        rw [List.length_append] at hlen
        obtain ⟨as, fs, rfl, rfl, hrow, rfl⟩ := (ih (by omega)).1 h
        refine ⟨a :: as, f ++ fs, ?_, rfl, .cons hf hrow, (List.append_assoc ..).symm⟩
        rw [List.reverse_cons, List.append_assoc, List.singleton_append]
    · rintro ⟨as, fs, rfl, has, hrow, rfl⟩
      cases hrow with
      | nil => cases has
      | @cons a as f fs hf hrow =>
        rw [List.append_assoc] at hlen ⊢
        rw [several, (hitem hlen).2 ⟨f, hf, rfl⟩]
        rw [List.length_append] at hlen
        refine (ih (by omega)).2 ⟨as, fs, ?_, Nat.succ.inj has, hrow, rfl⟩
        rw [List.reverse_cons, List.append_assoc, List.singleton_append]

theorem reads_several {item : Reader α} {form : α → Bytes → Prop} (hitem : Reads limit item form)
    (n : Nat) : Reads limit (several item n []) (fun as fs => as.length = n ∧ Row form as fs) := by
  intro all bytes rest hlen
  rw [several_eq_ok_iff hitem hlen]
  constructor
  · rintro ⟨as, fs, rfl, has, hrow, hb⟩
    exact ⟨fs, ⟨has, hrow⟩, hb⟩
  · rintro ⟨fs, ⟨has, hrow⟩, hb⟩
    exact ⟨all, fs, rfl, has, hrow, hb⟩

theorem reads_pair {item : Reader Value} {form : Value → Bytes → Prop}
    (hitem : Reads limit item form) : Reads limit (pair item) (PairForm form) := by
  rintro ⟨key, v⟩ bytes rest hlen
  constructor
  · intro h
    unfold pair at h
    split at h
    · cases h
    · next hk =>
      obtain ⟨f, hf, rfl⟩ := (hitem hlen).1 hk
      rw [List.length_append] at hlen
      split at h
      · cases h
      · next hv =>
        obtain ⟨g, hg, rfl⟩ := (hitem (by omega)).1 hv
        split at h
        · cases h
          exact ⟨f ++ g, ⟨.text _, f, g, hf, hg, rfl⟩, (List.append_assoc ..).symm⟩
        · cases h
          exact ⟨f ++ g, ⟨.binary _, f, g, hf, hg, rfl⟩, (List.append_assoc ..).symm⟩
        · cases h
  · rintro ⟨_, ⟨hkey, f, g, hf, hg, rfl⟩, rfl⟩
    rw [List.append_assoc] at hlen ⊢
    rw [pair, (hitem hlen).2 ⟨f, hf, rfl⟩]
    rw [List.length_append] at hlen
    simp only [(hitem (by omega : (g ++ rest).length ≤ limit)).2 ⟨g, hg, rfl⟩]
    cases hkey <;> rfl

/-! ## Values -/

theorem leaf_of_extension {code : UInt8} {data head : Bytes} {v : Value}
    (hd : data.length ≠ 0xFFFFFFFF) (hh : HeadForm (.extension data.length) head)
    (h : extension code data = .ok v) : Leaf v (head ++ code :: data) := by
  unfold extension at h
  split at h
  · next hc =>
    cases h
    have hl := Leaf.extension hc hd hh
    rwa [UInt8.ofNat_toNat] at hl
  · split at h
    · next hc =>
      obtain ⟨s, n, hm, rfl⟩ := moment_of_timestamp h
      rw [hc]
      exact .timestamp hm hh
    · cases h

theorem Moment.length_le {s : Int} {n : Nat} {data : Bytes} (hm : Moment s n data) :
    data.length ≤ 12 := by
  cases hm with
  | seconds | shared => rw [Bytes.length_bigEndian]; decide
  | full =>
    refine Nat.le_of_eq ?_
    rw [List.length_append, Bytes.length_bigEndian, twos, Bytes.length_bigEndian]

theorem readText_eq_ok_iff {n : Nat} {v : Value} {bytes rest : Bytes} :
    readText n bytes = .ok (v, rest) ↔
      ∃ s, (Utf8.encodeString s).length = n ∧ v = .text s ∧ bytes = Utf8.encodeString s ++ rest := by
  constructor
  · intro h
    unfold readText at h
    split at h
    · cases h
    · next ht =>
      obtain ⟨rfl, hlen⟩ := taking_eq_ok_iff.1 ht
      split at h
      · next s hs =>
        cases h
        rw [Utf8.decodeString_eq_ok_iff.1 hs] at hlen ⊢
        exact ⟨s, hlen, rfl, rfl⟩
      · cases h
  · rintro ⟨s, rfl, rfl, rfl⟩
    rw [readText, taking_eq_ok_iff.2 ⟨rfl, rfl⟩]
    simp only [Utf8.decodeString_eq_ok_iff.2 (rfl : _ = Utf8.encodeString s)]

theorem readBinary_eq_ok_iff {n : Nat} {v : Value} {bytes rest : Bytes} :
    readBinary n bytes = .ok (v, rest) ↔
      ∃ part, part.length = n ∧ v = .binary part ∧ bytes = part ++ rest := by
  constructor
  · intro h
    unfold readBinary at h
    split at h
    · cases h
    · next part _ ht =>
      cases h
      obtain ⟨hb, hlen⟩ := taking_eq_ok_iff.1 ht
      exact ⟨part, hlen, rfl, hb⟩
  · rintro ⟨part, rfl, rfl, rfl⟩
    rw [readBinary, taking_eq_ok_iff.2 ⟨rfl, rfl⟩]

/-- The bytes hold all the things that a container announces, so **no limit is in its way** that the
things do not exceed. -/
theorem readRow_eq_ok_iff {item : Reader α} {form : α → Bytes → Prop} (hitem : Reads limit item form)
    {least most : Nat} (hleast : ∀ a f, form a f → least ≤ f.length)
    (hmost : ∀ n, n * least ≤ limit → n ≤ most) {tooLong : Fault} {wrap : List α → Value} {n : Nat}
    {v : Value} {bytes rest : Bytes} (hlen : bytes.length ≤ limit) :
    readRow most tooLong item wrap n bytes = .ok (v, rest) ↔
      ∃ things fs, things.length = n ∧ v = wrap things ∧ Row form things fs ∧ bytes = fs ++ rest := by
  constructor
  · intro h
    unfold readRow at h
    split at h
    · cases h
    split at h
    · next things _ hs =>
      cases h
      obtain ⟨fs, ⟨hn, hrow⟩, hb⟩ := (reads_several hitem n hlen).1 hs
      exact ⟨things, fs, hn, rfl, hrow, hb⟩
    · cases h
  · rintro ⟨things, fs, rfl, rfl, hrow, rfl⟩
    have hcount : things.length * least ≤ limit := by
      have := hrow.length_le hleast
      rw [List.length_append] at hlen
      omega
    rw [readRow, (reads_several hitem _ hlen).2 ⟨fs, ⟨rfl, hrow⟩, rfl⟩]
    exact if_neg (Nat.not_lt.2 (hmost _ hcount))

section

variable {total : Nat} {form : Value → Bytes → Prop} {item : Reader Value}
  (hitem : Reads total item form) (hpos : ∀ v f, form v f → 1 ≤ f.length)
  {n : Nat} {v : Value} {bytes rest : Bytes} (hlen : bytes.length ≤ total)

include hitem hpos hlen

theorem readArray_eq_ok_iff : readArray total item n bytes = .ok (v, rest) ↔
    ∃ items fs, items.length = n ∧ v = .array items ∧ Row form items fs ∧ bytes = fs ++ rest :=
  readRow_eq_ok_iff hitem hpos (fun _ h => by rwa [Nat.mul_one] at h) hlen

theorem readMap_eq_ok_iff : readMap total item n bytes = .ok (v, rest) ↔
    ∃ pairs fs, pairs.length = n ∧ v = .map pairs ∧ Row (PairForm form) pairs fs ∧
      bytes = fs ++ rest := by
  have htwo : ∀ p f, PairForm form p f → 2 ≤ f.length := by
    rintro p _ ⟨-, key, v, hk, hv, rfl⟩
    rw [List.length_append]
    exact Nat.add_le_add (hpos _ _ hk) (hpos _ _ hv)
  exact readRow_eq_ok_iff (reads_pair hitem) htwo
    (fun _ h => (Nat.le_div_iff_mul_le Nat.two_pos).2 h) hlen

end

variable {total : Nat} {inner : Option (Reader Value)} {form : Value → Bytes → Prop}

theorem readWith_of_leaf {v : Value} {f : Bytes} (hf : Leaf v f) (rest : Bytes) :
    readWith total inner (f ++ rest) = .ok (v, rest) := by
  cases hf with
  | scalar h => rw [readWith, head_of_form h]
  | text h =>
    rw [List.append_assoc, readWith, head_of_form h]
    exact readText_eq_ok_iff.2 ⟨_, rfl, rfl, rfl⟩
  | binary h =>
    rw [List.append_assoc, readWith, head_of_form h]
    exact readBinary_eq_ok_iff.2 ⟨_, rfl, rfl, rfl⟩
  | extension hc hd h =>
    rw [List.append_assoc, readWith, head_of_form h]
    refine readExtension_eq_ok_iff.2 ⟨hd, _, _, rfl, ?_, rfl⟩
    rw [extension, toNat_ofNat_of_lt (Nat.lt_trans hc (by decide)), if_pos hc]
  | timestamp hm h =>
    rw [List.append_assoc, readWith, head_of_form h]
    have hd := hm.length_le
    exact readExtension_eq_ok_iff.2 ⟨by omega, 0xFF, _, rfl, timestamp_of_moment hm, rfl⟩

theorem readWith_of_container {item : Reader Value} (hitem : Reads total item form)
    (hpos : ∀ v f, form v f → 1 ≤ f.length) {v : Value} {f rest : Bytes}
    (hf : Container form v f) (hlen : (f ++ rest).length ≤ total) :
    readWith total (some item) (f ++ rest) = .ok (v, rest) := by
  cases hf with
  | array h hb =>
    rw [List.append_assoc] at hlen ⊢
    rw [readWith, head_of_form h]
    rw [List.length_append] at hlen
    exact (readArray_eq_ok_iff hitem hpos (Nat.le_of_add_left_le hlen)).2 ⟨_, _, rfl, rfl, hb, rfl⟩
  | map h hb =>
    rw [List.append_assoc] at hlen ⊢
    rw [readWith, head_of_form h]
    rw [List.length_append] at hlen
    exact (readMap_eq_ok_iff hitem hpos (Nat.le_of_add_left_le hlen)).2 ⟨_, _, rfl, rfl, hb, rfl⟩

theorem form_of_readWith (hinner : ∀ item ∈ inner, Reads total item form)
    (hpos : ∀ v f, form v f → 1 ≤ f.length) {v : Value} {bytes rest : Bytes}
    (hlen : bytes.length ≤ total) (h : readWith total inner bytes = .ok (v, rest)) :
    ∃ f, (Leaf v f ∨ inner ≠ none ∧ Container form v f) ∧ bytes = f ++ rest := by
  unfold readWith at h
  cases hr : head bytes with
  | error fault => rw [hr] at h; cases h
  | ok found =>
    obtain ⟨head, behind⟩ := found
    obtain ⟨f, hf, rfl⟩ := head_eq_ok_iff.1 hr
    have hbehind : behind.length ≤ total := by
      rw [List.length_append] at hlen
      exact Nat.le_of_add_left_le hlen
    rw [hr] at h
    cases head with
    | scalar =>
      cases h
      exact ⟨f, .inl (.scalar hf), rfl⟩
    | text =>
      obtain ⟨s, rfl, rfl, rfl⟩ := readText_eq_ok_iff.1 h
      exact ⟨_, .inl (.text hf), (List.append_assoc ..).symm⟩
    | binary =>
      obtain ⟨part, rfl, rfl, rfl⟩ := readBinary_eq_ok_iff.1 h
      exact ⟨_, .inl (.binary hf), (List.append_assoc ..).symm⟩
    | extension =>
      obtain ⟨hne, code, data, rfl, hv, rfl⟩ := readExtension_eq_ok_iff.1 h
      exact ⟨_, .inl (leaf_of_extension hne hf hv), (List.append_assoc ..).symm⟩
    | array =>
      cases inner with
      | none => cases h
      | some item =>
        obtain ⟨items, fs, rfl, rfl, hrow, rfl⟩ :=
          (readArray_eq_ok_iff (hinner item rfl) hpos hbehind).1 h
        exact ⟨_, .inr ⟨nofun, .array hf hrow⟩, (List.append_assoc ..).symm⟩
    | map =>
      cases inner with
      | none => cases h
      | some item =>
        obtain ⟨pairs, fs, rfl, rfl, hrow, rfl⟩ :=
          (readMap_eq_ok_iff (hinner item rfl) hpos hbehind).1 h
        exact ⟨_, .inr ⟨nofun, .map hf hrow⟩, (List.append_assoc ..).symm⟩

theorem reads_read (total room : Nat) : Reads total (read total room) (Form room) := by
  induction room with
  | zero =>
    intro v bytes rest hlen
    constructor
    · intro h
      have hinner : ∀ item ∈ none, Reads total item Leaf :=
        fun item h => absurd h (Option.not_mem_none item)
      obtain ⟨f, hf | ⟨hf, -⟩, rfl⟩ := form_of_readWith hinner (fun _ _ h => h.length_pos) hlen h
      · exact ⟨f, hf, rfl⟩
      · exact absurd rfl hf
    · rintro ⟨f, hf, rfl⟩
      exact readWith_of_leaf hf rest
  | succ room ih =>
    intro v bytes rest hlen
    constructor
    · intro h
      obtain ⟨f, hf | ⟨-, hf⟩, rfl⟩ :=
        form_of_readWith (fun _ h => Option.some.inj h ▸ ih) (fun _ _ h => h.length_pos) hlen h
      · exact ⟨f, .inl hf, rfl⟩
      · exact ⟨f, .inr hf, rfl⟩
    · rintro ⟨f, hf | hf, rfl⟩
      · exact readWith_of_leaf hf rest
      · exact readWith_of_container ih (fun _ _ h => h.length_pos) hf hlen

/-- A form is the form of **one value only**, and no form goes on where another one ends. -/
theorem Form.unique {room room' : Nat} {v w : Value} {f g r s : Bytes} (hf : Form room v f)
    (hg : Form room' w g) (h : f ++ r = g ++ s) : v = w ∧ f = g ∧ r = s := by
  have hv := (reads_read (f ++ r).length _ (Nat.le_refl _)).2
    ⟨f, hf.mono (Nat.le_max_left room room'), (rfl : f ++ r = _)⟩
  have hw := (reads_read (f ++ r).length _ (Nat.le_refl _)).2
    ⟨g, hg.mono (Nat.le_max_right room room'), h⟩
  obtain ⟨rfl, rfl⟩ := Prod.mk.inj (Except.ok.inj (hv.symm.trans hw))
  exact ⟨rfl, List.append_cancel_right h, rfl⟩

/-- A message holds a value exactly when it is **a form of that value**. -/
theorem unpack_eq_ok_iff {message : Bytes} {v : Value} :
    unpack message = .ok v ↔ Form maxDepth v message := by
  constructor
  · intro h
    unfold unpack at h
    split at h
    · cases h
    · next hr =>
      cases h
      obtain ⟨f, hf, hb⟩ := (reads_read _ _ (Nat.le_refl _)).1 hr
      rw [List.append_nil] at hb
      rwa [hb]
    · cases h
  · intro h
    rw [unpack, (reads_read _ _ (Nat.le_refl _)).2 ⟨message, h, (List.append_nil _).symm⟩]

/-- Bytes **behind a form** are found out, however many there are. -/
theorem unpack_eq_extraData {v : Value} {form rest : Bytes} (h : Form maxDepth v form)
    (hrest : rest ≠ []) : unpack (form ++ rest) = .error .extraData := by
  obtain ⟨b, rest, rfl⟩ := List.exists_cons_of_ne_nil hrest
  rw [unpack, (reads_read _ _ (Nat.le_refl _)).2 ⟨form, h, rfl⟩]

/-- The beginning of a form is **no message**, wherever it is cut. -/
theorem exists_unpack_eq_error {room : Nat} {v : Value} {part rest : Bytes}
    (h : Form room v (part ++ rest)) (hrest : rest ≠ []) :
    ∃ fault, unpack part = .error fault := by
  cases hunpack : unpack part with
  | error fault => exact ⟨fault, rfl⟩
  | ok w =>
    have hw := unpack_eq_ok_iff.1 hunpack
    obtain ⟨-, -, hnil⟩ := hw.unique h (List.append_nil (part ++ rest)).symm
    exact absurd hnil hrest

end Drift.MessagePack
