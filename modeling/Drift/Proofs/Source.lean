import Drift.Proofs.Scan

/-!
# Source files are kept byte for byte

* `Utf8.Spells` — the code that a lead byte and the bytes behind it spell; `Utf8.Scalar` — the
  shortest spelling of a character.
* `Utf8.WellFormed` — bytes made of such spellings, whatever reads them; `Utf8.wellFormed_iff` —
  they are the encodings of texts.
* **`Source.ofFile_keeps_bytes`** — exactly the files with well-formed bytes are read, and the source
  stands for the bytes of its file.
-/

namespace Drift

/-! ## Well-formed UTF-8 -/

namespace Utf8

open Bytes (toNat_ofNat_of_lt)

/-- A byte that **continues** a sequence. -/
def Continues (b : UInt8) : Prop := 0x80 ≤ b.toNat ∧ b.toNat < 0xC0

/-- Bytes **spell a code**: the first one tells how many continue it, and each brings the bits that
its mark leaves free. One code has several spellings. -/
inductive Spells : Bytes → Nat → Prop where
  | one {a : UInt8} (ha : a.toNat < 0x80) : Spells [a] a.toNat
  | two {a b : UInt8} (ha : 0xC0 ≤ a.toNat ∧ a.toNat < 0xE0) (hb : Continues b) :
      Spells [a, b] (a.toNat % 32 * 64 + b.toNat % 64)
  | three {a b c : UInt8} (ha : 0xE0 ≤ a.toNat ∧ a.toNat < 0xF0) (hb : Continues b)
      (hc : Continues c) : Spells [a, b, c] ((a.toNat % 16 * 64 + b.toNat % 64) * 64 + c.toNat % 64)
  | four {a b c d : UInt8} (ha : 0xF0 ≤ a.toNat ∧ a.toNat < 0xF8) (hb : Continues b)
      (hc : Continues c) (hd : Continues d) :
      Spells [a, b, c, d]
        (((a.toNat % 8 * 64 + b.toNat % 64) * 64 + c.toNat % 64) * 64 + d.toNat % 64)

/-- Bytes are **the spelling of a character**. -/
structure Scalar (part : Bytes) (n : Nat) : Prop where
  spells : Spells part n
  /-- They are not overlong: no fewer bytes spell the code. -/
  shortest : ∀ other, Spells other n → part.length ≤ other.length
  /-- The code is no surrogate. -/
  noSurrogate : ¬ (0xD800 ≤ n ∧ n ≤ 0xDFFF)
  /-- It is not above the last character. -/
  inRange : n ≤ 0x10FFFF

/-- **Well-formed bytes** are spellings of characters, one after the other. -/
inductive WellFormed : Bytes → Prop where
  | nil : WellFormed []
  | cons {part rest : Bytes} {n : Nat} (hpart : Scalar part n) (hrest : WellFormed rest) :
      WellFormed (part ++ rest)

theorem continues_ofNat (n : Nat) : Continues (UInt8.ofNat (n % 64 + 0x80)) := by
  rw [Continues, toNat_continuation]
  omega

theorem spells_one {n : Nat} (h : n < 0x80) : Spells [UInt8.ofNat n] n := by
  have hn : (UInt8.ofNat n).toNat = n := toNat_ofNat_of_lt (by omega)
  have hspells := Spells.one (a := UInt8.ofNat n) (by omega)
  rwa [hn] at hspells

theorem spells_two {n : Nat} (h : n < 0x800) :
    Spells [UInt8.ofNat (n / 64 + 0xC0), UInt8.ofNat (n % 64 + 0x80)] n := by
  have ha : (UInt8.ofNat (n / 64 + 0xC0)).toNat = n / 64 + 0xC0 := toNat_ofNat_of_lt (by omega)
  have hspells := Spells.two (a := UInt8.ofNat (n / 64 + 0xC0)) (by omega) (continues_ofNat n)
  rwa [ha, bits_continuation, (by omega : (n / 64 + 0xC0) % 32 * 64 + n % 64 = n)] at hspells

theorem spells_three {n : Nat} (h : n < 0x10000) :
    Spells [UInt8.ofNat (n / 4096 + 0xE0), UInt8.ofNat (n / 64 % 64 + 0x80),
      UInt8.ofNat (n % 64 + 0x80)] n := by
  have ha : (UInt8.ofNat (n / 4096 + 0xE0)).toNat = n / 4096 + 0xE0 :=
    toNat_ofNat_of_lt (by omega)
  have hspells := Spells.three (a := UInt8.ofNat (n / 4096 + 0xE0)) (by omega)
    (continues_ofNat (n / 64)) (continues_ofNat n)
  rwa [ha, bits_continuation, bits_continuation,
    (by omega : ((n / 4096 + 0xE0) % 16 * 64 + n / 64 % 64) * 64 + n % 64 = n)] at hspells

theorem spells_four {n : Nat} (h : n < 0x200000) :
    Spells [UInt8.ofNat (n / 262144 + 0xF0), UInt8.ofNat (n / 4096 % 64 + 0x80),
      UInt8.ofNat (n / 64 % 64 + 0x80), UInt8.ofNat (n % 64 + 0x80)] n := by
  have ha : (UInt8.ofNat (n / 262144 + 0xF0)).toNat = n / 262144 + 0xF0 :=
    toNat_ofNat_of_lt (by omega)
  have hspells := Spells.four (a := UInt8.ofNat (n / 262144 + 0xF0)) (by omega)
    (continues_ofNat (n / 4096)) (continues_ofNat (n / 64)) (continues_ofNat n)
  rwa [ha, bits_continuation, bits_continuation, bits_continuation,
    (by omega : (((n / 262144 + 0xF0) % 8 * 64 + n / 4096 % 64) * 64 + n / 64 % 64) * 64
      + n % 64 = n)] at hspells

theorem Spells.room {part : Bytes} {n : Nat} (h : Spells part n) :
    0 < part.length ∧ (part.length ≤ 1 → n < 0x80) ∧ (part.length ≤ 2 → n < 0x800) ∧
      (part.length ≤ 3 → n < 0x10000) := by
  cases h <;> simp only [List.length_cons, List.length_nil] <;> omega

theorem Continues.eq_ofNat {b : UInt8} (h : Continues b) {n : Nat} (hn : n % 64 = b.toNat % 64) :
    UInt8.ofNat (n % 64 + 0x80) = b := by
  unfold Continues at h
  rw [hn, (by omega : b.toNat % 64 + 0x80 = b.toNat), UInt8.ofNat_toNat]

theorem Scalar.encode_eq {part : Bytes} {n : Nat} (h : Scalar part n) :
    String.utf8EncodeChar (Char.ofNat n) = part := by
  have hshort := h.shortest
  have hsurrogate := h.noSurrogate
  have hrange := h.inRange
  -- A lead byte is made of the bits that it brings, as the bytes behind it are.
  have hlead {a : UInt8} {k mark : Nat} (ha : a.toNat = k + mark) : UInt8.ofNat (k + mark) = a := by
    rw [← ha, UInt8.ofNat_toNat]
  cases h.spells with
  | one ha => rw [encode_one ha, UInt8.ofNat_toNat]
  | @two a b ha hb =>
    have hb' := hb
    unfold Continues at hb'
    generalize hn : a.toNat % 32 * 64 + b.toNat % 64 = n at *
    have hmin : 0x80 ≤ n := by
      by_contra hlow
      exact absurd (hshort _ (spells_one (Nat.lt_of_not_le hlow))) (by simp)
    rw [encode_two hmin (by omega), hlead (a := a) (by omega), hb.eq_ofNat (by omega)]
  | @three a b c ha hb hc =>
    have hb' := hb
    have hc' := hc
    unfold Continues at hb' hc'
    generalize hn : (a.toNat % 16 * 64 + b.toNat % 64) * 64 + c.toNat % 64 = n at *
    have hmin : 0x800 ≤ n := by
      by_contra hlow
      exact absurd (hshort _ (spells_two (Nat.lt_of_not_le hlow))) (by simp)
    rw [encode_three hmin (by omega) (by omega), hlead (a := a) (by omega),
      hb.eq_ofNat (by omega), hc.eq_ofNat (by omega)]
  | @four a b c d ha hb hc hd =>
    have hb' := hb
    have hc' := hc
    have hd' := hd
    unfold Continues at hb' hc' hd'
    generalize hn : ((a.toNat % 8 * 64 + b.toNat % 64) * 64 + c.toNat % 64) * 64
      + d.toNat % 64 = n at *
    have hmin : 0x10000 ≤ n := by
      by_contra hlow
      exact absurd (hshort _ (spells_three (Nat.lt_of_not_le hlow))) (by simp)
    rw [encode_four hmin (by omega), hlead (a := a) (by omega), hb.eq_ofNat (by omega),
      hc.eq_ofNat (by omega), hd.eq_ofNat (by omega)]

theorem scalar_encode (c : Char) : Scalar (String.utf8EncodeChar c) c.toNat := by
  have hvalid : c.toNat < 0xD800 ∨ 0xDFFF < c.toNat ∧ c.toNat < 0x110000 := c.valid
  obtain ⟨n, hn, rfl⟩ : ∃ n, c.toNat = n ∧ c = Char.ofNat n := ⟨_, rfl, c.ofNat_toNat.symm⟩
  rw [hn] at hvalid ⊢
  -- A spelling is shortest when fewer bytes have no room for the code.
  have hscalar {part : Bytes} (hspells : Spells part n)
      (hleast : part.length ≤ 1 ∨ part.length ≤ 2 ∧ 0x80 ≤ n ∨ part.length ≤ 3 ∧ 0x800 ≤ n ∨
        part.length ≤ 4 ∧ 0x10000 ≤ n) : Scalar part n := by
    refine ⟨hspells, fun other h => ?_, by omega, by omega⟩
    have hroom := h.room
    omega
  by_cases h₁ : n < 0x80
  · rw [encode_one h₁]
    exact hscalar (spells_one h₁) (.inl (Nat.le_refl _))
  by_cases h₂ : n < 0x800
  · rw [encode_two (by omega) h₂]
    exact hscalar (spells_two h₂) (.inr (.inl ⟨Nat.le_refl _, by omega⟩))
  by_cases h₃ : n < 0x10000
  · rw [encode_three (by omega) h₃ (by omega)]
    exact hscalar (spells_three h₃) (.inr (.inr (.inl ⟨Nat.le_refl _, by omega⟩)))
  · rw [encode_four (by omega) (by omega)]
    exact hscalar (spells_four (by omega)) (.inr (.inr (.inr ⟨Nat.le_refl _, by omega⟩)))

/-- Well-formed bytes are **the encodings of texts**. -/
theorem wellFormed_iff {bytes : Bytes} :
    WellFormed bytes ↔ ∃ text : String, bytes = encodeString text := by
  constructor
  · intro h
    induction h with
    | nil => exact ⟨"", rfl⟩
    | @cons part rest n hpart _ ih =>
      obtain ⟨text, rfl⟩ := ih
      refine ⟨String.ofList (Char.ofNat n :: text.toList), ?_⟩
      rw [encodeString, encodeString, String.toList_ofList, encode_cons, hpart.encode_eq]
  · rintro ⟨text, rfl⟩
    rw [encodeString]
    induction text.toList with
    | nil => exact .nil
    | cons c chars ih =>
      rw [encode_cons]
      exact .cons (scalar_encode c) ih

end Utf8

/-! ## Source files -/

namespace Source

open Utf8 (WellFormed)

theorem decode_default_eq_ok_iff {raw : Bytes} {content : String} :
    decode defaultEncoding raw = .ok content ↔ raw = Utf8.encodeString content := by
  refine ⟨fun h => ?_, by rintro rfl; exact Discovery.decode_default content⟩
  unfold decode at h
  simp only [encodingOf_default, Encoding.decode, Encoding.decodeUtf8] at h
  cases hdecode : Utf8.decode raw with
  | error fault => simp [hdecode, Except.mapError] at h
  | ok text =>
    simp only [hdecode, Except.mapError, Except.ok.injEq] at h
    rw [← h, Utf8.encodeString, String.toList_ofList]
    exact Utf8.decode_eq_ok_iff.1 hdecode

theorem path_of_ofFile {fs : FileSystem} {p : Path} {encoding : String} {s : Source}
    (h : ofFile fs p encoding = .ok s) : s.path = p.text := by
  unfold ofFile at h
  split at h
  · cases h
  split at h
  · cases h
  · obtain rfl := Except.ok.inj h
    rfl

/-- A file is **kept byte for byte**: it is read exactly when its bytes are well-formed UTF-8, any
other file is reported as unreadable, and a source that is read stands for just the bytes of its
file. -/
theorem ofFile_keeps_bytes {fs : FileSystem} {p : Path} {raw : Bytes}
    (hread : fs.read p = .ok raw) :
    ((∃ s, ofFile fs p defaultEncoding = .ok s) ↔ WellFormed raw) ∧
      (¬ WellFormed raw → ∃ reason,
        ofFile fs p defaultEncoding = .error (.issue (.sourceUnreadable p.text reason))) ∧
      ∀ s, ofFile fs p defaultEncoding = .ok s → s.path = p.text ∧ s.bytes = .ok raw := by
  unfold ofFile
  simp only [hread]
  cases hdecode : decode defaultEncoding raw with
  | error fault =>
    have hill : ¬ WellFormed raw := fun h => by
      obtain ⟨content, hraw⟩ := Utf8.wellFormed_iff.1 h
      cases hdecode.symm.trans (decode_default_eq_ok_iff.2 hraw)
    obtain ⟨f, rfl⟩ := undecodable_of_decode hdecode
    exact ⟨iff_of_false nofun hill, fun _ => ⟨f.message, rfl⟩, nofun⟩
  | ok content =>
    obtain rfl := decode_default_eq_ok_iff.1 hdecode
    have hwell : WellFormed (Utf8.encodeString content) := Utf8.wellFormed_iff.2 ⟨content, rfl⟩
    refine ⟨iff_of_true ⟨_, rfl⟩ hwell, fun hill => absurd hwell hill, ?_⟩
    rintro s hs
    obtain rfl := Except.ok.inj hs
    exact ⟨rfl, bytes_default p.text content⟩

/-- A file system with one file. -/
def holding (raw : Bytes) : FileSystem := ⟨.directory [("a.js", .file raw)], []⟩

/-- A mark, every kind of line end, and characters at both ends of what two, three and four bytes
spell. -/
def markedText : Bytes :=
  Utf8.encodeString "\uFEFFa();\r\nb();\rc();\n\u0080\u07FF\u0800\uD7FF\uE000\uFFFF😀\u2028"

/-- An overlong slash, a surrogate and a code above the last character. -/
def illFormed : List Bytes := [[0xC0, 0xAF], [0xED, 0xA0, 0x80], [0xF4, 0x90, 0x80, 0x80]]

/-- The first of these is kept, and **none of the others is read**. -/
theorem ofFile_keeps_bytes_markedText :
    WellFormed markedText ∧ (∃ s, ofFile (holding markedText) (Path.ofString "a.js") defaultEncoding
        = .ok s ∧ s.path = "a.js" ∧ s.bytes = .ok markedText) ∧
      ∀ raw ∈ illFormed, ¬ WellFormed raw ∧ ∃ reason,
        ofFile (holding raw) (Path.ofString "a.js") defaultEncoding
          = .error (.issue (.sourceUnreadable "a.js" reason)) := by
  have hread (raw : Bytes) : (holding raw).read (Path.ofString "a.js") = .ok raw := rfl
  have hmarked :
      (ofFile (holding markedText) (Path.ofString "a.js") defaultEncoding).isOk = true := by
    decide +kernel
  have hill : ∀ raw ∈ illFormed,
      (ofFile (holding raw) (Path.ofString "a.js") defaultEncoding).isOk = false := by
    decide +kernel
  obtain ⟨hiff, -, hkept⟩ := ofFile_keeps_bytes (hread markedText)
  obtain ⟨s, hs⟩ := exists_eq_ok hmarked
  refine ⟨hiff.1 ⟨s, hs⟩, ⟨s, hs, hkept s hs⟩, fun raw hraw => ?_⟩
  obtain ⟨hiff, hrefused, -⟩ := ofFile_keeps_bytes (hread raw)
  have hnot : ¬ WellFormed raw := fun hwell => by
    obtain ⟨s, hs⟩ := hiff.2 hwell
    have hno := hill raw hraw
    rw [hs] at hno
    cases hno
  exact ⟨hnot, hrefused hnot⟩

end Source

end Drift
