import Drift.Bytes

/-!
# UTF-8

* `Utf8.encode` — the bytes of a text.
* `Utf8.decode` — the text of well-formed bytes. Overlong forms, encoded surrogates and anything
  above `U+10FFFF` are refused by the range of the second byte.
* `Utf8.Fault` — the first ill-formed sequence: where it begins, how many bytes it takes and why.
-/

namespace Drift.Utf8

/-- Why a sequence is ill-formed. -/
inductive Flaw where
  /-- No character begins with this byte. -/
  | start
  /-- The next byte does not continue the sequence. -/
  | continuation
  /-- The data ends inside the sequence. -/
  | unfinished
  deriving DecidableEq, Repr

/-- The first ill-formed sequence: its offset, its first byte, its length and its flaw. -/
structure Fault where
  offset : Nat
  lead : UInt8
  length : Nat
  flaw : Flaw
  deriving DecidableEq, Repr

/-! ## Writing -/

/-- The bytes of a text behind those before it, of which the last one comes first. -/
def encodeOnto (done : Bytes) : List Char → Bytes
  | [] => done.reverse
  | c :: rest => encodeOnto ((String.utf8EncodeChar c).reverseAux done) rest

/-- The bytes of a text. -/
def encode (text : List Char) : Bytes := encodeOnto [] text

theorem encodeOnto_eq (done : Bytes) (text : List Char) :
    encodeOnto done text = done.reverse ++ text.flatMap String.utf8EncodeChar := by
  induction text generalizing done with
  | nil => simp [encodeOnto]
  | cons c rest ih => simp [encodeOnto, ih, List.reverseAux_eq]

/-- The bytes of a text are those of its characters, one after the other. -/
theorem encode_eq_flatMap (text : List Char) :
    encode text = text.flatMap String.utf8EncodeChar := by
  simp [encode, encodeOnto_eq]

/-- The bytes of a string. -/
def encodeString (text : String) : Bytes := encode text.toList

/-! ## Reading -/

/-- What follows a lead byte: the code bits it brings, the count of continuation bytes, and the
range of the first of them. -/
structure Lead where
  code : Nat
  more : Nat
  low : UInt8
  high : UInt8

/-- The lead bytes of sequences of two to four bytes. -/
def lead? (b : UInt8) : Option Lead :=
  if b < 0xC2 then none
  else if b < 0xE0 then some ⟨b.toNat % 32, 1, 0x80, 0xBF⟩
  else if b = 0xE0 then some ⟨0, 2, 0xA0, 0xBF⟩
  else if b = 0xED then some ⟨13, 2, 0x80, 0x9F⟩
  else if b < 0xF0 then some ⟨b.toNat % 16, 2, 0x80, 0xBF⟩
  else if b = 0xF0 then some ⟨0, 3, 0x90, 0xBF⟩
  else if b < 0xF4 then some ⟨b.toNat % 8, 3, 0x80, 0xBF⟩
  else if b = 0xF4 then some ⟨4, 3, 0x80, 0x8F⟩
  else none

/-- Reads `more` continuation bytes, the first from `low` to `high`, onto `code`; on failure the
count of bytes that belong to the sequence so far, with the flaw. -/
def continue? (code : Nat) (seen : Nat) :
    (more : Nat) → (low high : UInt8) → Bytes → Except (Nat × Flaw) (Char × Bytes)
  | 0, _, _, rest => .ok (Char.ofNat code, rest)
  | _ + 1, _, _, [] => .error (seen, .unfinished)
  | more + 1, low, high, b :: rest =>
    if low ≤ b ∧ b ≤ high then
      continue? (code * 64 + b.toNat % 64) (seen + 1) more 0x80 0xBF rest
    else .error (seen, .continuation)

/-- Reads the character that begins with the byte `b`. -/
def next (b : UInt8) (rest : Bytes) : Except (Nat × Flaw) (Char × Bytes) :=
  if b < 0x80 then .ok (Char.ofNat b.toNat, rest)
  else match lead? b with
    | none => .error (1, .start)
    | some l => continue? l.code 1 l.more l.low l.high rest

theorem length_continue? {code seen more : Nat} {low high : UInt8} {bytes rest : Bytes} {c : Char}
    (h : continue? code seen more low high bytes = .ok (c, rest)) :
    rest.length ≤ bytes.length := by
  induction more generalizing code seen low high bytes with
  | zero =>
    simp only [continue?, Except.ok.injEq, Prod.mk.injEq] at h
    exact Nat.le_of_eq (congrArg List.length h.2.symm)
  | succ more ih =>
    cases bytes with
    | nil => simp [continue?] at h
    | cons b bytes =>
      simp only [continue?] at h
      split at h
      · exact Nat.le_succ_of_le (ih h)
      · cases h

theorem length_next {b : UInt8} {bytes rest : Bytes} {c : Char}
    (h : next b bytes = .ok (c, rest)) : rest.length ≤ bytes.length := by
  unfold next at h
  split at h
  · simp only [Except.ok.injEq, Prod.mk.injEq] at h
    exact Nat.le_of_eq (congrArg List.length h.2.symm)
  · split at h
    · cases h
    · exact length_continue? h

/-- Reads on at the given offset, behind the characters read so far. -/
def decodeFrom (offset : Nat) (done : List Char) : Bytes → Except Fault (List Char)
  | [] => .ok done.reverse
  | b :: bytes =>
    match _h : next b bytes with
    | .error (length, flaw) => .error ⟨offset, b, length, flaw⟩
    | .ok (c, rest) =>
      decodeFrom (offset + c.utf8Size) (c :: done) rest
  termination_by bytes => bytes.length
  decreasing_by exact Nat.lt_succ_of_le (length_next ‹_›)

/-- The **text of well-formed bytes**, or the first fault. -/
def decode (bytes : Bytes) : Except Fault (List Char) := decodeFrom 0 [] bytes

/-- The string of well-formed bytes, or the first fault. -/
def decodeString (bytes : Bytes) : Except Fault String := (decode bytes).map String.ofList

end Drift.Utf8
