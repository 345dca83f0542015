import Drift.Deflate.Code

/-!
# Reading compressed data

Compressed data is a sequence of blocks. A block holds bytes as they are, or literals and
back-references under a prefix code, which is the fixed one or written at the head of the block.

* `Item` — a literal, a back-reference or the end of a block; `readItem` reads one.
* `appendCopy` — the effect of a back-reference on the output.
* `inflate` — the output of all blocks up to the last one, and what follows it.
-/

namespace Drift.Deflate

/-- The output so far. -/
abbrev Output := Array UInt8

/-- What a compressed block is made of. -/
inductive Item where
  | literal (b : UInt8)
  /-- Repeats `length` bytes of the output, from `distance` bytes back. -/
  | copy (length distance : Nat)
  | endOfBlock
  deriving DecidableEq, Repr

/-! ## Bits -/

/-- The next bits as a number. -/
def bits (n : Nat) (s : BitStream) : Except Fault (Nat × BitStream) :=
  match s.take? n with
  | some found => .ok found
  | none => .error .truncated

theorem size_bits {n v : Nat} {s r : BitStream} (h : bits n s = .ok (v, r)) :
    r.size + n = s.size := by
  unfold bits at h
  split at h
  · next ht =>
    cases h
    exact BitStream.size_take? ht
  · cases h

/-! ## Items -/

/-- The base and the count of extra bits of a length symbol, counted from 257. -/
def lengthBase : List (Nat × Nat) :=
  [(3, 0), (4, 0), (5, 0), (6, 0), (7, 0), (8, 0), (9, 0), (10, 0), (11, 1), (13, 1), (15, 1),
   (17, 1), (19, 2), (23, 2), (27, 2), (31, 2), (35, 3), (43, 3), (51, 3), (59, 3), (67, 4),
   (83, 4), (99, 4), (115, 4), (131, 5), (163, 5), (195, 5), (227, 5), (258, 0)]

/-- The base and the count of extra bits of a distance symbol. -/
def distanceBase : List (Nat × Nat) :=
  [(1, 0), (2, 0), (3, 0), (4, 0), (5, 1), (7, 1), (9, 2), (13, 2), (17, 3), (25, 3), (33, 4),
   (49, 4), (65, 5), (97, 5), (129, 6), (193, 6), (257, 7), (385, 7), (513, 8), (769, 8),
   (1025, 9), (1537, 9), (2049, 10), (3073, 10), (4097, 11), (6145, 11), (8193, 12), (12289, 12),
   (16385, 13), (24577, 13)]

/-- The two codes of a compressed block. -/
structure Codes where
  literals : Code
  distances : Code

/-- A base and its extra bits. -/
def withExtra (entry : Nat × Nat) (s : BitStream) : Except Fault (Nat × BitStream) :=
  match bits entry.2 s with
  | .ok (extra, s) => .ok (entry.1 + extra, s)
  | .error fault => .error fault

/-- The distance of a back-reference of the given length. -/
def readCopy (codes : Codes) (length : Nat) (s : BitStream) : Except Fault (Item × BitStream) :=
  match codes.distances.read .distanceCode s with
  | .error fault => .error fault
  | .ok (symbol, s) =>
    match distanceBase[symbol]? with
    | none => .error .distanceCode
    | some entry =>
      match withExtra entry s with
      | .error fault => .error fault
      | .ok (distance, s) => .ok (.copy length distance, s)

/-- The **next item** of a compressed block. -/
def readItem (codes : Codes) (s : BitStream) : Except Fault (Item × BitStream) :=
  match codes.literals.read .literalCode s with
  | .error fault => .error fault
  | .ok (symbol, s) =>
    if symbol < 256 then .ok (.literal (UInt8.ofNat symbol), s)
    else if symbol = 256 then .ok (.endOfBlock, s)
    else match lengthBase[symbol - 257]? with
      | none => .error .literalCode
      | some entry =>
        match withExtra entry s with
        | .error fault => .error fault
        | .ok (length, s) => readCopy codes length s

theorem size_withExtra {entry : Nat × Nat} {v : Nat} {s r : BitStream}
    (h : withExtra entry s = .ok (v, r)) : r.size ≤ s.size := by
  unfold withExtra at h
  split at h
  · next hb =>
    simp only [Except.ok.injEq, Prod.mk.injEq] at h
    have := size_bits hb
    rw [← h.2]
    omega
  · cases h

theorem size_readCopy {codes : Codes} {length : Nat} {item : Item} {s r : BitStream}
    (h : readCopy codes length s = .ok (item, r)) : r.size < s.size := by
  unfold readCopy at h
  split at h
  · cases h
  · next hc =>
    have := Code.size_read hc
    split at h
    · cases h
    · split at h
      · cases h
      · next he =>
        have := size_withExtra he
        simp only [Except.ok.injEq, Prod.mk.injEq] at h
        rw [← h.2]
        omega

/-- Reading an item takes at least one bit. -/
theorem size_readItem {codes : Codes} {item : Item} {s r : BitStream}
    (h : readItem codes s = .ok (item, r)) : r.size < s.size := by
  unfold readItem at h
  split at h
  · cases h
  · next hc =>
    have := Code.size_read hc
    split at h
    · simp only [Except.ok.injEq, Prod.mk.injEq] at h
      rw [← h.2]
      omega
    · split at h
      · simp only [Except.ok.injEq, Prod.mk.injEq] at h
        rw [← h.2]
        omega
      · split at h
        · cases h
        · split at h
          · cases h
          · next he =>
            have := size_withExtra he
            have := size_readCopy h
            omega

/-- Appends `length` bytes, each a copy of the byte `distance` places back; the copy may overlap
what it appends. -/
def appendCopy (distance : Nat) : (length : Nat) → Output → Output
  | 0, out => out
  | length + 1, out => appendCopy distance length (out.push (out.getD (out.size - distance) 0))

/-- The output behind the items up to the end of the block. -/
def readItems (codes : Codes) (out : Output) (s : BitStream) :
    Except Fault (Output × BitStream) :=
  match _h : readItem codes s with
  | .error fault => .error fault
  | .ok (.endOfBlock, s') => .ok (out, s')
  | .ok (.literal b, s') => readItems codes (out.push b) s'
  | .ok (.copy length distance, s') =>
    if out.size < distance then .error .distanceTooFar
    else readItems codes (appendCopy distance length out) s'
  termination_by s.size
  decreasing_by all_goals exact size_readItem ‹_›

/-! ## Codes -/

/-- The codes of a block that brings none: words of eight, nine, seven and eight bits for literals
and lengths, and of five bits for distances. -/
def fixedCodes : Codes where
  literals := Code.ofLengths
    (List.replicate 144 8 ++ List.replicate 112 9 ++ List.replicate 24 7 ++ List.replicate 8 8)
  distances := Code.ofLengths (List.replicate 32 5)

/-- The order in which the lengths of the code for code lengths are written. -/
def lengthOrder : List Nat :=
  [16, 17, 18, 0, 8, 7, 9, 6, 10, 5, 11, 4, 12, 3, 13, 2, 14, 1, 15]

/-- The next `n` numbers of three bits. -/
def triples : (n : Nat) → (done : List Nat) → BitStream → Except Fault (List Nat × BitStream)
  | 0, done, s => .ok (done.reverse, s)
  | n + 1, done, s =>
    match bits 3 s with
    | .error fault => .error fault
    | .ok (v, s) => triples n (v :: done) s

/-- The code for code lengths: it has to be complete, but one without words is taken to read zero
for either bit. -/
def lengthCode (written : List Nat) : Except Fault Code :=
  let entries := lengthOrder.zip written
  let lengths := (List.range 19).map fun symbol =>
    ((entries.find? (·.1 == symbol)).map (·.2)).getD 0
  if lengths.all (· == 0) then .ok (Code.constant 0)
  else if isOver lengths || isIncomplete lengths then .error .lengthCode
  else .ok (Code.ofLengths lengths)

/-- What a repetition symbol repeats, and how often: the last length, or zero. -/
def readRepeat (symbol : Nat) (last : Option Nat) (s : BitStream) :
    Except Fault ((Nat × Nat) × BitStream) :=
  let (base, width) := if symbol = 16 then (3, 2) else if symbol = 17 then (3, 3) else (11, 7)
  match bits width s with
  | .error fault => .error fault
  | .ok (extra, s) =>
    if symbol = 16 then
      match last with
      | none => .error .lengthRepeat
      | some length => .ok ((length, base + extra), s)
    else .ok ((0, base + extra), s)

theorem three_le_of_readRepeat {symbol length count : Nat} {last : Option Nat} {s r : BitStream}
    (h : readRepeat symbol last s = .ok ((length, count), r)) : 3 ≤ count := by
  unfold readRepeat at h
  split at h
  next base width hb =>
  have hbase : 3 ≤ base := by
    split at hb
    · simp only [Prod.mk.injEq] at hb
      omega
    · split at hb <;> simp only [Prod.mk.injEq] at hb <;> omega
  split at h
  · cases h
  · split at h
    · split at h
      · cases h
      · simp only [Except.ok.injEq, Prod.mk.injEq] at h
        omega
    · simp only [Except.ok.injEq, Prod.mk.injEq] at h
      omega

/-- The next `missing` code lengths, behind those read so far, which are held last first. -/
def readLengths (code : Code) (missing : Nat) (done : List Nat) (s : BitStream) :
    Except Fault (List Nat × BitStream) :=
  if missing = 0 then .ok (done.reverse, s)
  else match code.read .lengthCode s with
    | .error fault => .error fault
    | .ok (symbol, s) =>
      if symbol < 16 then readLengths code (missing - 1) (symbol :: done) s
      else match _h : readRepeat symbol done.head? s with
        | .error fault => .error fault
        | .ok ((length, count), s) =>
          if missing < count then .error .lengthRepeat
          else readLengths code (missing - count) (List.replicate count length ++ done) s
  termination_by missing
  decreasing_by
  · omega
  · have := three_le_of_readRepeat ‹_›
    omega

/-- The codes of the given lengths; the code for literals needs a word for the end of the block. -/
def codesOf (literals distances : List Nat) : Except Fault Codes :=
  if literals.getD 256 0 = 0 then .error .missingEnd
  else if !isUsable literals then .error .literalLengths
  else if !isUsable distances then .error .distanceLengths
  else .ok ⟨Code.ofLengths literals, Code.ofLengths distances⟩

/-- The **codes at the head of a block**. -/
def readCodes (s : BitStream) : Except Fault (Codes × BitStream) := do
  let (counts, s) ← bits 14 s
  let literals := counts % 32 + 257
  let distances := counts / 32 % 32 + 1
  let written := counts / 1024 + 4
  if 286 < literals ∨ 30 < distances then throw .tooManySymbols
  let (written, s) ← triples written [] s
  let code ← lengthCode written
  let (lengths, s) ← readLengths code (literals + distances) [] s
  let codes ← codesOf (lengths.take literals) (lengths.drop literals)
  return (codes, s)

/-! ## Blocks -/

/-- Appends the next `n` bytes. -/
def appendBytes : (n : Nat) → Output → Bytes → Except Fault (Output × Bytes)
  | 0, out, rest => .ok (out, rest)
  | _ + 1, _, [] => .error .truncated
  | n + 1, out, b :: rest => appendBytes n (out.push b) rest

/-- A block of bytes as they are: it begins at a byte, with its length and the complement of
that. -/
def readStored (out : Output) (s : BitStream) : Except Fault (Output × BitStream) :=
  match s.bytes with
  | a :: b :: c :: d :: rest =>
    let length := a.toNat + 256 * b.toNat
    if length + (c.toNat + 256 * d.toNat) = 65535 then
      match appendBytes length out rest with
      | .error fault => .error fault
      | .ok (out, rest) => .ok (out, .ofBytes rest)
    else .error .storedLength
  | _ => .error .truncated

/-- The contents of a block of the given kind. -/
def readBlock (kind : Nat) (out : Output) (s : BitStream) : Except Fault (Output × BitStream) :=
  match kind with
  | 0 => readStored out s
  | 1 => readItems fixedCodes out s
  | 2 =>
    match readCodes s with
    | .error fault => .error fault
    | .ok (codes, s) => readItems codes out s
  | _ => .error .blockType

/-- All blocks up to the last, behind the output so far. A block takes at least the three bits of
its head, so the bits left bound the number of blocks. -/
def readBlocks : (fuel : Nat) → Output → BitStream → Except Fault (Output × BitStream)
  | 0, _, _ => .error .truncated
  | fuel + 1, out, s =>
    match bits 3 s with
    | .error fault => .error fault
    | .ok (head, s) =>
      match readBlock (head / 2) out s with
      | .error fault => .error fault
      | .ok (out, s) =>
        if head % 2 = 1 then .ok (out, s) else readBlocks fuel out s

/-- The **output of compressed data**, and the bytes that follow it. -/
def inflate (data : Bytes) : Except Fault (Output × Bytes) :=
  match readBlocks (8 * data.length + 1) #[] (.ofBytes data) with
  | .error fault => .error fault
  | .ok (out, s) => .ok (out, s.bytes)

end Drift.Deflate
