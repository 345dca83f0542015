import Drift.Deflate.Bits

/-!
# Prefix codes

A code is given by the length of each symbol's code word: words of one length follow each other in
the order of their symbols, and longer words follow shorter ones.

* `Code` — a code as a binary tree; `Code.ofLengths` grows it from the left, which lays the words
  out in exactly that order.
* `kraft`, `isOver`, `isIncomplete` — whether the lengths ask for more words than there are, or
  leave some unused.
* `Code.read` — the symbol whose word comes next. It takes at least one bit (`size_read`).
-/

namespace Drift.Deflate

/-- Why compressed data is **refused**. -/
inductive Fault where
  /-- The data ends too early. -/
  | truncated
  /-- A block of the reserved kind. -/
  | blockType
  /-- The length of a stored block and its complement disagree. -/
  | storedLength
  /-- More symbols than a code has. -/
  | tooManySymbols
  /-- The code for code lengths is no complete code. -/
  | lengthCode
  /-- A repetition of code lengths without a first one, or beyond the last symbol. -/
  | lengthRepeat
  /-- No code word for the end of the block. -/
  | missingEnd
  /-- The code for literals and lengths is no code. -/
  | literalLengths
  /-- The code for distances is no code. -/
  | distanceLengths
  /-- The bits are no word of the code for literals and lengths. -/
  | literalCode
  /-- The bits are no word of the code for distances. -/
  | distanceCode
  /-- A distance that reaches before the start of the output. -/
  | distanceTooFar
  deriving DecidableEq, Repr

/-- The code words below a node. -/
inductive Tree where
  | unused
  | leaf (symbol : Nat)
  | fork (zero one : Tree)
  deriving DecidableEq, Repr

/-- A **prefix code**: the words that begin with each bit. -/
structure Code where
  zero : Tree
  one : Tree
  deriving DecidableEq, Repr

/-! ## Lengths -/

/-- The greatest length of a code word. -/
def maxLength : Nat := 15

/-- How much of all words of the greatest length the given lengths take; a length of zero takes
none. -/
def kraft : (lengths : List Nat) → Nat
  | [] => 0
  | 0 :: lengths => kraft lengths
  | l :: lengths => 1 <<< (maxLength - l) + kraft lengths

/-- There are more words than the lengths allow. -/
def isOver (lengths : List Nat) : Bool := 1 <<< maxLength < kraft lengths

/-- Some words are left unused. -/
def isIncomplete (lengths : List Nat) : Bool := kraft lengths < 1 <<< maxLength

/-- No symbol has a word longer than one bit. -/
def isShort (lengths : List Nat) : Bool := lengths.all (· ≤ 1)

/-- Whether symbols may be read by these lengths: not with too many words, and with unused ones only
when no word is longer than one bit. -/
def isUsable (lengths : List Nat) : Bool :=
  !isOver lengths && (!isIncomplete lengths || isShort lengths)

/-! ## Trees -/

/-- The lengths and symbols of all words, in the order of the words. -/
def wordOrder (lengths : List Nat) : List (Nat × Nat) :=
  (List.range' 1 maxLength).flatMap fun l =>
    lengths.zipIdx.filter fun entry => entry.1 = l

/-- The tree at a depth for the first of the given words, and the words that remain. A word ends
here when its length is the depth; otherwise both branches are grown, the left one first. -/
def grow : (room : Nat) → (depth : Nat) → List (Nat × Nat) → Tree × List (Nat × Nat)
  | _, _, [] => (.unused, [])
  | room, depth, (length, symbol) :: rest =>
    if length = depth then (.leaf symbol, rest)
    else match room with
      | 0 => (.unused, (length, symbol) :: rest)
      | room + 1 =>
        let (zero, rest) := grow room (depth + 1) ((length, symbol) :: rest)
        let (one, rest) := grow room (depth + 1) rest
        (.fork zero one, rest)

namespace Code

/-- The **code of these word lengths**. -/
def ofLengths (lengths : List Nat) : Code :=
  let (zero, rest) := grow (maxLength - 1) 1 (wordOrder lengths)
  let (one, _) := grow (maxLength - 1) 1 rest
  ⟨zero, one⟩

/-- The code in which either bit stands for the same symbol. -/
def constant (symbol : Nat) : Code := ⟨.leaf symbol, .leaf symbol⟩

end Code

/-! ## Reading -/

/-- The symbol below a node whose word comes next. -/
def Tree.read (invalid : Fault) : Tree → BitStream → Except Fault (Nat × BitStream)
  | unused, _ => .error invalid
  | leaf symbol, s => .ok (symbol, s)
  | fork zero one, s =>
    match s.next? with
    | none => .error .truncated
    | some (false, s) => zero.read invalid s
    | some (true, s) => one.read invalid s

/-- The **symbol whose word comes next**; bits that begin no word are the given fault. -/
def Code.read (c : Code) (invalid : Fault) (s : BitStream) : Except Fault (Nat × BitStream) :=
  match s.next? with
  | none => .error .truncated
  | some (false, s) => c.zero.read invalid s
  | some (true, s) => c.one.read invalid s

theorem Tree.size_read {invalid : Fault} {t : Tree} {s r : BitStream} {symbol : Nat}
    (h : t.read invalid s = .ok (symbol, r)) : r.size ≤ s.size := by
  induction t generalizing s with
  | unused => cases h
  | leaf _ =>
    simp only [Tree.read, Except.ok.injEq, Prod.mk.injEq] at h
    exact Nat.le_of_eq (congrArg BitStream.size h.2.symm)
  | fork zero one hz ho =>
    simp only [Tree.read] at h
    split at h
    · cases h
    · next hn =>
      have := BitStream.size_next? hn
      have := hz h
      omega
    · next hn =>
      have := BitStream.size_next? hn
      have := ho h
      omega

/-- Reading a symbol takes at least one bit. -/
theorem Code.size_read {c : Code} {invalid : Fault} {s r : BitStream} {symbol : Nat}
    (h : c.read invalid s = .ok (symbol, r)) : r.size < s.size := by
  unfold Code.read at h
  split at h
  · cases h
  · next hn =>
    have := BitStream.size_next? hn
    have := Tree.size_read h
    omega
  · next hn =>
    have := BitStream.size_next? hn
    have := Tree.size_read h
    omega

end Drift.Deflate
