import Drift.Proofs.Deflate.Bits
import Mathlib.Data.List.Basic

/-!
# Code words

* `Word` — the code words of lengths: words of one length count up in the order of their symbols,
  from where the shorter ones end.
* `Tree.Leaf` — the paths of a tree.
* `Starts` — the place of a word, behind what the words before it take; `Tree.Holds` — the paths of
  a tree are the words of a list, each at its place.
* `Tree.Takes`, `takes_of_grow` — a tree that is grown takes words until it has no room left.
* **`Code.read_ofLengths_iff`** — a symbol is read exactly when one of its words comes next.
-/

namespace Drift.Deflate

open BitStream (Begins begins_nil_iff begins_cons_iff)

/-! ## Words -/

/-- The number that a word spells, **highest bit first**. -/
def value : List Bool → Nat
  | [] => 0
  | b :: bits => b.toNat * 1 <<< bits.length + value bits

/-- The first word of a length: it follows all shorter ones. -/
def firstWord (lengths : List Nat) : (length : Nat) → Nat
  | 0 => 0
  | 1 => 0
  | length + 2 => 2 * (firstWord lengths (length + 1) + lengths.count (length + 1))

/-- The **word of a symbol**: it follows those of its length that belong to smaller symbols. -/
structure Word (lengths : List Nat) (bits : List Bool) (symbol : Nat) : Prop where
  pos : 0 < bits.length
  le : bits.length ≤ maxLength
  length : lengths[symbol]? = some bits.length
  value : value bits = firstWord lengths bits.length + (lengths.take symbol).count bits.length

instance (lengths : List Nat) (bits : List Bool) (symbol : Nat) :
    Decidable (Word lengths bits symbol) :=
  decidable_of_iff
    (0 < bits.length ∧ bits.length ≤ maxLength ∧ lengths[symbol]? = some bits.length ∧
      Deflate.value bits
        = firstWord lengths bits.length + (lengths.take symbol).count bits.length)
    ⟨fun ⟨hpos, hle, hlength, hvalue⟩ => ⟨hpos, hle, hlength, hvalue⟩,
      fun ⟨hpos, hle, hlength, hvalue⟩ => ⟨hpos, hle, hlength, hvalue⟩⟩

theorem value_lt (bits : List Bool) : value bits < 1 <<< bits.length := by
  induction bits with
  | nil => exact Nat.one_pos
  | cons b bits ih =>
    rw [value, List.length_cons, Nat.shiftLeft_succ]
    cases b
    · rw [Bool.toNat_false]
      omega
    · rw [Bool.toNat_true]
      omega

/-! ## Trees -/

/-- The symbol at the end of a **path** from the root. -/
inductive Tree.Leaf : (t : Tree) → (path : List Bool) → (symbol : Nat) → Prop where
  | leaf (symbol : Nat) : Leaf (.leaf symbol) [] symbol
  | zero {zero one : Tree} {path : List Bool} {symbol : Nat} (h : Leaf zero path symbol) :
      Leaf (.fork zero one) (false :: path) symbol
  | one {zero one : Tree} {path : List Bool} {symbol : Nat} (h : Leaf one path symbol) :
      Leaf (.fork zero one) (true :: path) symbol

namespace Tree

theorem not_leaf_unused {path : List Bool} {symbol : Nat} : ¬ unused.Leaf path symbol := nofun

theorem leaf_leaf_iff {path : List Bool} {symbol found : Nat} :
    (leaf symbol).Leaf path found ↔ path = [] ∧ found = symbol := by
  constructor
  · rintro ⟨⟩
    exact ⟨rfl, rfl⟩
  · rintro ⟨rfl, rfl⟩
    exact .leaf found

theorem not_leaf_fork_nil {zero one : Tree} {symbol : Nat} : ¬ (fork zero one).Leaf [] symbol :=
  nofun

theorem leaf_fork_cons_iff {zero one : Tree} {b : Bool} {path : List Bool} {symbol : Nat} :
    (fork zero one).Leaf (b :: path) symbol ↔ (if b then one else zero).Leaf path symbol := by
  constructor
  · rintro (_ | h | h) <;> exact h
  · cases b
    · exact .zero
    · exact .one

theorem read_eq_ok_iff {invalid : Fault} {t : Tree} {s r : BitStream} {symbol : Nat} :
    t.read invalid s = .ok (symbol, r) ↔ ∃ path, t.Leaf path symbol ∧ Begins s path r := by
  induction t generalizing s with
  | unused => exact ⟨nofun, fun ⟨_, h, _⟩ => absurd h not_leaf_unused⟩
  | leaf _ =>
    simp only [read, Except.ok.injEq, Prod.mk.injEq, leaf_leaf_iff]
    constructor
    · rintro ⟨rfl, rfl⟩
      exact ⟨[], ⟨rfl, rfl⟩, .nil s⟩
    · rintro ⟨_, ⟨rfl, rfl⟩, h⟩
      exact ⟨rfl, (begins_nil_iff.1 h).symm⟩
  | fork zero one hz ho =>
    rw [read]
    constructor
    · intro h
      split at h
      · cases h
      · next hs =>
        obtain ⟨path, hpath, hb⟩ := hz.1 h
        exact ⟨false :: path, .zero hpath, .cons hs hb⟩
      · next hs =>
        obtain ⟨path, hpath, hb⟩ := ho.1 h
        exact ⟨true :: path, .one hpath, .cons hs hb⟩
    · rintro ⟨_ | ⟨b, path⟩, hpath, hb⟩
      · exact absurd hpath not_leaf_fork_nil
      · obtain ⟨t, hs, ht⟩ := begins_cons_iff.1 hb
        rw [leaf_fork_cons_iff] at hpath
        rw [hs]
        cases b
        · exact hz.2 ⟨path, hpath, ht⟩
        · exact ho.2 ⟨path, hpath, ht⟩

end Tree

/-! ## Words at their places -/

theorem kraft_append (a b : List Nat) : kraft (a ++ b) = kraft a + kraft b := by
  induction a with
  | nil => exact (Nat.zero_add _).symm
  | cons l a ih =>
    cases l with
    | zero => exact ih
    | succ l =>
      change 1 <<< (maxLength - (l + 1)) + kraft (a ++ b) = _ + kraft a + kraft b
      rw [ih, Nat.add_assoc]

/-- How much of all words of the greatest length some words take. -/
def extent (words : List (Nat × Nat)) : Nat := kraft (words.map Prod.fst)

theorem extent_append (a b : List (Nat × Nat)) : extent (a ++ b) = extent a + extent b := by
  rw [extent, List.map_append, kraft_append]
  rfl

theorem extent_cons {length symbol : Nat} (h : 0 < length) (words : List (Nat × Nat)) :
    extent ((length, symbol) :: words) = 1 <<< (maxLength - length) + extent words := by
  cases length with
  | zero => cases h
  | succ length => rfl

theorem shiftLeft_pos (n : Nat) : 0 < 1 <<< n := by
  rw [Nat.shiftLeft_eq, Nat.one_mul]
  exact Nat.two_pow_pos n

theorem shiftLeft_mul_shiftLeft (m n : Nat) : 1 <<< m * 1 <<< n = 1 <<< (m + n) := by
  simp only [Nat.shiftLeft_eq, Nat.one_mul, Nat.pow_add]

/-- A word **starts at a place**, behind what the words before it take. -/
def Starts (words : List (Nat × Nat)) (w : Nat × Nat) (place : Nat) : Prop :=
  ∃ i, words[i]? = some w ∧ place = extent (words.take i)

/-- A path from a node at a depth leads to one of the words, which starts where the path leads. -/
def Placed (depth : Nat) (words : List (Nat × Nat)) (path : List Bool) (symbol : Nat) : Prop :=
  Starts words (depth + path.length, symbol)
    (value path * 1 <<< (maxLength - (depth + path.length)))

/-- A tree at a depth **holds** words: there is room for them, and its paths lead to them. -/
structure Tree.Holds (t : Tree) (depth : Nat) (words : List (Nat × Nat)) : Prop where
  room : extent words ≤ 1 <<< (maxLength - depth)
  leaf_iff (path : List Bool) (symbol : Nat) :
    t.Leaf path symbol ↔ Placed depth words path symbol

variable {depth place : Nat} {words rest left right : List (Nat × Nat)} {w : Nat × Nat}
  {path : List Bool} {symbol : Nat}

theorem Starts.mem (h : Starts words w place) : w ∈ words := by
  obtain ⟨i, hi, -⟩ := h
  exact List.mem_of_getElem? hi

/-- Words in front keep their places, the others start **behind all of them**. -/
theorem starts_append_iff :
    Starts (left ++ right) w place ↔
      Starts left w place ∨ ∃ next, Starts right w next ∧ place = extent left + next := by
  constructor
  · rintro ⟨i, hi, rfl⟩
    rcases Nat.lt_or_ge i left.length with h | h
    · rw [List.getElem?_append_left h] at hi
      rw [List.take_append_of_le_length (Nat.le_of_lt h)]
      exact .inl ⟨i, hi, rfl⟩
    · obtain ⟨j, rfl⟩ := Nat.exists_eq_add_of_le h
      rw [List.getElem?_append_right h, Nat.add_sub_cancel_left] at hi
      rw [List.take_length_add_append, extent_append]
      exact .inr ⟨_, ⟨j, hi, rfl⟩, rfl⟩
  · rintro (⟨i, hi, rfl⟩ | ⟨_, ⟨j, hj, rfl⟩, rfl⟩)
    · have h := (List.getElem?_eq_some_iff.1 hi).1
      refine ⟨i, by rw [List.getElem?_append_left h, hi], ?_⟩
      rw [List.take_append_of_le_length (Nat.le_of_lt h)]
    · refine ⟨left.length + j, ?_, ?_⟩
      · rw [List.getElem?_append_right (Nat.le_add_right _ _), Nat.add_sub_cancel_left, hj]
      · rw [List.take_length_add_append, extent_append]

theorem Starts.lt_extent (h : Starts words w place) (hpos : 0 < w.1) : place < extent words := by
  obtain ⟨i, hi, rfl⟩ := h
  obtain ⟨hlt, hget⟩ := List.getElem?_eq_some_iff.1 hi
  have hsplit : words = words.take i ++ w :: words.drop (i + 1) := by
    rw [← hget, List.getElem_cons_drop, List.take_append_drop]
  have := shiftLeft_pos (maxLength - w.1)
  have hextent := congrArg extent hsplit
  rw [extent_append, extent_cons hpos] at hextent
  omega

theorem shiftLeft_room (h : depth < maxLength) :
    2 * 1 <<< (maxLength - (depth + 1)) = 1 <<< (maxLength - depth) := by
  rw [← Nat.shiftLeft_succ]
  congr 1
  omega

theorem value_mul_lt (h : depth + path.length ≤ maxLength) :
    value path * 1 <<< (maxLength - (depth + path.length)) < 1 <<< (maxLength - depth) := by
  have hroom : path.length + (maxLength - (depth + path.length)) = maxLength - depth := by omega
  rw [← hroom, ← shiftLeft_mul_shiftLeft]
  exact Nat.mul_lt_mul_of_pos_right (value_lt path) (shiftLeft_pos _)

theorem value_cons_mul {b : Bool} (h : depth + 1 + path.length ≤ maxLength) :
    value (b :: path) * 1 <<< (maxLength - (depth + 1 + path.length))
      = b.toNat * 1 <<< (maxLength - (depth + 1))
        + value path * 1 <<< (maxLength - (depth + 1 + path.length)) := by
  have hroom : path.length + (maxLength - (depth + 1 + path.length)) = maxLength - (depth + 1) := by
    omega
  rw [value, Nat.add_mul, Nat.mul_assoc, shiftLeft_mul_shiftLeft, hroom]

section Fork

variable (hfull : right ≠ [] → extent left = 1 <<< (maxLength - (depth + 1)))
  (hlengths : ∀ w ∈ left ++ right, depth < w.1 ∧ w.1 ≤ maxLength)

include hfull hlengths

theorem placed_false_iff :
    Placed depth (left ++ right) (false :: path) symbol ↔ Placed (depth + 1) left path symbol := by
  have hlength : depth + (false :: path).length = depth + 1 + path.length := by
    rw [List.length_cons]
    omega
  rw [Placed, hlength, starts_append_iff, Placed]
  constructor
  · rintro (h | ⟨next, h, hplace⟩)
    · have hle := (hlengths _ (List.mem_append_left right h.mem)).2
      rwa [value_cons_mul hle, Bool.toNat_false, Nat.zero_mul, Nat.zero_add] at h
    · have hle := (hlengths _ (List.mem_append_right left h.mem)).2
      have hlt := value_mul_lt hle
      rw [value_cons_mul hle, hfull (List.ne_nil_of_mem h.mem), Bool.toNat_false, Nat.zero_mul,
        Nat.zero_add] at hplace
      omega
  · intro h
    have hle := (hlengths _ (List.mem_append_left right h.mem)).2
    rw [value_cons_mul hle, Bool.toNat_false, Nat.zero_mul, Nat.zero_add]
    exact .inl h

theorem placed_true_iff (hleft : extent left ≤ 1 <<< (maxLength - (depth + 1))) :
    Placed depth (left ++ right) (true :: path) symbol ↔ Placed (depth + 1) right path symbol := by
  have hlength : depth + (true :: path).length = depth + 1 + path.length := by
    rw [List.length_cons]
    omega
  rw [Placed, hlength, starts_append_iff, Placed]
  constructor
  · rintro (h | ⟨next, h, hplace⟩)
    · have hle := (hlengths _ (List.mem_append_left right h.mem)).2
      have hlt := h.lt_extent (by simp only; omega)
      rw [value_cons_mul hle, Bool.toNat_true, Nat.one_mul] at hlt
      omega
    · have hle := (hlengths _ (List.mem_append_right left h.mem)).2
      rw [value_cons_mul hle, hfull (List.ne_nil_of_mem h.mem), Bool.toNat_true,
        Nat.one_mul] at hplace
      obtain rfl := Nat.add_left_cancel hplace
      exact h
  · intro h
    have hle := (hlengths _ (List.mem_append_right left h.mem)).2
    refine .inr ⟨_, h, ?_⟩
    rw [value_cons_mul hle, hfull (List.ne_nil_of_mem h.mem), Bool.toNat_true, Nat.one_mul]

end Fork

/-- The words of both branches, when the first has **no room left** for those of the second. -/
theorem Tree.Holds.fork {zero one : Tree} (hzero : zero.Holds (depth + 1) left)
    (hone : one.Holds (depth + 1) right)
    (hfull : right ≠ [] → extent left = 1 <<< (maxLength - (depth + 1)))
    (hlengths : ∀ w ∈ left ++ right, depth < w.1 ∧ w.1 ≤ maxLength) (hdepth : depth < maxLength) :
    (Tree.fork zero one).Holds depth (left ++ right) where
  room := by
    have := hzero.room
    have := hone.room
    rw [extent_append, ← shiftLeft_room hdepth]
    omega
  leaf_iff path symbol := by
    cases path with
    | nil =>
      -- The words end below this node.
      refine ⟨fun h => absurd h Tree.not_leaf_fork_nil, ?_⟩
      rintro ⟨i, hi, -⟩
      exact absurd (hlengths _ (List.mem_of_getElem? hi)).1 (Nat.lt_irrefl depth)
    | cons b path =>
      rw [Tree.leaf_fork_cons_iff]
      cases b with
      | false => exact (hzero.leaf_iff path symbol).trans (placed_false_iff hfull hlengths).symm
      | true =>
        exact (hone.leaf_iff path symbol).trans (placed_true_iff hfull hlengths hzero.room).symm

theorem placed_append_iff (hfull : rest ≠ [] → extent words = 1 <<< (maxLength - depth))
    (hlengths : ∀ w ∈ rest, w.1 ≤ maxLength) :
    Placed depth (words ++ rest) path symbol ↔ Placed depth words path symbol := by
  rw [Placed, starts_append_iff]
  refine or_iff_left ?_
  rintro ⟨next, h, hplace⟩
  have := value_mul_lt (hlengths _ h.mem)
  rw [hfull (List.ne_nil_of_mem h.mem)] at hplace
  omega

/-! ## Growing -/

theorem holds_unused (depth : Nat) : Tree.unused.Holds depth [] where
  room := Nat.zero_le _
  leaf_iff _ _ := ⟨fun h => absurd h Tree.not_leaf_unused, fun ⟨_, hi, _⟩ => nomatch hi⟩

theorem holds_leaf (hpos : 0 < depth) (symbol : Nat) :
    (Tree.leaf symbol).Holds depth [(depth, symbol)] where
  room := by
    rw [extent_cons hpos]
    exact Nat.le_refl _
  leaf_iff path found := by
    rw [Tree.leaf_leaf_iff]
    constructor
    · rintro ⟨rfl, rfl⟩
      exact ⟨0, rfl, Nat.zero_mul _⟩
    · rintro ⟨i, hi, -⟩
      obtain ⟨hlength, rfl⟩ := Prod.mk.inj (List.mem_singleton.1 (List.mem_of_getElem? hi))
      exact ⟨List.eq_nil_of_length_eq_zero (by omega), rfl⟩

/-- A tree **takes** words from the front of a list and leaves the others: it holds what it takes,
and it has no room left when there are others. -/
def Tree.Takes (t : Tree) (depth : Nat) (words rest : List (Nat × Nat)) : Prop :=
  ∃ taken, words = taken ++ rest ∧ t.Holds depth taken ∧
    (rest ≠ [] → extent taken = 1 <<< (maxLength - depth))

theorem Tree.Takes.sublist {t : Tree} (h : t.Takes depth words rest) : rest.Sublist words := by
  obtain ⟨taken, rfl, -⟩ := h
  exact List.sublist_append_right taken rest

theorem Tree.Takes.fork {zero one : Tree} (hzero : zero.Takes (depth + 1) words left)
    (hone : one.Takes (depth + 1) left rest)
    (hlengths : ∀ w ∈ words, depth < w.1 ∧ w.1 ≤ maxLength) (hdepth : depth < maxLength) :
    (Tree.fork zero one).Takes depth words rest := by
  obtain ⟨low, rfl, hzero, hfullLow⟩ := hzero
  obtain ⟨high, rfl, hone, hfullHigh⟩ := hone
  rw [← List.append_assoc] at hlengths
  have hfork := hzero.fork hone (fun hne => hfullLow fun h => hne (List.append_eq_nil_iff.1 h).1)
    (fun w hw => hlengths w (List.mem_append_left rest hw)) hdepth
  refine ⟨low ++ high, (List.append_assoc ..).symm, hfork, fun hne => ?_⟩
  rw [extent_append, hfullLow fun h => hne (List.append_eq_nil_iff.1 h).2, hfullHigh hne,
    ← Nat.two_mul, shiftLeft_room hdepth]

theorem takes_leaf (hpos : 0 < depth) (symbol : Nat) (rest : List (Nat × Nat)) :
    (Tree.leaf symbol).Takes depth ((depth, symbol) :: rest) rest :=
  ⟨[(depth, symbol)], rfl, holds_leaf hpos symbol, fun _ => extent_cons hpos []⟩

theorem takes_unused (depth : Nat) : Tree.unused.Takes depth [] [] :=
  ⟨[], rfl, holds_unused depth, fun h => absurd rfl h⟩

theorem grow_here (room depth symbol : Nat) (rest : List (Nat × Nat)) :
    grow room depth ((depth, symbol) :: rest) = (.leaf symbol, rest) := by
  cases room <;> exact if_pos rfl

/-- Behind a longer word, all words of a sorted list **end below the node**. -/
theorem deeper_of_sorted {length : Nat} (hsorted : ((length, symbol) :: words).Pairwise (·.1 ≤ ·.1))
    (hlengths : ∀ w ∈ (length, symbol) :: words, depth ≤ w.1 ∧ w.1 ≤ maxLength)
    (hne : length ≠ depth) :
    ∀ w ∈ (length, symbol) :: words, depth + 1 ≤ w.1 ∧ w.1 ≤ maxLength := by
  have hfirst : depth ≤ length := (hlengths _ List.mem_cons_self).1
  intro w hw
  refine ⟨?_, (hlengths w hw).2⟩
  rcases List.mem_cons.1 hw with rfl | hmem
  · simp only
    omega
  · have hle : length ≤ w.1 := List.rel_of_pairwise_cons hsorted hmem
    omega

/-- A tree that is grown **takes the words** that begin with its path. -/
theorem takes_of_grow {room : Nat} {t : Tree} (h : grow room depth words = (t, rest))
    (hroom : depth + room = maxLength) (hpos : 0 < depth)
    (hsorted : words.Pairwise (·.1 ≤ ·.1)) (hlengths : ∀ w ∈ words, depth ≤ w.1 ∧ w.1 ≤ maxLength) :
    t.Takes depth words rest := by
  induction room generalizing depth words rest t with
  | zero =>
    cases words with
    | nil => cases h; exact takes_unused depth
    | cons w words =>
      obtain ⟨length, symbol⟩ := w
      have := hlengths _ List.mem_cons_self
      obtain rfl : length = depth := by simp only at this; omega
      rw [grow_here] at h
      cases h
      exact takes_leaf hpos symbol _
  | succ room ih =>
    cases words with
    | nil => cases h; exact takes_unused depth
    | cons w words =>
      obtain ⟨length, symbol⟩ := w
      by_cases heq : length = depth
      · subst heq
        rw [grow_here] at h
        cases h
        exact takes_leaf hpos symbol _
      · have hdeep := deeper_of_sorted hsorted hlengths heq
        cases hz : grow room (depth + 1) ((length, symbol) :: words) with
        | mk zero middle =>
        cases ho : grow room (depth + 1) middle with
        | mk one last =>
        rw [grow, if_neg heq] at h
        simp only [hz, ho] at h
        cases h
        have hzero := ih hz (by omega) (Nat.succ_pos _) hsorted hdeep
        have hone := ih ho (by omega) (Nat.succ_pos _) (hsorted.sublist hzero.sublist)
          fun w hw => hdeep w (hzero.sublist.subset hw)
        exact hzero.fork hone hdeep (by omega)

/-! ## The order of the words -/

/-- The words of one length, in the order of their symbols, which count up from the given one. -/
def wordsOf (length : Nat) (lengths : List Nat) (start : Nat) : List (Nat × Nat) :=
  (lengths.zipIdx start).filter fun entry => entry.1 = length

/-- The words up to a length, in their order. -/
def wordsUpTo (lengths : List Nat) (n : Nat) : List (Nat × Nat) :=
  (List.range' 1 n).flatMap fun length => wordsOf length lengths 0

variable {lengths : List Nat} {length start i : Nat}

theorem wordOrder_eq (lengths : List Nat) : wordOrder lengths = wordsUpTo lengths maxLength := rfl

theorem wordsUpTo_succ (lengths : List Nat) (n : Nat) :
    wordsUpTo lengths (n + 1) = wordsUpTo lengths n ++ wordsOf (n + 1) lengths 0 := by
  simp only [wordsUpTo, List.range'_concat, List.flatMap_append, List.flatMap_singleton,
    Nat.one_mul, Nat.add_comm 1 n]

theorem length_eq_of_mem_wordsOf {w : Nat × Nat} (h : w ∈ wordsOf length lengths start) :
    w.1 = length :=
  of_decide_eq_true (List.mem_filter.1 h).2

theorem pairwise_wordOrder (lengths : List Nat) : (wordOrder lengths).Pairwise (·.1 ≤ ·.1) := by
  refine List.pairwise_flatMap.2 ⟨fun length _ => ?_, ?_⟩
  · refine List.pairwise_of_forall_mem_list fun a ha b hb => ?_
    exact Nat.le_of_eq
      ((length_eq_of_mem_wordsOf ha).trans (length_eq_of_mem_wordsOf hb).symm)
  · refine (List.pairwise_lt_range' 1).imp fun hlt a ha b hb => ?_
    rw [length_eq_of_mem_wordsOf ha, length_eq_of_mem_wordsOf hb]
    exact Nat.le_of_lt hlt

theorem mem_wordOrder {w : Nat × Nat} (h : w ∈ wordOrder lengths) :
    0 < w.1 ∧ w.1 ≤ maxLength := by
  obtain ⟨length, hlength, hw⟩ := List.mem_flatMap.1 h
  rw [length_eq_of_mem_wordsOf hw]
  have := List.mem_range'_1.1 hlength
  omega

theorem wordsOf_cons (x : Nat) : wordsOf length (x :: lengths) start =
    if x = length then (x, start) :: wordsOf length lengths (start + 1)
    else wordsOf length lengths (start + 1) := by
  rw [wordsOf, List.zipIdx_cons, List.filter_cons]
  simp only [decide_eq_true_eq]
  rfl

theorem getElem?_wordsOf_iff {w : Nat × Nat} :
    (wordsOf length lengths start)[i]? = some w ↔
      ∃ symbol, w = (length, symbol + start) ∧ lengths[symbol]? = some length ∧
        (lengths.take symbol).count length = i := by
  induction lengths generalizing start i with
  | nil => exact ⟨nofun, fun ⟨_, _, h, _⟩ => nomatch h⟩
  | cons x lengths ih =>
    have hshift (n : Nat) : n + 1 + start = n + (start + 1) := Nat.add_right_comm n 1 start
    rw [wordsOf_cons, ← Nat.or_exists_add_one]
    simp only [List.getElem?_cons_zero, List.getElem?_cons_succ, List.take_zero, List.count_nil,
      List.take_succ_cons, Nat.zero_add, hshift]
    by_cases h : x = length
    · rw [if_pos h, h]
      cases i with
      | zero => simp [eq_comm]
      | succ i =>
        rw [List.getElem?_cons_succ, ih]
        simp
    · rw [if_neg h, ih]
      simp [h]

theorem length_wordsOf : (wordsOf length lengths start).length = lengths.count length := by
  induction lengths generalizing start with
  | nil => rfl
  | cons x lengths ih =>
    rw [wordsOf_cons, List.count_cons]
    by_cases h : x = length <;> simp [h, ih]

theorem extent_of_forall_eq (hpos : 0 < length) (h : ∀ w ∈ words, w.1 = length) :
    extent words = words.length * 1 <<< (maxLength - length) := by
  induction words with
  | nil => exact (Nat.zero_mul _).symm
  | cons w words ih =>
    obtain ⟨found, symbol⟩ := w
    rw [List.forall_mem_cons] at h
    obtain rfl : found = length := h.1
    rw [extent_cons hpos, ih h.2, List.length_cons, Nat.succ_mul, Nat.add_comm]

theorem extent_wordsUpTo (lengths : List Nat) {n : Nat} (h : n < maxLength) :
    extent (wordsUpTo lengths n)
      = firstWord lengths (n + 1) * 1 <<< (maxLength - (n + 1)) := by
  induction n with
  | zero => exact (Nat.zero_mul _).symm
  | succ n ih =>
    have hroom : maxLength - (n + 1) = maxLength - (n + 2) + 1 := by omega
    rw [wordsUpTo_succ, extent_append, ih (by omega),
      extent_of_forall_eq (Nat.succ_pos n) fun w => length_eq_of_mem_wordsOf, length_wordsOf,
      firstWord, ← Nat.add_mul, hroom, Nat.shiftLeft_succ, Nat.mul_left_comm, Nat.mul_assoc]

theorem starts_wordsOf_iff {found : Nat} (hpos : 0 < length) :
    Starts (wordsOf length lengths 0) (found, symbol) place ↔
      found = length ∧ lengths[symbol]? = some length ∧
        place = (lengths.take symbol).count length * 1 <<< (maxLength - length) := by
  have hextent {i : Nat} (hi : i < (wordsOf length lengths 0).length) :
      extent ((wordsOf length lengths 0).take i) = i * 1 <<< (maxLength - length) := by
    rw [extent_of_forall_eq hpos fun w hw => length_eq_of_mem_wordsOf (List.mem_of_mem_take hw),
      List.length_take_of_le (Nat.le_of_lt hi)]
  constructor
  · rintro ⟨i, hi, rfl⟩
    rw [hextent (List.getElem?_eq_some_iff.1 hi).1]
    obtain ⟨_, hw, hlength, rfl⟩ := getElem?_wordsOf_iff.1 hi
    obtain ⟨rfl, rfl⟩ := Prod.mk.inj hw
    exact ⟨rfl, hlength, rfl⟩
  · rintro ⟨rfl, hlength, rfl⟩
    have hi : (wordsOf found lengths 0)[(lengths.take symbol).count found]?
        = some (found, symbol) := getElem?_wordsOf_iff.2 ⟨symbol, rfl, hlength, rfl⟩
    exact ⟨_, hi, (hextent (List.getElem?_eq_some_iff.1 hi).1).symm⟩

theorem starts_wordsUpTo_iff {n m : Nat} (hn : n ≤ maxLength) :
    Starts (wordsUpTo lengths n) (length, symbol) (m * 1 <<< (maxLength - length)) ↔
      (0 < length ∧ length ≤ n) ∧ lengths[symbol]? = some length ∧
        m = firstWord lengths length + (lengths.take symbol).count length := by
  induction n with
  | zero => exact ⟨fun ⟨_, h, _⟩ => (nomatch h), fun ⟨⟨hpos, hle⟩, _⟩ => by omega⟩
  | succ n ih =>
    rw [wordsUpTo_succ, starts_append_iff, ih (Nat.le_of_succ_le hn),
      extent_wordsUpTo lengths hn]
    constructor
    · rintro (⟨⟨hpos, hle⟩, hrest⟩ | ⟨next, h, hplace⟩)
      · exact ⟨⟨hpos, Nat.le_succ_of_le hle⟩, hrest⟩
      · obtain ⟨rfl, hlength, rfl⟩ := (starts_wordsOf_iff (Nat.succ_pos n)).1 h
        rw [← Nat.add_mul] at hplace
        exact ⟨⟨Nat.succ_pos n, Nat.le_refl _⟩, hlength,
          Nat.eq_of_mul_eq_mul_right (shiftLeft_pos _) hplace⟩
    · rintro ⟨⟨hpos, hle⟩, hlength, rfl⟩
      rcases Nat.lt_or_eq_of_le hle with h | rfl
      · exact .inl ⟨⟨hpos, Nat.le_of_lt_succ h⟩, hlength, rfl⟩
      · exact .inr ⟨_, (starts_wordsOf_iff hpos).2 ⟨rfl, hlength, rfl⟩, Nat.add_mul ..⟩

theorem placed_wordOrder_iff :
    Placed 0 (wordOrder lengths) path symbol ↔ Word lengths path symbol := by
  rw [Placed, wordOrder_eq, Nat.zero_add, starts_wordsUpTo_iff (Nat.le_refl _)]
  constructor
  · rintro ⟨⟨hpos, hle⟩, hlength, hvalue⟩
    exact ⟨hpos, hle, hlength, hvalue⟩
  · rintro ⟨hpos, hle, hlength, hvalue⟩
    exact ⟨⟨hpos, hle⟩, hlength, hvalue⟩

theorem leaf_ofLengths_iff :
    (Tree.fork (Code.ofLengths lengths).zero (Code.ofLengths lengths).one).Leaf path symbol ↔
      Word lengths path symbol := by
  cases hz : grow (maxLength - 1) 1 (wordOrder lengths) with
  | mk zero middle =>
  cases ho : grow (maxLength - 1) 1 middle with
  | mk one last =>
  have hcode : Code.ofLengths lengths = ⟨zero, one⟩ := by
    simp only [Code.ofLengths, hz, ho]
  have hsorted := pairwise_wordOrder lengths
  have hlengths : ∀ w ∈ wordOrder lengths, 0 < w.1 ∧ w.1 ≤ maxLength := fun w => mem_wordOrder
  have hzero := takes_of_grow hz rfl Nat.one_pos hsorted hlengths
  have hone := takes_of_grow ho rfl Nat.one_pos (hsorted.sublist hzero.sublist)
    fun w hw => hlengths w (hzero.sublist.subset hw)
  have hfork := hzero.fork hone hlengths (Nat.succ_pos _)
  obtain ⟨taken, htaken, hholds, hfull⟩ := hfork
  rw [← placed_wordOrder_iff, hcode, hholds.leaf_iff, htaken, placed_append_iff hfull]
  intro w hw
  exact (hlengths w (htaken ▸ List.mem_append_right taken hw)).2

/-- A symbol is read **exactly when its word comes next**. -/
theorem Code.read_ofLengths_iff {invalid : Fault} {s r : BitStream} :
    (Code.ofLengths lengths).read invalid s = .ok (symbol, r) ↔
      ∃ word, Word lengths word symbol ∧ Begins s word r := by
  simp only [← leaf_ofLengths_iff]
  exact Tree.read_eq_ok_iff (t := .fork _ _)

/-- The words of eight symbols: one of two bits, five of three bits and two of four bits. -/
example : Word [3, 3, 3, 3, 3, 2, 4, 4] [false, false] 5 ∧
    Word [3, 3, 3, 3, 3, 2, 4, 4] [true, false, true] 3 ∧
    Word [3, 3, 3, 3, 3, 2, 4, 4] [true, true, true, true] 7 := by decide

end Drift.Deflate
