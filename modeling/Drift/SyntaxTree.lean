/-!
# Syntax trees

* `Tree` — a node of a parsed file: its kind, whether it is named, its span and its children. Spans
  are measured in numbers of any kind.
* `Location` — a node together with what surrounds it: the siblings that follow it and the nodes
  above it. `firstChild?`, `nextSibling?`, `nextNamedSibling?` and `parent?` move about.
* `Cursor` — a location that cannot be moved out of the node it was made on; `Cursor.onward?` finds
  the next node that is not below the present one.
* `walkM` — what a selector picks on the way of a cursor through all nodes below a node. The selector
  may do anything else meanwhile; `walk` is the walk with a selector that does not.
* `Location.descendants` — the nodes below a node, each before those below it.
-/

namespace Drift

variable {ν : Type}

/-! ## Trees -/

/-- Where a node lies: its bytes, and its first and last row and column. -/
structure Span (ν : Type) where
  startByte : ν
  stopByte : ν
  startPoint : ν × ν
  stopPoint : ν × ν
  deriving DecidableEq, Repr, Inhabited

/-- A node of a **syntax tree**. -/
inductive Tree (ν : Type) where
  | node (kind : String) (named : Bool) (span : Span ν) (children : List (Tree ν))
  deriving Inhabited

namespace Tree

/-- What the node is. -/
def kind : Tree ν → String
  | node kind .. => kind

/-- The node is named. -/
def named : Tree ν → Bool
  | node _ named .. => named

/-- Where the node lies. -/
def span : Tree ν → Span ν
  | node _ _ span _ => span

/-- The nodes directly below. -/
def children : Tree ν → List (Tree ν)
  | node _ _ _ children => children

mutual

/-- The number of nodes of a tree. -/
def size : Tree ν → Nat
  | node _ _ _ children => sizes children + 1

/-- The number of nodes of several trees. -/
def sizes : List (Tree ν) → Nat
  | [] => 0
  | t :: ts => t.size + sizes ts

end

/-- Every tree has a node. -/
theorem size_pos (t : Tree ν) : 0 < t.size := by
  cases t
  rw [size]
  omega

end Tree

/-! ## Locations -/

/-- A node above, with the siblings that follow it. -/
structure Crumb (ν : Type) where
  tree : Tree ν
  following : List (Tree ν)

/-- A **node in its surroundings**: the siblings that follow it, and the nodes above it from the
nearest on. -/
structure Location (ν : Type) where
  tree : Tree ν
  following : List (Tree ν)
  above : List (Crumb ν)

namespace Location

/-- The root of a tree. -/
def root (t : Tree ν) : Location ν := ⟨t, [], []⟩

/-- The first of the nodes directly below. -/
def firstChild? (l : Location ν) : Option (Location ν) :=
  match l.tree.children with
  | [] => none
  | c :: cs => some ⟨c, cs, ⟨l.tree, l.following⟩ :: l.above⟩

/-- The sibling that follows. -/
def nextSibling? (l : Location ν) : Option (Location ν) :=
  match l.following with
  | [] => none
  | s :: ss => some ⟨s, ss, l.above⟩

/-- The first named sibling that follows. -/
def nextNamedSibling? (l : Location ν) : Option (Location ν) :=
  match l.following.dropWhile (!·.named) with
  | [] => none
  | s :: ss => some ⟨s, ss, l.above⟩

/-- The node directly above. -/
def parent? (l : Location ν) : Option (Location ν) :=
  match l.above with
  | [] => none
  | c :: cs => some ⟨c.tree, c.following, cs⟩

/-- The siblings from an index on; a negative one counts from the end. -/
def siblingsFrom (siblings : List (Tree ν)) (index : Int) : List (Tree ν) :=
  if 0 ≤ index then siblings.drop index.toNat
  else if index.natAbs ≤ siblings.length then siblings.drop (siblings.length - index.natAbs)
  else []

/-- The node at the end of a way down, given by the index of the child to take at each node. -/
def descend? (l : Location ν) : List Int → Option (Location ν)
  | [] => some l
  | i :: rest =>
    match siblingsFrom l.tree.children i with
    | [] => none
    | c :: cs => descend? ⟨c, cs, ⟨l.tree, l.following⟩ :: l.above⟩ rest

mutual

/-- A node and the nodes below it. -/
def visit (following : List (Tree ν)) (above : List (Crumb ν)) : Tree ν → List (Location ν)
  | .node kind named span children =>
    ⟨.node kind named span children, following, above⟩
      :: visitAll (⟨.node kind named span children, following⟩ :: above) children

/-- Siblings, each with the nodes below it. -/
def visitAll (above : List (Crumb ν)) : List (Tree ν) → List (Location ν)
  | [] => []
  | t :: ts => visit ts above t ++ visitAll above ts

end

/-- The nodes **below** a node: each child before what is below it and before the children that
follow. -/
def descendants (l : Location ν) : List (Location ν) :=
  visitAll (⟨l.tree, l.following⟩ :: l.above) l.tree.children

/-- The number of nodes behind a node, below the node that is `depth` levels above it. -/
def ahead : (depth : Nat) → Location ν → Nat
  | 0, _ => 0
  | depth + 1, l =>
    Tree.sizes l.following + match l.parent? with
      | none => 0
      | some p => ahead depth p

end Location

/-! ## Cursors -/

/-- A location at some depth below the node that the **cursor** was made on. -/
structure Cursor (ν : Type) where
  location : Location ν
  depth : Nat

namespace Cursor

/-- A cursor on a node. -/
def on (l : Location ν) : Cursor ν := ⟨l, 0⟩

/-- Moves to the first of the nodes directly below. -/
def firstChild? (c : Cursor ν) : Option (Cursor ν) :=
  c.location.firstChild?.map (⟨·, c.depth + 1⟩)

/-- Moves to the next sibling, or to the next sibling of the nearest node above that has one, but
not out of the node that the cursor was made on. -/
def onward? : (depth : Nat) → Location ν → Option (Cursor ν)
  | 0, _ => none
  | depth + 1, l =>
    match l.nextSibling? with
    | some s => some ⟨s, depth + 1⟩
    | none =>
      match l.parent? with
      | none => none
      | some p => onward? depth p

/-- The number of nodes that the cursor has yet to visit, the present one included. -/
def remaining (c : Cursor ν) : Nat := c.location.tree.size + c.location.ahead c.depth

theorem remaining_firstChild? {c d : Cursor ν} (h : c.firstChild? = some d) :
    d.remaining < c.remaining := by
  obtain ⟨⟨⟨kind, named, span, children⟩, following, above⟩, depth⟩ := c
  simp only [firstChild?, Location.firstChild?, Tree.children, Option.map_eq_some_iff] at h
  obtain ⟨l, hl, rfl⟩ := h
  cases children with
  | nil => cases hl
  | cons t ts =>
    simp only [Option.some.injEq] at hl
    subst hl
    simp only [remaining, Location.ahead, Location.parent?, Tree.size, Tree.sizes]
    omega

theorem remaining_onward? {depth : Nat} {l : Location ν} {d : Cursor ν}
    (h : onward? depth l = some d) : d.remaining ≤ l.ahead depth := by
  induction depth generalizing l with
  | zero => cases h
  | succ depth ih =>
    obtain ⟨tree, following, above⟩ := l
    simp only [onward?, Location.nextSibling?] at h
    cases following with
    | cons s ss =>
      simp only [Option.some.injEq] at h
      subst h
      simp only [remaining, Location.ahead, Location.parent?, Tree.sizes]
      omega
    | nil =>
      simp only at h
      split at h
      · cases h
      · next p hp =>
        simp only [Location.ahead, Tree.sizes, hp]
        have := ih h
        omega

/-- Moves to the next node: the first one below, or else onward. -/
def next? (c : Cursor ν) : Option (Cursor ν) :=
  match c.firstChild? with
  | some d => some d
  | none => onward? c.depth c.location

theorem remaining_next? {c d : Cursor ν} (h : c.next? = some d) : d.remaining < c.remaining := by
  unfold next? at h
  split at h
  · next hchild => exact Option.some.inj h ▸ remaining_firstChild? hchild
  · have := remaining_onward? h
    have := c.location.tree.size_pos
    simp only [remaining] at *
    omega

end Cursor

/-! ## Walking -/

universe u w

variable {m : Type u → Type w} [Monad m] {α : Type u}

/-- Visits the present node and all nodes after it, behind what was picked so far. -/
@[specialize]
def walkFromM (select : Location ν → m (Option α)) (picked : List α) (c : Cursor ν) :
    m (List α) := do
  let picked :=
    match ← select c.location with
    | some a => a :: picked
    | none => picked
  match _h : c.next? with
  | some d => walkFromM select picked d
  | none => return picked.reverse
  termination_by c.remaining
  decreasing_by exact Cursor.remaining_next? ‹_›

/-- What a selector **picks among the nodes below** a node, in the order of the visits. The selector
is asked in any monad, so that it may also count its calls, keep the nodes or break off the walk. -/
@[specialize]
def walkM (select : Location ν → m (Option α)) (l : Location ν) : m (List α) :=
  match (Cursor.on l).firstChild? with
  | none => return []
  | some c => walkFromM select [] c

/-- What a selector picks that **does nothing but answer**. -/
def walk (select : Location ν → Option α) (l : Location ν) : List α :=
  Id.run (walkM (fun k => pure (select k)) l)

end Drift
