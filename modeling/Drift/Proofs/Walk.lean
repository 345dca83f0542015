import Drift.SyntaxTree

/-!
# A walk visits each node below its start once

* `Location.Below` — a node lies below another: it is a child of it, or of a node below it.
* `Location.Precedes` — a node comes before another in pre-order: the other one is below it, or the
  two are at or below two siblings, of which its own comes first.
* `Location.mem_descendants`, `Location.pairwise_descendants`, `Location.nodup_descendants` — the
  recursive list of descendants holds exactly the nodes below, in pre-order, each once.
* `Cursor.agenda` — what a cursor has yet to visit; `walkFrom_eq` is the invariant of the walk.
* **`walk_calls_each_node_below_once`** — a walk is the selection from that list.
-/

namespace Drift

variable {ν : Type}

namespace Location

/-! ## Below -/

/-- `m` is a child of `l`. -/
def Child (l m : Location ν) : Prop :=
  (∃ before, l.tree.children = before ++ m.tree :: m.following) ∧
    m.above = ⟨l.tree, l.following⟩ :: l.above

/-- `m` lies **below** `l`. -/
inductive Below (l : Location ν) : Location ν → Prop where
  | child {m : Location ν} (h : Child l m) : Below l m
  | step {m k : Location ν} (h : Below l m) (hk : Child m k) : Below l k

/-- `b` is a sibling that follows `a`. -/
def Follows (a b : Location ν) : Prop :=
  (∃ before, a.following = before ++ b.tree :: b.following) ∧ b.above = a.above

/-- `m` comes **before** `k` in pre-order. -/
inductive Precedes (m k : Location ν) : Prop where
  | below (h : Below m k)
  | apart {a b : Location ν} (hab : Follows a b) (hm : m = a ∨ Below a m) (hk : k = b ∨ Below b k)

theorem Below.trans_child {l c m : Location ν} (hc : Child l c) (h : Below c m) : Below l m := by
  induction h with
  | child h => exact .step (.child hc) h
  | step _ hk ih => exact .step ih hk

theorem below_iff {l m : Location ν} : Below l m ↔ ∃ c, Child l c ∧ (m = c ∨ Below c m) := by
  constructor
  · intro h
    induction h with
    | child h => exact ⟨_, h, .inl rfl⟩
    | step _ hk ih =>
      rcases ih with ⟨c, hc, rfl | hm⟩
      · exact ⟨_, hc, .inr (.child hk)⟩
      · exact ⟨c, hc, .inr (.step hm hk)⟩
  · rintro ⟨c, hc, rfl | hm⟩
    · exact .child hc
    · exact hm.trans_child hc

theorem Follows.below {l a b : Location ν} (h : Follows a b) (ha : Below l a) : Below l b := by
  obtain ⟨⟨between, hbetween⟩, habove⟩ := h
  have hchild {p : Location ν} : Child p a → Child p b := by
    rintro ⟨⟨before, hbefore⟩, hp⟩
    refine ⟨⟨before ++ a.tree :: between, ?_⟩, habove.trans hp⟩
    rw [hbefore, hbetween, List.append_assoc, List.cons_append]
  cases ha with
  | child ha => exact .child (hchild ha)
  | step hp ha => exact .step hp (hchild ha)

theorem Below.above_eq {l m : Location ν} (h : Below l m) :
    ∃ upper, m.above = upper ++ ⟨l.tree, l.following⟩ :: l.above := by
  induction h with
  | child h => exact ⟨[], h.2⟩
  | step _ hk ih =>
    obtain ⟨upper, hu⟩ := ih
    exact ⟨_ :: upper, by rw [hk.2, hu, List.cons_append]⟩

theorem not_below_self (m : Location ν) : ¬ Below m m := by
  intro h
  obtain ⟨upper, hu⟩ := h.above_eq
  have := congrArg List.length hu
  simp only [List.length_append, List.length_cons] at this
  omega

theorem following_eq_of_below {a b m : Location ν} (hab : b.above = a.above)
    (ha : m = a ∨ Below a m) (hb : m = b ∨ Below b m) : a.following = b.following := by
  have hlen : ∀ {x : Location ν}, Below x m → x.above.length < m.above.length := by
    intro x hx
    obtain ⟨upper, hu⟩ := hx.above_eq
    rw [hu, List.length_append, List.length_cons]
    omega
  have hl := congrArg List.length hab
  rcases ha with rfl | ha <;> rcases hb with hmb | hb
  · rw [hmb]
  · have := hlen hb
    omega
  · have := hlen ha
    rw [hmb] at this
    omega
  · obtain ⟨u, hu⟩ := ha.above_eq
    obtain ⟨w, hw⟩ := hb.above_eq
    rw [hu, hab] at hw
    have hc := (List.append_inj' hw rfl).2
    simp only [List.cons.injEq, Crumb.mk.injEq] at hc
    exact hc.1.2

theorem not_precedes_self (m : Location ν) : ¬ Precedes m m := by
  rintro (h | ⟨⟨⟨before, hf⟩, hab⟩, hm, hk⟩)
  · exact not_below_self m h
  · rw [following_eq_of_below hab hm hk] at hf
    have := congrArg List.length hf
    simp only [List.length_append, List.length_cons] at this
    omega

/-! ## Descendants -/

theorem child_node_iff {kind : String} {named : Bool} {span : Span ν} {children : List (Tree ν)}
    {following : List (Tree ν)} {above : List (Crumb ν)} {c : Location ν} :
    Child ⟨.node kind named span children, following, above⟩ c ↔
      ∃ before t after, children = before ++ t :: after ∧
        c = ⟨t, after, ⟨.node kind named span children, following⟩ :: above⟩ := by
  constructor
  · rintro ⟨⟨before, h⟩, ha⟩
    exact ⟨before, c.tree, c.following, h, by rw [← ha]⟩
  · rintro ⟨before, t, after, h, rfl⟩
    exact ⟨⟨before, h⟩, rfl⟩

mutual

theorem mem_visit {following : List (Tree ν)} {above : List (Crumb ν)} {m : Location ν} :
    ∀ t : Tree ν, m ∈ visit following above t ↔
      m = ⟨t, following, above⟩ ∨ Below ⟨t, following, above⟩ m
  | .node kind named span children => by
    rw [visit, List.mem_cons, mem_visitAll children, below_iff]
    refine or_congr Iff.rfl ⟨?_, ?_⟩
    · rintro ⟨before, t, after, h, hm⟩
      exact ⟨_, child_node_iff.2 ⟨before, t, after, h, rfl⟩, hm⟩
    · rintro ⟨c, hc, hm⟩
      obtain ⟨before, t, after, h, rfl⟩ := child_node_iff.1 hc
      exact ⟨before, t, after, h, hm⟩

theorem mem_visitAll {above : List (Crumb ν)} {m : Location ν} :
    ∀ ts : List (Tree ν), m ∈ visitAll above ts ↔
      ∃ before t after, ts = before ++ t :: after ∧
        (m = ⟨t, after, above⟩ ∨ Below ⟨t, after, above⟩ m)
  | [] => by simp [visitAll]
  | t :: ts => by
    rw [visitAll, List.mem_append, mem_visit t, mem_visitAll ts]
    constructor
    · rintro (hm | ⟨before, s, after, rfl, hm⟩)
      · exact ⟨[], t, ts, rfl, hm⟩
      · exact ⟨t :: before, s, after, rfl, hm⟩
    · rintro ⟨before, s, after, h, hm⟩
      cases before with
      | nil =>
        obtain ⟨rfl, rfl⟩ := List.cons.inj h
        exact .inl hm
      | cons _ before => exact .inr ⟨before, s, after, (List.cons.inj h).2, hm⟩

end

/-- The descendants are the nodes below. -/
theorem mem_descendants {l m : Location ν} : m ∈ l.descendants ↔ Below l m := by
  obtain ⟨⟨kind, named, span, children⟩, following, above⟩ := l
  rw [descendants, Tree.children, mem_visitAll, below_iff]
  constructor
  · rintro ⟨before, t, after, h, hm⟩
    exact ⟨_, child_node_iff.2 ⟨before, t, after, h, rfl⟩, hm⟩
  · rintro ⟨c, hc, hm⟩
    obtain ⟨before, t, after, h, rfl⟩ := child_node_iff.1 hc
    exact ⟨before, t, after, h, hm⟩

mutual

theorem pairwise_visit {following : List (Tree ν)} {above : List (Crumb ν)} :
    ∀ t : Tree ν, (visit following above t).Pairwise Precedes
  | .node kind named span children => by
    rw [visit, List.pairwise_cons]
    refine ⟨fun m hm => ?_, pairwise_visitAll children⟩
    have h : m ∈ visit following above (.node kind named span children) := by
      rw [visit]
      exact List.mem_cons_of_mem _ hm
    rcases (mem_visit _).1 h with rfl | hb
    · exact absurd (mem_descendants (l := ⟨_, following, above⟩).1 hm) (not_below_self _)
    · exact .below hb

theorem pairwise_visitAll {above : List (Crumb ν)} :
    ∀ ts : List (Tree ν), (visitAll above ts).Pairwise Precedes
  | [] => by simp [visitAll]
  | t :: ts => by
    rw [visitAll, List.pairwise_append]
    refine ⟨pairwise_visit t, pairwise_visitAll ts, fun m hm k hk => ?_⟩
    obtain ⟨before, s, after, hs, hk⟩ := (mem_visitAll ts).1 hk
    have hf : Follows ⟨t, ts, above⟩ ⟨s, after, above⟩ := ⟨⟨before, hs⟩, rfl⟩
    exact .apart hf ((mem_visit t).1 hm) hk

end

/-- The descendants come in pre-order. -/
theorem pairwise_descendants (l : Location ν) : l.descendants.Pairwise Precedes :=
  pairwise_visitAll _

/-- Each descendant comes once. -/
theorem nodup_descendants (l : Location ν) : l.descendants.Nodup := by
  refine l.pairwise_descendants.imp fun {m k} h => ?_
  rintro rfl
  exact not_precedes_self m h

end Location

/-! ## The agenda of a cursor -/

namespace Cursor

/-- The nodes behind a node, below the node that is `depth` levels above it, in the order of the
visits. -/
def behind : (depth : Nat) → Location ν → List (Location ν)
  | 0, _ => []
  | depth + 1, l =>
    Location.visitAll l.above l.following ++
      match l.parent? with
      | none => []
      | some p => behind depth p

/-- What a cursor has **yet to visit**, the present node included. -/
def agenda (c : Cursor ν) : List (Location ν) :=
  Location.visit c.location.following c.location.above c.location.tree ++
    behind c.depth c.location

theorem agenda_of_firstChild? {c d : Cursor ν} (h : c.firstChild? = some d) :
    c.agenda = c.location :: d.agenda := by
  obtain ⟨⟨⟨kind, named, span, children⟩, following, above⟩, depth⟩ := c
  simp only [firstChild?, Location.firstChild?, Tree.children, Option.map_eq_some_iff] at h
  obtain ⟨l, hl, rfl⟩ := h
  cases children with
  | nil => cases hl
  | cons t ts =>
    obtain rfl := Option.some.inj hl
    simp only [agenda, behind, Location.parent?, Location.visit, Location.visitAll,
      List.cons_append, List.append_assoc]

theorem agenda_of_leaf {c : Cursor ν} (h : c.firstChild? = none) :
    c.agenda = c.location :: behind c.depth c.location := by
  obtain ⟨⟨⟨kind, named, span, children⟩, following, above⟩, depth⟩ := c
  cases children with
  | nil => simp only [agenda, Location.visit, Location.visitAll, List.cons_append, List.nil_append]
  | cons t ts => simp [firstChild?, Location.firstChild?, Tree.children] at h

theorem behind_eq (depth : Nat) (l : Location ν) :
    behind depth l = ((onward? depth l).map agenda).getD [] := by
  induction depth generalizing l with
  | zero => rfl
  | succ depth ih =>
    obtain ⟨tree, following, above⟩ := l
    cases following with
    | cons s ss =>
      simp only [onward?, Location.nextSibling?, behind, agenda, Location.parent?,
        Location.visitAll, List.append_assoc, Option.map_some, Option.getD_some]
    | nil =>
      cases above with
      | nil => rfl
      | cons crumb above =>
        simp only [onward?, Location.nextSibling?, behind, Location.parent?, Location.visitAll,
          List.nil_append]
        exact ih _

/-- What a cursor has yet to visit is **the present node, and then what the next one has**. -/
theorem agenda_eq (c : Cursor ν) : c.agenda = c.location :: (c.next?.map agenda).getD [] := by
  unfold next?
  split
  · next d hd => exact agenda_of_firstChild? hd
  · next hleaf => rw [agenda_of_leaf hleaf, behind_eq]

end Cursor

/-! ## The walk -/

universe u w

/-- **The invariant of the walk**: it goes on as the selection from what is yet to be visited does,
behind what was picked so far. -/
theorem walkFromM_eq {m : Type u → Type w} [Monad m] {α : Type u} (select : Location ν → m (Option α))
    (picked : List α) (c : Cursor ν) :
    walkFromM select picked c = List.filterMapM.loop select c.agenda picked := by
  induction picked, c using walkFromM.induct with
  | case1 picked c ih =>
    rw [walkFromM, c.agenda_eq, List.filterMapM.loop]
    refine bind_congr fun answer => ?_
    cases hnext : c.next? with
    | none => cases answer <;> rfl
    | some d =>
      have hrest := ih answer d hnext
      cases answer <;> exact hrest

/-- A walk is **the selection from the descendants**, whatever the selector does meanwhile. -/
theorem walkM_eq_filterMapM {m : Type u → Type w} [Monad m] {α : Type u}
    (select : Location ν → m (Option α)) (l : Location ν) :
    walkM select l = l.descendants.filterMapM select := by
  obtain ⟨⟨kind, named, span, children⟩, following, above⟩ := l
  cases children with
  | nil => rfl
  | cons t ts =>
    simp only [walkM, Cursor.firstChild?, Cursor.on, Location.firstChild?, Tree.children,
      Option.map_some]
    rw [walkFromM_eq, Location.descendants, Tree.children, List.filterMapM]
    simp only [Cursor.agenda, Cursor.behind, Location.parent?, Location.visitAll, List.append_nil]

theorem run_filterMapM_pure {α β : Type u} (f : α → Option β) (as : List α) :
    Id.run (as.filterMapM fun a => pure (f a)) = as.filterMap f := by
  induction as with
  | nil => rfl
  | cons a as ih =>
    rw [List.filterMapM_cons, List.filterMap_cons, ← ih]
    cases f a <;> rfl

theorem walk_eq_filterMap {α : Type} (select : Location ν → Option α) (l : Location ν) :
    walk select l = l.descendants.filterMap select := by
  rw [walk, walkM_eq_filterMapM, run_filterMapM_pure]

/-- A selector that **keeps a list of its calls**. -/
def recording {α : Type} (select : Location ν → Option α) (k : Location ν) :
    StateM (List (Location ν)) (Option α) := do
  modify (· ++ [k])
  return select k

theorem run_filterMapM_recording {α : Type} (select : Location ν → Option α)
    (nodes calls : List (Location ν)) :
    (nodes.filterMapM (recording select)).run calls
      = (nodes.filterMap select, calls ++ nodes) := by
  induction nodes generalizing calls with
  | nil => rw [List.append_nil]; rfl
  | cons k nodes ih =>
    rw [List.filterMapM_cons, List.filterMap_cons]
    change StateT.run (match select k with
      | none => nodes.filterMapM (recording select)
      | some a => do return a :: (← nodes.filterMapM (recording select))) (calls ++ [k]) = _
    have hrest := ih (calls ++ [k])
    rw [List.append_assoc, List.singleton_append] at hrest
    cases select k with
    | none => exact hrest
    | some a =>
      rw [StateT.run_bind, hrest]
      rfl

/-- **A walk is the pre-order selection.** From any node, wherever it stands, the selector is called
once on each node below and on nothing else, in pre-order, and the walk gives what the calls gave,
less the calls that gave nothing: it does what the selection from the list of these nodes does,
whatever the selector does meanwhile. So a list of the calls holds just these nodes. -/
theorem walk_calls_each_node_below_once (l : Location ν) :
    (∀ k, k ∈ l.descendants ↔ l.Below k) ∧ l.descendants.Nodup ∧
      l.descendants.Pairwise Location.Precedes ∧
      (∀ (m : Type u → Type w) [Monad m] (α : Type u) (select : Location ν → m (Option α)),
        walkM select l = l.descendants.filterMapM select) ∧
      ∀ (α : Type) (select : Location ν → Option α),
        walk select l = l.descendants.filterMap select ∧
          ∀ calls, (walkM (recording select) l).run calls
            = (l.descendants.filterMap select, calls ++ l.descendants) := by
  refine ⟨fun _ => Location.mem_descendants, l.nodup_descendants, l.pairwise_descendants,
    fun m _ α select => walkM_eq_filterMapM select l,
    fun α select => ⟨walk_eq_filterMap select l, fun calls => ?_⟩⟩
  rw [walkM_eq_filterMapM, run_filterMapM_recording]

end Drift
