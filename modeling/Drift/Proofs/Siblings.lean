import Drift.Proofs.Extraction

/-!
# Siblings in a tree

* `Location.Below.comparable` — of two nodes above a third one, one is above the other.
* `Location.below_of_follows` — a node with siblings behind it lies below the root.
* `Location.NearestBefore` — a node is the nearest named sibling in front of another one;
  `Location.FirstNamed.nearestBefore` is the other side of being the first named one behind.
* `Location.NearestBefore.unique` — there is only one.
* `Location.preceding` — the siblings in front of a node.
-/

namespace Drift

variable {ν : Type}

namespace Location

/-! ## Above -/

theorem Child.parent_eq {p q c d : Location ν} (hp : Child p c) (hq : Child q d)
    (h : c.above = d.above) : p = q := by
  obtain ⟨ptree, pfollowing, pabove⟩ := p
  obtain ⟨qtree, qfollowing, qabove⟩ := q
  have hcrumbs := hp.2.symm.trans (h.trans hq.2)
  simp only [List.cons.injEq, Crumb.mk.injEq] at hcrumbs
  obtain ⟨⟨rfl, rfl⟩, rfl⟩ := hcrumbs
  rfl

theorem Below.exists_parent {l m : Location ν} (h : Below l m) :
    ∃ p, Child p m ∧ (p = l ∨ Below l p) := by
  cases h with
  | child h => exact ⟨l, h, .inl rfl⟩
  | step hp h => exact ⟨_, h, .inr hp⟩

theorem Below.trans {l m k : Location ν} (h : Below l m) (hk : Below m k) : Below l k := by
  induction hk with
  | child hk => exact .step h hk
  | step _ hk ih => exact .step ih hk

/-- Of two nodes above a third one, **one is above the other**. -/
theorem Below.comparable {a b m : Location ν} (ha : Below a m) (hb : Below b m) :
    a = b ∨ Below a b ∨ Below b a := by
  induction ha with
  | child hm =>
    obtain ⟨q, hq, hqb⟩ := hb.exists_parent
    obtain rfl := hm.parent_eq hq rfl
    rcases hqb with rfl | hqb
    · exact .inl rfl
    · exact .inr (.inr hqb)
  | step hp hm ih =>
    obtain ⟨q, hq, hqb⟩ := hb.exists_parent
    obtain rfl := hm.parent_eq hq rfl
    rcases hqb with rfl | hqb
    · exact .inr (.inl hp)
    · exact ih hqb

/-! ## Siblings -/

/-- What has a sibling behind it, and is at or above a node of a tree, **is no root**. -/
theorem below_of_follows {t : Tree ν} {a b m : Location ν} (hab : Follows a b)
    (hm : (root t).Below m) (h : m = a ∨ Below a m) : (root t).Below a := by
  rcases h with rfl | h
  · exact hm
  rcases h.comparable hm with rfl | ha | ha
  · obtain ⟨⟨between, hbetween⟩, -⟩ := hab
    simp [root] at hbetween
  · obtain ⟨upper, hupper⟩ := ha.above_eq
    simp [root] at hupper
  · exact ha

theorem comparable_of_suffix {siblings : List (Tree ν)} {a b : Location ν}
    (ha : a.tree :: a.following <:+ siblings) (hb : b.tree :: b.following <:+ siblings)
    (habove : b.above = a.above) : a = b ∨ Follows a b ∨ Follows b a := by
  obtain ⟨atree, afollowing, aabove⟩ := a
  obtain ⟨btree, bfollowing, babove⟩ := b
  obtain rfl : babove = aabove := habove
  have hsplit {s : Tree ν} {l m : List (Tree ν)} (h : s :: l <:+ m) :
      ∃ before, m = before ++ s :: l :=
    ⟨h.choose, h.choose_spec.symm⟩
  rcases List.suffix_or_suffix_of_suffix ha hb with h | h
  · rcases List.suffix_cons_iff.1 h with heq | h
    · obtain ⟨rfl, rfl⟩ := List.cons.inj heq
      exact .inl rfl
    · exact .inr (.inr ⟨hsplit h, rfl⟩)
  · rcases List.suffix_cons_iff.1 h with heq | h
    · obtain ⟨rfl, rfl⟩ := List.cons.inj heq
      exact .inl rfl
    · exact .inr (.inl ⟨hsplit h, rfl⟩)

theorem Child.comparable {p a b : Location ν} (ha : Child p a) (hb : Child p b) :
    a = b ∨ Follows a b ∨ Follows b a :=
  comparable_of_suffix ⟨_, ha.1.choose_spec.symm⟩ ⟨_, hb.1.choose_spec.symm⟩ (hb.2.trans ha.2.symm)

theorem Follows.comparable {c a b : Location ν} (ha : Follows c a) (hb : Follows c b) :
    a = b ∨ Follows a b ∨ Follows b a :=
  comparable_of_suffix ⟨_, ha.1.choose_spec.symm⟩ ⟨_, hb.1.choose_spec.symm⟩ (hb.2.trans ha.2.symm)

/-! ## Named siblings -/

theorem FirstNamed.unnamed_between {c t b : Location ν} (h : c.FirstNamed t) (hcb : Follows c b)
    (hbt : Follows b t) : b.tree.named = false := by
  obtain ⟨⟨skipped, hskipped, hunnamed⟩, -, -⟩ := h
  obtain ⟨⟨front, hfront⟩, -⟩ := hcb
  obtain ⟨⟨back, hback⟩, -⟩ := hbt
  refine hunnamed _ ?_
  have hsplit : front ++ b.tree :: back = skipped := by
    rw [hfront, hback, ← List.cons_append, ← List.append_assoc] at hskipped
    exact List.append_cancel_right hskipped
  rw [← hsplit]
  exact List.mem_append_right _ List.mem_cons_self

/-- `c` is the **nearest named sibling in front** of `t`. -/
structure NearestBefore (c t : Location ν) : Prop where
  follows : Follows c t
  named : c.tree.named = true
  nearest : ∀ b, Follows c b → Follows b t → b.tree.named = false

/-- A named node is the nearest in front of the first named one behind it. -/
theorem FirstNamed.nearestBefore {c t : Location ν} (h : c.FirstNamed t)
    (hc : c.tree.named = true) : c.NearestBefore t where
  follows := h.follows
  named := hc
  nearest _ := h.unnamed_between

/-- A node of a tree has **one nearest named sibling** in front of it. -/
theorem NearestBefore.unique {l c c' t : Location ν} (hc : Below l c) (hc' : Below l c')
    (h : c.NearestBefore t) (h' : c'.NearestBefore t) : c = c' := by
  obtain ⟨p, hp, -⟩ := hc.exists_parent
  obtain ⟨p', hp', -⟩ := hc'.exists_parent
  obtain rfl := hp.parent_eq hp' (h.follows.2.symm.trans h'.follows.2)
  rcases hp.comparable hp' with rfl | hcc' | hcc'
  · rfl
  · exact absurd h'.named (by rw [h.nearest c' hcc' h'.follows]; exact Bool.false_ne_true)
  · exact absurd h.named (by rw [h'.nearest c hcc' h.follows]; exact Bool.false_ne_true)

/-! ## What stands in front -/

/-- The siblings **in front** of a node. -/
def preceding (l : Location ν) : List (Tree ν) :=
  match l.above with
  | [] => []
  | crumb :: _ =>
    crumb.tree.children.take (crumb.tree.children.length - (l.following.length + 1))

theorem Follows.mem_preceding {p a b : Location ν} (h : Follows a b) (ha : Child p a) :
    a.tree ∈ b.preceding := by
  obtain ⟨⟨between, hbetween⟩, habove⟩ := h
  obtain ⟨⟨before, hbefore⟩, hp⟩ := ha
  have hchildren : p.tree.children = (before ++ a.tree :: between) ++ b.tree :: b.following := by
    rw [hbefore, hbetween, List.append_assoc, List.cons_append]
  unfold preceding
  rw [habove, hp]
  simp only [hchildren, List.length_append, List.length_cons, Nat.add_sub_cancel]
  rw [List.take_left' (by simp)]
  exact List.mem_append_right _ List.mem_cons_self

end Location

end Drift
