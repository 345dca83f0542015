import Drift.Difference
import Drift.Region
import Mathlib.Data.List.FinRange
import Mathlib.Data.List.Lattice
import Mathlib.Data.Multiset.AddSub

/-!
# Differences are multiset differences

* `unmatched_eq`, `common_eq` — what finds no match in a stock is what the library's `List.diff`
  leaves, and what finds one is its `List.bagInter`.
* `Interleaves` — two lists make up a third one, each in its order; `interleaves_common_unmatched` —
  the two scans decide alike.
* `between_eq` — both parts of a difference.
* **`hasChanges_eq_false_iff`** — nothing changed exactly when one list is a permutation of the
  other.
* `surplus` — the positions of a list that a stock does not cover; `diff_eq_surplus` is the
  invariant of the scan, in which each match takes one item out of the stock.
* **`between_keeps_surplus`** — which positions a difference keeps, and how often each item is in
  it.
* `covered` — the positions of a list that a stock covers.
* **`common_and_removed_make_up_old`** — what two lists have in common and what was removed are the
  old list; what they have in common and what was added are the new one.
* `filter_parts` — the scans of the items of one kind go along with the whole scans.
* **`restrict_between`** — the part of a difference that a predicate keeps is the difference of the
  parts: items of one kind make no difference to what is said of another kind.
* **`between_append_append`** — what both lists begin with is not seen in their difference.
* `count_balance` — what was added and removed makes up for what two lists hold of an item;
  **`between_composes`** — the differences over three lists.
-/

namespace Drift

variable {α : Type} [DecidableEq α]

/-! ## The two scans -/

theorem unmatchedOnto_eq (items stock left : List α) :
    unmatchedOnto stock left items = left.reverse ++ items.diff stock := by
  induction items generalizing stock left with
  | nil => rw [unmatchedOnto, List.nil_diff, List.append_nil]
  | cons a items ih =>
    rw [unmatchedOnto, List.cons_diff, List.contains_eq_mem]
    by_cases h : a ∈ stock
    · rw [if_pos (decide_eq_true h), if_pos h, ih]
    · rw [if_neg (by simpa using h), if_neg h, ih, List.reverse_cons, List.append_assoc,
        List.singleton_append]

theorem commonOnto_eq (items stock matched : List α) :
    commonOnto stock matched items = matched.reverse ++ items.bagInter stock := by
  induction items generalizing stock matched with
  | nil => rw [commonOnto, List.nil_bagInter, List.append_nil]
  | cons a items ih =>
    rw [commonOnto, List.cons_bagInter, List.contains_eq_mem]
    by_cases h : a ∈ stock
    · rw [if_pos (decide_eq_true h), if_pos h, ih, List.reverse_cons, List.append_assoc,
        List.singleton_append]
    · rw [if_neg (by simpa using h), if_neg h, ih]

/-- What finds no match is the **multiset difference**, of which the first occurrences are gone. -/
theorem unmatched_eq (items stock : List α) : unmatched items stock = items.diff stock := by
  rw [unmatched, unmatchedOnto_eq, List.reverse_nil, List.nil_append]

/-- What finds a match is the **multiset intersection**, in the order of the items. -/
theorem common_eq (items stock : List α) : common items stock = items.bagInter stock := by
  rw [common, commonOnto_eq, List.reverse_nil, List.nil_append]

theorem unmatched_cons (a : α) (items stock : List α) : unmatched (a :: items) stock =
    if a ∈ stock then unmatched items (stock.erase a) else a :: unmatched items stock := by
  rw [unmatched_eq, unmatched_eq, unmatched_eq, List.cons_diff]

theorem common_cons (a : α) (items stock : List α) : common (a :: items) stock =
    if a ∈ stock then a :: common items (stock.erase a) else common items stock := by
  rw [common_eq, common_eq, common_eq, List.cons_bagInter]

/-- Two lists **make up a third one**, and each of them keeps its order. -/
inductive Interleaves {β : Type} : List β → List β → List β → Prop where
  | nil : Interleaves [] [] []
  | left {b : β} {xs ys all : List β} (h : Interleaves xs ys all) :
      Interleaves (b :: xs) ys (b :: all)
  | right {b : β} {xs ys all : List β} (h : Interleaves xs ys all) :
      Interleaves xs (b :: ys) (b :: all)

/-- The two scans **decide alike**: an item is left over by one exactly when the other does not match
it. -/
theorem interleaves_common_unmatched (items stock : List α) :
    Interleaves (common items stock) (unmatched items stock) items := by
  induction items generalizing stock with
  | nil => exact .nil
  | cons a items ih =>
    rw [common_cons, unmatched_cons]
    by_cases h : a ∈ stock
    · rw [if_pos h, if_pos h]
      exact .left (ih _)
    · rw [if_neg h, if_neg h]
      exact .right (ih _)

/-! ## Nothing has changed -/

theorem diff_eq_nil_iff (items stock : List α) :
    items.diff stock = [] ↔ (items : Multiset α) ≤ stock := by
  rw [← Multiset.coe_eq_zero, ← Multiset.coe_sub, ← Multiset.le_zero,
    Multiset.sub_le_iff_le_add, Multiset.zero_add]

namespace Difference

theorem between_eq (old new : List α) : between old new = ⟨old.diff new, new.diff old⟩ := by
  rw [between, unmatched_eq, unmatched_eq]

/-- Nothing changed exactly when the new list is **a permutation of the old one**. -/
theorem hasChanges_eq_false_iff (old new : List α) :
    (between old new).hasChanges = false ↔ new.Perm old := by
  rw [between_eq, hasChanges]
  simp only [Bool.or_eq_false_iff, Bool.not_eq_false', List.isEmpty_iff, diff_eq_nil_iff]
  rw [← Multiset.coe_eq_coe, and_comm, ← le_antisymm_iff]

end Difference

/-! ## Positions -/

/-- The items of a list, in their order, at the **positions that a stock does not cover**: up to
there, the item itself included, the list has it more often than the stock. -/
def surplus (items stock : List α) : List α :=
  ((List.finRange items.length).filter fun i : Fin items.length =>
    stock.count items[i] < (items.take (i + 1)).count items[i]).map fun i => items[i]

omit [DecidableEq α] in
theorem map_filter_finRange_cons (a : α) (items : List α) (p : Fin (a :: items).length → Bool) :
    ((List.finRange (a :: items).length).filter p).map (fun i => (a :: items)[i]) =
      (if p 0 then [a] else []) ++
        ((List.finRange items.length).filter fun i => p i.succ).map fun i => items[i] := by
  simp only [List.length_cons, List.finRange_succ, List.filter_cons, List.filter_map]
  split <;> simp [Function.comp_def]

/-- The stock does not cover the first position when it does not hold the item. Behind it, it does
not cover the positions that it does not cover once that item is taken out of it. -/
theorem positions_cons (keep : Bool → Bool) (a : α) (items stock : List α) :
    ((List.finRange (a :: items).length).filter fun i : Fin (a :: items).length =>
        keep (stock.count (a :: items)[i] < ((a :: items).take (i + 1)).count (a :: items)[i])).map
          (fun i => (a :: items)[i]) =
      (if keep (a ∉ stock) then [a] else []) ++
        ((List.finRange items.length).filter fun i : Fin items.length =>
          keep ((stock.erase a).count items[i] < (items.take (i + 1)).count items[i])).map
            fun i => items[i] := by
  have hhead : stock.count a < ((a :: items).take 1).count a ↔ a ∉ stock := by
    rw [List.take_succ_cons, List.take_zero, List.count_singleton_self, Nat.lt_one_iff,
      List.count_eq_zero]
  have htail (i : Fin items.length) :
      stock.count items[i] < ((a :: items).take (i + 1 + 1)).count items[i] ↔
        (stock.erase a).count items[i] < (items.take (i + 1)).count items[i] := by
    -- Where the stock holds no `a`, both sides hold for the items that equal it.
    have hself : 0 < (items.take (i + 1)).count items[i] :=
      List.count_pos_iff.2 (List.mem_take_iff_getElem.2 ⟨i, by simp, rfl⟩)
    rw [List.take_succ_cons, List.count_cons, List.count_erase]
    split <;> omega
  rw [map_filter_finRange_cons]
  simp only [Fin.val_zero, Fin.val_succ, Nat.zero_add, Fin.getElem_fin, List.getElem_cons_zero,
    List.getElem_cons_succ] at hhead htail ⊢
  simp only [hhead, htail]

theorem surplus_cons (a : α) (items stock : List α) :
    surplus (a :: items) stock =
      (if a ∈ stock then [] else [a]) ++ surplus items (stock.erase a) := by
  have h := positions_cons id a items stock
  simpa only [surplus, id, decide_eq_true_eq, ite_not] using h

theorem diff_eq_surplus (items stock : List α) : items.diff stock = surplus items stock := by
  induction items generalizing stock with
  | nil => rw [List.nil_diff]; rfl
  | cons a items ih =>
    rw [List.cons_diff, surplus_cons, ← ih]
    split
    · rw [List.nil_append]
    · next h => rw [List.erase_of_not_mem h, List.singleton_append]

namespace Difference

/-- A difference keeps **exactly the positions that the other list does not cover**, on both sides
and in their order. So each item is in it as often as one list has it more than the other, and
nothing is in it exactly when one list is a permutation of the other. -/
theorem between_keeps_surplus (old new : List α) :
    (between old new).removed = surplus old new ∧ (between old new).added = surplus new old ∧
      (∀ a, (between old new).removed.count a = old.count a - new.count a) ∧
      (∀ a, (between old new).added.count a = new.count a - old.count a) ∧
      ((between old new).hasChanges = false ↔ new.Perm old) := by
  refine ⟨?_, ?_, fun a => ?_, fun a => ?_, hasChanges_eq_false_iff old new⟩
  · simp only [between_eq, diff_eq_surplus]
  · simp only [between_eq, diff_eq_surplus]
  · rw [between_eq, List.count_diff]
  · rw [between_eq, List.count_diff]

/-- Of three equal items against one, the last two positions are kept. -/
example : between ["a", "b", "a", "a"] ["a", "c"] = ⟨["b", "a", "a"], ["c"]⟩ := by decide

end Difference

/-! ## What is common -/

/-- The items of a list, in their order, at the **positions that a stock covers**: all those that
are not in its `surplus`. -/
def covered (items stock : List α) : List α :=
  ((List.finRange items.length).filter fun i : Fin items.length =>
    ¬ stock.count items[i] < (items.take (i + 1)).count items[i]).map fun i => items[i]

theorem covered_cons (a : α) (items stock : List α) :
    covered (a :: items) stock =
      (if a ∈ stock then [a] else []) ++ covered items (stock.erase a) := by
  have h := positions_cons Bool.not a items stock
  simpa only [covered, decide_not, Bool.not_not, decide_eq_true_eq] using h

theorem bagInter_eq_covered (items stock : List α) : items.bagInter stock = covered items stock := by
  induction items generalizing stock with
  | nil => rw [List.nil_bagInter]; rfl
  | cons a items ih =>
    rw [List.cons_bagInter, covered_cons, ← ih]
    split
    · rw [List.singleton_append]
    · next h => rw [List.erase_of_not_mem h, List.nil_append]

namespace Difference

/-- What two lists have in common and what was removed are **the old list**: of its positions, the
ones that the new list covers and the other ones. What they have in common, on either side, and what
was added are **the new list**, up to the order; and nothing is both removed and added. -/
theorem common_and_removed_make_up_old (old new : List α) :
    (common old new = covered old new ∧ (between old new).removed = surplus old new) ∧
      Interleaves (common old new) (between old new).removed old ∧
      (common old new).Perm (common new old) ∧
      (between old new).removed.Disjoint (between old new).added ∧
      (common old new ++ (between old new).added).Perm new := by
  have hcommon : common old new = covered old new := by rw [common_eq, bagInter_eq_covered]
  have hremoved : (between old new).removed = surplus old new := by
    rw [between_eq, diff_eq_surplus]
  refine ⟨⟨hcommon, hremoved⟩, ?_, ?_, ?_, ?_⟩
  · exact interleaves_common_unmatched old new
  · rw [common_eq, common_eq, List.perm_iff_count]
    intro a
    rw [List.count_bagInter, List.count_bagInter, Nat.min_comm]
  · intro a hold hnew
    rw [between_eq] at hold hnew
    have hold := List.count_pos_iff.2 hold
    have hnew := List.count_pos_iff.2 hnew
    rw [List.count_diff] at hold hnew
    omega
  · rw [common_eq, between_eq, List.perm_iff_count]
    intro a
    rw [List.count_append, List.count_bagInter, List.count_diff]
    omega

/-- Of three equal items against two, the last one is removed. -/
example : common ["a", "b", "a", "a"] ["a", "c", "a"] = ["a", "a"] ∧
    between ["a", "b", "a", "a"] ["a", "c", "a"] = ⟨["b", "a"], ["c"]⟩ := by decide

end Difference

/-! ## Parts of the lists -/

theorem filter_erase_of_neg {p : α → Bool} {a : α} (h : ¬ p a = true) (stock : List α) :
    (stock.erase a).filter p = stock.filter p := by
  have hnot : a ∉ stock.filter p := fun hmem => h (List.mem_filter.1 hmem).2
  rw [← List.erase_filter, List.erase_of_not_mem hnot]

/-- The scans of the items that a predicate keeps, against what it keeps of the stock, give what the
predicate keeps of both parts: **each step of them is one of the whole scans**. -/
theorem filter_parts (p : α → Bool) (items stock : List α) :
    (unmatched items stock).filter p = unmatched (items.filter p) (stock.filter p) ∧
      (common items stock).filter p = common (items.filter p) (stock.filter p) := by
  induction items generalizing stock with
  | nil => exact ⟨rfl, rfl⟩
  | cons a items ih =>
    rw [unmatched_cons, common_cons]
    by_cases hp : p a = true
    · have hmem : a ∈ stock.filter p ↔ a ∈ stock := by rw [List.mem_filter, and_iff_left hp]
      rw [List.filter_cons_of_pos hp, unmatched_cons, common_cons]
      simp only [hmem]
      split
      · rw [List.erase_filter, List.filter_cons_of_pos hp, (ih _).1, (ih _).2]
        exact ⟨rfl, rfl⟩
      · rw [List.filter_cons_of_pos hp, (ih _).1, (ih _).2]
        exact ⟨rfl, rfl⟩
    · rw [List.filter_cons_of_neg hp]
      split
      · rw [List.filter_cons_of_neg hp, ← filter_erase_of_neg hp stock]
        exact ih _
      · rw [List.filter_cons_of_neg hp]
        exact ih _

/-- What the items and the stock begin with is matched **item by item**: each one finds itself at the
head of the stock. -/
theorem unmatched_append_append (front items stock : List α) :
    unmatched (front ++ items) (front ++ stock) = unmatched items stock := by
  induction front with
  | nil => rfl
  | cons a front ih =>
    rw [List.cons_append, List.cons_append, unmatched_cons, if_pos List.mem_cons_self,
      List.erase_cons_head, ih]

theorem common_append_append (front items stock : List α) :
    common (front ++ items) (front ++ stock) = front ++ common items stock := by
  induction front with
  | nil => rfl
  | cons a front ih =>
    rw [List.cons_append, List.cons_append, common_cons, if_pos List.mem_cons_self,
      List.erase_cons_head, ih, List.cons_append]

namespace Difference

/-- The part of a difference that a predicate **keeps**, on both sides. -/
def restrict (p : α → Bool) (d : Difference α) : Difference α :=
  ⟨d.removed.filter p, d.added.filter p⟩

/-- The part of a difference that a predicate keeps is **the difference of the parts**, and so is the
part of what two lists have in common. So lists with the same part, whatever else they hold, have the
same part of their difference. -/
theorem restrict_between (p : α → Bool) (old new : List α) :
    (between old new).restrict p = between (old.filter p) (new.filter p) ∧
      (common old new).filter p = common (old.filter p) (new.filter p) ∧
      ∀ old' new', old'.filter p = old.filter p → new'.filter p = new.filter p →
        (between old' new').restrict p = (between old new).restrict p ∧
          (common old' new').filter p = (common old new).filter p := by
  have hbetween (old new : List α) :
      (between old new).restrict p = between (old.filter p) (new.filter p) := by
    rw [restrict, between, between, (filter_parts p old new).1, (filter_parts p new old).1]
  refine ⟨hbetween old new, (filter_parts p old new).2, fun old' new' hold hnew => ⟨?_, ?_⟩⟩
  · rw [hbetween, hbetween, hold, hnew]
  · rw [(filter_parts p old' new').2, (filter_parts p old new).2, hold, hnew]

/-- A region of some file, at its beginning. -/
def regionA : Region := ⟨"a.js", "// control", "f();", ⟨0, 0⟩, ⟨1, 0⟩⟩

/-- One of another file. -/
def regionB : Region := { regionA with path := "b.js" }

/-- The regions of one file. -/
def liesIn (path : String) (r : Region) : Bool := r.path == path

/-- In one file the second of two equal regions is removed, and one is added to another file: **the
first file alone** shows the removed one, and that the other one is common. -/
theorem restrict_between_to_file :
    [regionA, regionB, regionA].filter (liesIn "a.js") = [regionA, regionA].filter (liesIn "a.js") ∧
      [regionB, regionB, regionA].filter (liesIn "a.js") = [regionA].filter (liesIn "a.js") ∧
      (between [regionA, regionB, regionA] [regionB, regionB, regionA]).restrict (liesIn "a.js") =
        (between [regionA, regionA] [regionA]).restrict (liesIn "a.js") ∧
      (common [regionA, regionB, regionA] [regionB, regionB, regionA]).filter (liesIn "a.js") =
        (common [regionA, regionA] [regionA]).filter (liesIn "a.js") ∧
      between [regionA, regionA] [regionA] = ⟨[regionA], []⟩ ∧
      common [regionA, regionA] [regionA] = [regionA] := by
  have hold : [regionA, regionB, regionA].filter (liesIn "a.js") =
      [regionA, regionA].filter (liesIn "a.js") := rfl
  have hnew : [regionB, regionB, regionA].filter (liesIn "a.js") =
      [regionA].filter (liesIn "a.js") := rfl
  obtain ⟨hbetween, hcommon⟩ :=
    (restrict_between (liesIn "a.js") [regionA, regionA] [regionA]).2.2 _ _ hold hnew
  exact ⟨hold, hnew, hbetween, hcommon, rfl, rfl⟩

/-- What both lists begin with is **not seen in their difference**, whatever of it they hold again
further on, and all of it is common. -/
theorem between_append_append (front old new : List α) :
    between (front ++ old) (front ++ new) = between old new ∧
      common (front ++ old) (front ++ new) = front ++ common old new := by
  refine ⟨?_, common_append_append front old new⟩
  rw [between, between, unmatched_append_append, unmatched_append_append]

/-- What both lists end with takes the place of equal items in front of it: here the second item is
kept, and of the last two alone the first one would be. -/
example : between ["a", "b", "a"] ["a"] = ⟨["b", "a"], []⟩ ∧
    between ["a", "b"] ([] : List String) = ⟨["a", "b"], []⟩ := by decide

end Difference

/-! ## Three lists -/

theorem unmatched_subperm (xs ys zs : List α) :
    (unmatched xs zs).Subperm (unmatched xs ys ++ unmatched ys zs) := by
  rw [List.subperm_ext_iff]
  intro a _
  simp only [unmatched_eq, List.count_append, List.count_diff]
  omega

namespace Difference

/-- An item **balances**: the old list with what was added has it as often as the new list with what
was removed. -/
theorem count_balance (old new : List α) (a : α) :
    old.count a + (between old new).added.count a =
      new.count a + (between old new).removed.count a := by
  rw [between_eq, List.count_diff, List.count_diff]
  omega

/-- Differences **compose**. Over a list in between, as much is removed and added as without it, up
to what is removed in one step and added in the other; whatever is removed or added without it is so
in one of the steps, and so nothing has changed when nothing changes in either step. -/
theorem between_composes (a b c : List α) :
    ((between a b).removed ++ (between b c).removed ++ (between a c).added).Perm
        ((between a b).added ++ (between b c).added ++ (between a c).removed) ∧
      (between a c).removed.Subperm ((between a b).removed ++ (between b c).removed) ∧
      (between a c).added.Subperm ((between a b).added ++ (between b c).added) ∧
      ((between a b).hasChanges = false → (between b c).hasChanges = false →
        (between a c).hasChanges = false) := by
  refine ⟨?_, unmatched_subperm a b c, ?_, fun hab hbc => ?_⟩
  · rw [List.perm_iff_count]
    intro x
    have hab := count_balance a b x
    have hbc := count_balance b c x
    have hac := count_balance a c x
    simp only [List.count_append]
    omega
  · -- What was added is what finds no match the other way, so that the steps change places.
    exact (unmatched_subperm c b a).trans List.perm_append_comm.subperm
  · rw [hasChanges_eq_false_iff] at hab hbc ⊢
    exact hbc.trans hab

/-- Over three lists with the same regions **nothing has changed**; and a region that goes in one step
and comes back twice in the other **has been added once**. -/
theorem between_composes_there_and_back :
    ((between [regionA, regionB, regionA] [regionB, regionA, regionA]).hasChanges = false ∧
      (between [regionB, regionA, regionA] [regionA, regionA, regionB]).hasChanges = false ∧
      (between [regionA, regionB, regionA] [regionA, regionA, regionB]).hasChanges = false) ∧
    between [regionA, regionB] [regionB] = ⟨[regionA], []⟩ ∧
      between [regionB] [regionA, regionB, regionA] = ⟨[], [regionA, regionA]⟩ ∧
      between [regionA, regionB] [regionA, regionB, regionA] = ⟨[], [regionA]⟩ ∧
      ([regionA] ++ [] ++ [regionA]).Perm ([] ++ [regionA, regionA] ++ []) := by
  have hfirst : (between [regionA, regionB, regionA] [regionB, regionA, regionA]).hasChanges
      = false := rfl
  have hsecond : (between [regionB, regionA, regionA] [regionA, regionA, regionB]).hasChanges
      = false := rfl
  have hgone : between [regionA, regionB] [regionB] = ⟨[regionA], []⟩ := rfl
  have hback : between [regionB] [regionA, regionB, regionA] = ⟨[], [regionA, regionA]⟩ := rfl
  have hboth : between [regionA, regionB] [regionA, regionB, regionA] = ⟨[], [regionA]⟩ := rfl
  have hbalance := (between_composes [regionA, regionB] [regionB] [regionA, regionB, regionA]).1
  rw [hgone, hback, hboth] at hbalance
  exact ⟨⟨hfirst, hsecond, (between_composes _ _ _).2.2.2 hfirst hsecond⟩, hgone, hback, hboth,
    hbalance⟩

end Difference

end Drift
