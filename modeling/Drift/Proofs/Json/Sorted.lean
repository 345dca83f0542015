import Drift.Json.Printer
import Drift.Proofs.Json.Readable

/-!
# Values with sorted keys

* `Json.ordered` — the members of an object as they are sorted.
* `Json.readable_sorted`, `Json.sorted_sorted` — a value that can be read stays one, and is sorted
  once and for all.
* **`Json.sorted_object_congr`** — the sorted object is given by the sorted values of its keys.
-/

namespace Drift.Json

/-! ## What is sorted -/

/-- The members of an object **as they are sorted**: with sorted values, in the order of keys. -/
def ordered (members : Members) : Members :=
  (members.map fun m => (m.1, sorted m.2)).mergeSort fun a b => a.1.precedes b.1

theorem sortedItems_eq (items done : List Value) :
    sortedItems done items = done.reverse ++ items.map sorted := by
  induction items generalizing done with
  | nil => rw [sortedItems, List.map_nil, List.append_nil]
  | cons v items ih =>
    rw [sortedItems, ih, List.reverse_cons, List.append_assoc, List.singleton_append, List.map_cons]

theorem sortedMembers_eq (members done : Members) :
    sortedMembers done members = done.reverse ++ members.map fun m => (m.1, sorted m.2) := by
  induction members generalizing done with
  | nil => rw [sortedMembers, List.map_nil, List.append_nil]
  | cons m members ih =>
    obtain ⟨key, v⟩ := m
    rw [sortedMembers, ih, List.reverse_cons, List.append_assoc, List.singleton_append,
      List.map_cons]

theorem sorted_list (items : List Value) : sorted (.list items) = .list (items.map sorted) := by
  rw [sorted, sortedItems_eq, List.reverse_nil, List.nil_append]

theorem sorted_object (members : Members) :
    sorted (.object members) = .object (ordered members) := by
  rw [sorted, sortedMembers_eq, List.reverse_nil, List.nil_append, ordered]

/-! ## The order -/

variable {members : Members}

theorem ordered_perm (members : Members) :
    (ordered members).Perm (members.map fun m => (m.1, sorted m.2)) :=
  List.mergeSort_perm ..

theorem mem_ordered_iff {m : Text × Value} :
    m ∈ ordered members ↔ ∃ n ∈ members, (n.1, sorted n.2) = m := by
  rw [(ordered_perm members).mem_iff, List.mem_map]

theorem pairwise_ordered (members : Members) :
    (ordered members).Pairwise fun a b => a.1.precedes b.1 = true := by
  have htrans (a b c : Text × Value) (h : a.1.precedes b.1 = true) (h' : b.1.precedes c.1 = true) :
      a.1.precedes c.1 = true := Text.precedes_trans h h'
  have htotal (a b : Text × Value) : (a.1.precedes b.1 || b.1.precedes a.1) = true :=
    Text.precedes_total a.1 b.1
  exact List.pairwise_mergeSort htrans htotal _

theorem nodup_ordered (h : (members.map (·.1)).Nodup) : ((ordered members).map (·.1)).Nodup := by
  have hperm := (ordered_perm members).map (·.1)
  rw [List.map_map] at hperm
  exact hperm.nodup_iff.2 h

/-! ## Sorting readable values -/

variable {v : Value}

/-- A value that can be read **stays one** when it is sorted. -/
theorem readable_sorted (h : Readable v) : Readable (sorted v) := by
  induction h with
  | null => exact .null
  | bool b => exact .bool b
  | int hn => exact .int hn
  | float hone => exact .float hone
  | text ht => exact .text ht
  | list h ih =>
    rw [sorted_list]
    refine .list fun w hw => ?_
    obtain ⟨v, hv, rfl⟩ := List.mem_map.1 hw
    exact ih v hv
  | object hnodup hkeys h ih =>
    rw [sorted_object]
    refine .object (nodup_ordered hnodup) (fun m hm => ?_) fun m hm => ?_
    · obtain ⟨n, hn, rfl⟩ := mem_ordered_iff.1 hm
      exact hkeys n hn
    · obtain ⟨n, hn, rfl⟩ := mem_ordered_iff.1 hm
      exact ih n hn

/-- A sorted value **is sorted**. -/
theorem sorted_sorted (h : Readable v) : sorted (sorted v) = sorted v := by
  induction h with
  | null | bool _ | int _ | float _ | text _ => rfl
  | list h ih =>
    rw [sorted_list, sorted_list, List.map_map]
    exact congrArg _ (List.map_congr_left ih)
  | @object members hnodup hkeys h ih =>
    have hsame : (ordered members).map (fun m => (m.1, sorted m.2)) = ordered members := by
      refine (List.map_congr_left fun m hm => ?_).trans (List.map_id _)
      obtain ⟨n, hn, rfl⟩ := mem_ordered_iff.1 hm
      exact congrArg _ (ih n hn)
    rw [sorted_object, sorted_object]
    conv_lhs => rw [ordered, hsame, List.mergeSort_of_pairwise (pairwise_ordered members)]

/-! ## Objects by their keys -/

theorem get?_ordered (hnodup : (members.map (·.1)).Nodup) (key : Text) :
    Keyed.get? (ordered members) key = (Keyed.get? members key).map sorted := by
  rw [← Keyed.get?_map]
  ext v
  have hnodup' : ((members.map fun m => (m.1, sorted m.2)).map (·.1)).Nodup := by
    rw [List.map_map]
    exact hnodup
  rw [Keyed.get?_eq_some_iff (nodup_ordered hnodup), Keyed.get?_eq_some_iff hnodup',
    (ordered_perm members).mem_iff]

/-- The sorted object is **given by the sorted values of its keys**. -/
theorem sorted_object_congr {others : Members} (h : Readable (.object members))
    (h' : Readable (.object others)) (hget : ∀ key,
      (Keyed.get? members key).map sorted = (Keyed.get? others key).map sorted) :
    sorted (.object members) = sorted (.object others) := by
  have hnodup := nodup_ordered h.nodup
  have hnodup' := nodup_ordered h'.nodup
  have hmem (m : Text × Value) : m ∈ ordered members ↔ m ∈ ordered others := by
    rw [← Keyed.get?_eq_some_iff hnodup, ← Keyed.get?_eq_some_iff hnodup', get?_ordered h.nodup,
      get?_ordered h'.nodup, hget]
  have hperm : (ordered members).Perm (ordered others) :=
    (List.perm_ext_iff_of_nodup hnodup.of_map hnodup'.of_map).2 hmem
  rw [sorted_object, sorted_object]
  refine congrArg _ (hperm.eq_of_pairwise (fun a b ha hb hab hba => ?_) (pairwise_ordered members)
    (pairwise_ordered others))
  -- Members that precede each other have one key, and no key comes twice.
  obtain ⟨m, hm, rfl⟩ := mem_ordered_iff.1 ha
  obtain ⟨n, hn, rfl⟩ := mem_ordered_iff.1 hb
  have hkey : m.1 = n.1 := Text.precedes_antisymm (h.keys m hm) (h'.keys n hn) hab hba
  have hfirst := (Keyed.get?_eq_some_iff hnodup).2 ha
  have hsecond := (Keyed.get?_eq_some_iff hnodup).2 ((hmem _).2 hb)
  rw [hkey] at hfirst ⊢
  rw [Option.some.inj (hfirst.symm.trans hsecond)]

end Drift.Json
