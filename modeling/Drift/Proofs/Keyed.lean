import Drift.Keyed
import Mathlib.Data.List.Nodup

/-!
# Entries of keyed lists

* `Keyed.mem_put`, `Keyed.nodup_put` — what setting a key leaves: its entry, and those of other keys.
* **`Keyed.get?_eq_some_iff`** — the values of keys are the entries, when no key comes twice.
-/

namespace Drift.Keyed

variable {κ α β : Type} [DecidableEq κ] {entries : List (κ × α)} {key : κ} {v : α}

theorem mem_of_get? (h : get? entries key = some v) : (key, v) ∈ entries := by
  obtain ⟨⟨k, w⟩, hfound, rfl⟩ := Option.map_eq_some_iff.1 h
  have hk : k = key := by simpa using List.find?_some hfound
  exact hk ▸ List.mem_of_find?_eq_some hfound

/-- A value is found by its key, when **no key comes twice**. -/
theorem get?_eq_some_iff (hnodup : (entries.map (·.1)).Nodup) :
    get? entries key = some v ↔ (key, v) ∈ entries := by
  refine ⟨mem_of_get?, fun h => ?_⟩
  induction entries with
  | nil => cases h
  | cons entry rest ih =>
    rw [List.map_cons, List.nodup_cons] at hnodup
    rcases List.mem_cons.1 h with rfl | h
    · simp [get?]
    · have hne : entry.1 ≠ key := fun heq => hnodup.1 (heq ▸ List.mem_map_of_mem h)
      have hrest := ih hnodup.2 h
      simpa [get?, List.find?_cons, hne] using hrest

/-- What is there when a key is set is its entry, or was there. -/
theorem mem_put {e : κ × α} (h : e ∈ put key v entries) : e = (key, v) ∨ e ∈ entries := by
  induction entries with
  | nil => exact .inl (List.mem_singleton.1 h)
  | cons entry rest ih =>
    obtain ⟨k, w⟩ := entry
    by_cases hk : k = key
    · rw [put, if_pos hk, hk] at h
      exact (List.mem_cons.1 h).imp_right (List.mem_cons_of_mem _)
    · rw [put, if_neg hk] at h
      rcases List.mem_cons.1 h with rfl | h
      · exact .inr List.mem_cons_self
      · exact (ih h).imp_right (List.mem_cons_of_mem _)

theorem put_of_new (h : key ∉ entries.map (·.1)) : put key v entries = entries ++ [(key, v)] := by
  induction entries with
  | nil => rfl
  | cons entry rest ih =>
    rw [List.map_cons, List.mem_cons, not_or] at h
    rw [put, if_neg (Ne.symm h.1), ih h.2, List.cons_append]

/-- No key comes twice when one is set. -/
theorem nodup_put (key : κ) (v : α) (h : (entries.map (·.1)).Nodup) :
    ((put key v entries).map (·.1)).Nodup := by
  induction entries with
  | nil => exact List.nodup_singleton _
  | cons entry rest ih =>
    obtain ⟨k, w⟩ := entry
    rw [List.map_cons, List.nodup_cons] at h
    by_cases hk : k = key
    · rw [put, if_pos hk, List.map_cons, List.nodup_cons]
      exact h
    · rw [put, if_neg hk, List.map_cons, List.nodup_cons]
      refine ⟨fun hmem => ?_, ih h.2⟩
      obtain ⟨e, he, heq⟩ := List.mem_map.1 hmem
      rcases mem_put he with rfl | he
      · exact hk heq.symm
      · exact h.1 (heq ▸ List.mem_map_of_mem he)

theorem get?_append (entries more : List (κ × α)) (key : κ) :
    get? (entries ++ more) key = (get? entries key).or (get? more key) := by
  unfold get?
  rw [List.find?_append, Option.map_or]

theorem get?_map (f : α → β) (entries : List (κ × α)) (key : κ) :
    get? (entries.map fun e => (e.1, f e.2)) key = (get? entries key).map f := by
  unfold get?
  rw [List.find?_map, Option.map_map, Option.map_map]
  rfl

end Drift.Keyed
