/-!
# Keyed lists

* `Keyed.put` — sets a key; a key that is there keeps its place, a new one comes last.
* `Keyed.get?`, `Keyed.erase` — the value of a key, and the list without a key.
* `get?_put_self`, `get?_put_of_ne`, `get?_erase_self`, `get?_erase_of_ne` — each operation by the
  values of the keys.
* `put_put`, `put_of_get?`, `erase_put` — what is overwritten, put back or taken away again leaves
  nothing behind.
-/

namespace Drift.Keyed

variable {κ α : Type} [DecidableEq κ]

/-- Sets a key: an entry that is there is replaced in its place, a new one comes last. -/
def put (key : κ) (v : α) : List (κ × α) → List (κ × α)
  | [] => [(key, v)]
  | (k, w) :: rest => if k = key then (k, v) :: rest else (k, w) :: put key v rest

/-- The value of a key. -/
def get? (entries : List (κ × α)) (key : κ) : Option α :=
  (entries.find? (·.1 == key)).map (·.2)

/-- The entries of all other keys. -/
def erase (entries : List (κ × α)) (key : κ) : List (κ × α) :=
  entries.filter (·.1 != key)

@[simp] theorem get?_put_self (key : κ) (v : α) (entries : List (κ × α)) :
    get? (put key v entries) key = some v := by
  induction entries with
  | nil => simp [put, get?]
  | cons entry rest ih =>
    obtain ⟨k, w⟩ := entry
    by_cases h : k = key
    · simp [put, get?, h]
    · rw [put, if_neg h]
      simpa [get?, List.find?_cons, h] using ih

@[simp] theorem get?_put_of_ne {key other : κ} (h : other ≠ key) (v : α)
    (entries : List (κ × α)) : get? (put key v entries) other = get? entries other := by
  induction entries with
  | nil => simp [put, get?, Ne.symm h]
  | cons entry rest ih =>
    obtain ⟨k, w⟩ := entry
    by_cases hk : k = key
    · subst hk
      simp [put, get?, Ne.symm h]
    · rw [put, if_neg hk]
      by_cases ho : k = other
      · simp [get?, ho]
      · simpa [get?, List.find?_cons, ho] using ih

@[simp] theorem get?_erase_self (key : κ) (entries : List (κ × α)) :
    get? (erase entries key) key = none := by
  simp [get?, erase, List.find?_filter]

@[simp] theorem get?_erase_of_ne {key other : κ} (h : other ≠ key) (entries : List (κ × α)) :
    get? (erase entries key) other = get? entries other := by
  induction entries with
  | nil => rfl
  | cons entry rest ih =>
    obtain ⟨k, w⟩ := entry
    by_cases hk : k = key
    · subst hk
      simpa [erase, get?, List.find?_cons, Ne.symm h] using ih
    · by_cases ho : k = other
      · subst ho
        simp [erase, get?, hk]
      · simpa [erase, get?, List.filter_cons, List.find?_cons, hk, ho] using ih

/-- Of two values that are put one after the other, **the second one stays**. -/
theorem put_put (key : κ) (v w : α) (entries : List (κ × α)) :
    put key w (put key v entries) = put key w entries := by
  induction entries with
  | nil => simp [put]
  | cons entry rest ih =>
    obtain ⟨k, u⟩ := entry
    by_cases hk : k = key
    · simp [put, hk]
    · simpa [put, hk] using ih

/-- Putting a value back **changes nothing**. -/
theorem put_of_get? {key : κ} {v : α} {entries : List (κ × α)} (h : get? entries key = some v) :
    put key v entries = entries := by
  induction entries with
  | nil => cases h
  | cons entry rest ih =>
    obtain ⟨k, w⟩ := entry
    by_cases hk : k = key
    · subst hk
      obtain rfl : w = v := by simpa [get?] using h
      simp [put]
    · rw [put, if_neg hk, ih (by simpa [get?, List.find?_cons, hk] using h)]

/-- Taking a new key away again **changes nothing**. -/
theorem erase_put {key : κ} {entries : List (κ × α)} (h : get? entries key = none) (v : α) :
    erase (put key v entries) key = entries := by
  induction entries with
  | nil => simp [put, erase]
  | cons entry rest ih =>
    obtain ⟨k, w⟩ := entry
    by_cases hk : k = key
    · simp [get?, hk] at h
    · rw [put, if_neg hk, erase, List.filter_cons_of_pos (by simpa using hk)]
      exact congrArg _ (ih (by simpa [get?, List.find?_cons, hk] using h))

end Drift.Keyed
