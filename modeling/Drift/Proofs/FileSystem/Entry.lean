import Drift.Entry

/-!
# Trees of entries

* `induct` — what holds of every entry but directories, and of those over entries that it holds of.
* `get?_append` — the end of a list of names is reached in two parts.
* `get?_put_self` — what has been put somewhere stands there; `erase_put` — taking it away again
  leaves the tree as it was.
* `Alike`, `rel_get?_put`, `rel_get?_erase` — everywhere else, and not below, nothing has changed but
  the contents of directories; `get?_put_above`, `get?_put_apart` — the directories above have changed
  below, and those apart not at all.
* `get?_erase_self`, `erase_of_free` — what has been taken away is not there, and taking away nothing
  changes nothing.
-/

namespace Drift.Entry

/-! ## Induction -/

/-- **Induction on trees**: a directory follows upon its entries. -/
theorem induct {P : Entry → Prop} (leaf : ∀ e, e.isDirectory = false → P e)
    (directory : ∀ entries, (∀ item ∈ entries, P item.2) → P (.directory entries)) : ∀ e, P e
  | .file _ | .link _ | .sink => leaf _ rfl
  | .directory entries => directory entries fun item _ => induct leaf directory item.2
termination_by e => sizeOf e
decreasing_by
  have hitem : sizeOf item < sizeOf entries := List.sizeOf_lt_of_mem ‹item ∈ entries›
  have hchild : sizeOf item.2 < sizeOf item := by
    obtain ⟨name, child⟩ := item
    simp only [Prod.mk.sizeOf_spec]
    omega
  simp only [Entry.directory.sizeOf_spec]
  omega

/-! ## Looking down -/

theorem get?_cons (e : Entry) (name : String) (names : List String) :
    e.get? (name :: names) = (e.child? name).bind (·.get? names) := by
  rw [get?]
  cases e.child? name <;> rfl

theorem get?_append (e : Entry) (names more : List String) :
    e.get? (names ++ more) = (e.get? names).bind (·.get? more) := by
  induction names generalizing e with
  | nil => rfl
  | cons name names ih =>
    rw [List.cons_append, get?_cons, get?_cons]
    cases e.child? name with
    | none => rfl
    | some below => exact ih below

@[simp] theorem get?_singleton (e : Entry) (name : String) : e.get? [name] = e.child? name := by
  rw [get?_cons]
  cases e.child? name <;> rfl

theorem get?_snoc {e : Entry} {names : List String} {entries : List (String × Entry)}
    (h : e.get? names = some (.directory entries)) (name : String) :
    e.get? (names ++ [name]) = Keyed.get? entries name := by
  rw [get?_append, h]
  exact get?_singleton _ _

theorem exists_directory_of_get?_cons {e below : Entry} {name : String} {names : List String}
    (h : e.get? (name :: names) = some below) :
    ∃ entries child, e = .directory entries ∧ Keyed.get? entries name = some child ∧
      child.get? names = some below := by
  rw [get?_cons] at h
  obtain ⟨child, hchild, hbelow⟩ := Option.bind_eq_some_iff.1 h
  cases e with
  | directory entries => exact ⟨entries, child, rfl, hchild, hbelow⟩
  | _ => cases hchild

theorem isDirectory_of_prefix {e below : Entry} {names more : List String}
    (h : e.get? (names ++ more) = some below) (hmore : more ≠ []) :
    ∃ entries, e.get? names = some (.directory entries) := by
  rw [get?_append] at h
  obtain ⟨above, habove, h⟩ := Option.bind_eq_some_iff.1 h
  cases more with
  | nil => exact absurd rfl hmore
  | cons name more =>
    obtain ⟨entries, -, rfl, -, -⟩ := exists_directory_of_get?_cons h
    exact ⟨entries, habove⟩

theorem exists_directory_of_prefix {e : Entry} {names place : List String}
    {entries : List (String × Entry)} (hp : names <+: place)
    (h : e.get? place = some (.directory entries)) :
    ∃ entries', e.get? names = some (.directory entries') := by
  obtain ⟨more, rfl⟩ := hp
  by_cases hmore : more = []
  · rw [hmore, List.append_nil] at h
    exact ⟨entries, h⟩
  · exact isDirectory_of_prefix h hmore

/-! ## Putting -/

@[simp] theorem put_nil (e new : Entry) : e.put new [] = new := by
  unfold put
  rfl

theorem put_of_not_directory {e : Entry} (h : e.isDirectory = false) (new : Entry) (name : String)
    (names : List String) : e.put new (name :: names) = e := by
  cases e with
  | directory => cases h
  | _ => rfl

theorem put_directory_of_some {entries : List (String × Entry)} {name : String} {below : Entry}
    (h : Keyed.get? entries name = some below) (new : Entry) (names : List String) :
    (Entry.directory entries).put new (name :: names)
      = .directory (Keyed.put name (below.put new names) entries) := by
  conv => lhs; unfold put
  simp only [h]

theorem put_directory_of_none {entries : List (String × Entry)} {name : String}
    (h : Keyed.get? entries name = none) (new : Entry) :
    (Entry.directory entries).put new [name] = .directory (Keyed.put name new entries) := by
  unfold put
  simp only [h]

theorem put_directory_of_gap {entries : List (String × Entry)} {name : String}
    (h : Keyed.get? entries name = none) (new : Entry) (next : String) (names : List String) :
    (Entry.directory entries).put new (name :: next :: names) = .directory entries := by
  unfold put
  simp only [h]

theorem put_directory_singleton (entries : List (String × Entry)) (name : String) (new : Entry) :
    (Entry.directory entries).put new [name] = .directory (Keyed.put name new entries) := by
  cases hc : Keyed.get? entries name with
  | none => exact put_directory_of_none hc new
  | some below => rw [put_directory_of_some hc, put_nil]

/-- What has been put into a directory **stands there**. -/
theorem get?_put_self {e : Entry} {names : List String} {entries : List (String × Entry)}
    (h : e.get? names = some (.directory entries)) (name : String) (new : Entry) :
    (e.put new (names ++ [name])).get? (names ++ [name]) = some new := by
  induction names generalizing e with
  | nil =>
    cases h
    rw [List.nil_append, put_directory_singleton, get?_singleton]
    exact Keyed.get?_put_self ..
  | cons first names ih =>
    obtain ⟨upper, child, rfl, hc, h⟩ := exists_directory_of_get?_cons h
    rw [List.cons_append, put_directory_of_some hc, get?_cons]
    change (Keyed.get? (Keyed.put first _ upper) first).bind _ = _
    rw [Keyed.get?_put_self]
    exact ih h

theorem erase_directory_of_some {entries : List (String × Entry)} {name : String} {below : Entry}
    (h : Keyed.get? entries name = some below) (next : String) (names : List String) :
    (Entry.directory entries).erase (name :: next :: names)
      = .directory (Keyed.put name (below.erase (next :: names)) entries) := by
  conv => lhs; unfold erase
  simp only [h]

theorem erase_directory_singleton {entries : List (String × Entry)} {name : String} {below : Entry}
    (h : Keyed.get? entries name = some below) :
    (Entry.directory entries).erase [name] = .directory (Keyed.erase entries name) := by
  unfold erase
  simp only [h]

/-- Taking away what has been put under a free name leaves the tree **as it was**. -/
theorem erase_put {e : Entry} {names : List String} {entries : List (String × Entry)} {name : String}
    (h : e.get? names = some (.directory entries)) (hname : Keyed.get? entries name = none)
    (new : Entry) : (e.put new (names ++ [name])).erase (names ++ [name]) = e := by
  induction names generalizing e with
  | nil =>
    cases h
    rw [List.nil_append, put_directory_singleton,
      erase_directory_singleton (Keyed.get?_put_self ..), Keyed.erase_put hname]
  | cons first names ih =>
    obtain ⟨upper, child, rfl, hc, h⟩ := exists_directory_of_get?_cons h
    obtain ⟨next, rest, hrest⟩ := List.exists_cons_of_ne_nil (l := names ++ [name]) (by simp)
    have hchild := ih h
    rw [List.cons_append, put_directory_of_some hc]
    rw [hrest] at hchild ⊢
    rw [erase_directory_of_some (Keyed.get?_put_self ..), hchild, Keyed.put_put,
      Keyed.put_of_get? hc]

/-- One of the entries can turn into the other by **a change below it**. -/
def Alike (e e' : Entry) : Prop := e' = e ∨ e.isDirectory = true ∧ e'.isDirectory = true

theorem rel_alike_rfl (found : Option Entry) : Option.Rel Alike found found := by
  cases found with
  | none => exact .none
  | some e => exact .some (.inl rfl)

theorem alike_put (e new : Entry) (name : String) (names : List String) :
    Alike e (e.put new (name :: names)) := by
  cases e with
  | directory entries =>
    refine .inr ⟨rfl, ?_⟩
    cases hc : Keyed.get? entries name with
    | some below => rw [put_directory_of_some hc]; rfl
    | none =>
      cases names with
      | nil => rw [put_directory_singleton]; rfl
      | cons => rw [put_directory_of_gap hc]; rfl
  | file | link | sink => exact .inl (put_of_not_directory rfl ..)

theorem child?_put_of_ne {name other : String} (h : other ≠ name) (e new : Entry)
    (names : List String) : (e.put new (name :: names)).child? other = e.child? other := by
  cases e with
  | directory entries =>
    cases hc : Keyed.get? entries name with
    | some below => rw [put_directory_of_some hc]; exact Keyed.get?_put_of_ne h ..
    | none =>
      cases names with
      | nil => rw [put_directory_singleton]; exact Keyed.get?_put_of_ne h ..
      | cons => rw [put_directory_of_gap hc]
  | file | link | sink => rw [put_of_not_directory rfl]

/-- Where a list of names does not lead through the place of the change, it leads to what was
**there before**, up to the contents of directories. -/
theorem rel_get?_put (e new : Entry) {place names : List String} (h : ¬ place <+: names) :
    Option.Rel Alike (e.get? names) ((e.put new place).get? names) := by
  induction place generalizing e names with
  | nil => exact absurd List.nil_prefix h
  | cons name place ih =>
    cases names with
    | nil => exact .some (alike_put e new name place)
    | cons other names =>
      by_cases hn : other = name
      · subst hn
        have hbelow : ¬ place <+: names := fun hp => h ((List.prefix_cons_inj _).2 hp)
        cases e with
        | file | link | sink => rw [put_of_not_directory rfl]; exact rel_alike_rfl _
        | directory entries =>
          cases hc : Keyed.get? entries other with
          | some below =>
            rw [put_directory_of_some hc, get?_cons, get?_cons]
            change Option.Rel Alike ((Keyed.get? entries other).bind _)
              ((Keyed.get? (Keyed.put other _ entries) other).bind _)
            rw [hc, Keyed.get?_put_self]
            exact ih below hbelow
          | none =>
            cases place with
            | nil => exact absurd List.nil_prefix hbelow
            | cons => rw [put_directory_of_gap hc]; exact rel_alike_rfl _
      · rw [get?_cons, get?_cons, child?_put_of_ne hn]
        exact rel_alike_rfl _

/-- What stands above the place of a change **has changed there**. -/
theorem get?_put_above {e above : Entry} (new : Entry) {names : List String}
    (h : e.get? names = some above) (more : List String) :
    (e.put new (names ++ more)).get? names = some (above.put new more) := by
  induction names generalizing e with
  | nil => cases h; rfl
  | cons name names ih =>
    obtain ⟨entries, child, rfl, hc, h⟩ := exists_directory_of_get?_cons h
    rw [List.cons_append, put_directory_of_some hc, get?_cons]
    change (Keyed.get? (Keyed.put name _ entries) name).bind _ = _
    rw [Keyed.get?_put_self]
    exact ih h

/-- What stands neither above nor below it **has not changed**. -/
theorem get?_put_apart (e new : Entry) {place names : List String} (hbelow : ¬ place <+: names)
    (habove : ¬ names <+: place) : (e.put new place).get? names = e.get? names := by
  induction place generalizing e names with
  | nil => exact absurd List.nil_prefix hbelow
  | cons name place ih =>
    cases names with
    | nil => exact absurd List.nil_prefix habove
    | cons other names =>
      by_cases hn : other = name
      · subst hn
        rw [List.prefix_cons_inj] at hbelow habove
        cases e with
        | file | link | sink => rw [put_of_not_directory rfl]
        | directory entries =>
          cases hc : Keyed.get? entries other with
          | some below =>
            rw [put_directory_of_some hc, get?_cons, get?_cons]
            change (Keyed.get? (Keyed.put other _ entries) other).bind _
              = (Keyed.get? entries other).bind _
            rw [hc, Keyed.get?_put_self]
            exact ih below hbelow habove
          | none =>
            cases place with
            | nil => exact absurd List.nil_prefix hbelow
            | cons => rw [put_directory_of_gap hc]
      · rw [get?_cons, get?_cons, child?_put_of_ne hn]

/-! ## Taking away -/

theorem erase_of_not_directory {e : Entry} (h : e.isDirectory = false) (name : String)
    (names : List String) : e.erase (name :: names) = e := by
  cases e with
  | directory => cases h
  | _ => rfl

theorem erase_directory_of_none {entries : List (String × Entry)} {name : String}
    (h : Keyed.get? entries name = none) (names : List String) :
    (Entry.directory entries).erase (name :: names) = .directory entries := by
  unfold erase
  simp only [h]

/-- What has been taken away is **not there**. -/
theorem get?_erase_self {e : Entry} {names : List String} (h : names ≠ []) :
    (e.erase names).get? names = none := by
  induction names generalizing e with
  | nil => exact absurd rfl h
  | cons name names ih =>
    cases e with
    | file | link | sink => rw [erase_of_not_directory rfl]; rfl
    | directory entries =>
      cases hc : Keyed.get? entries name with
      | none =>
        rw [erase_directory_of_none hc, get?_cons]
        exact congrArg (Option.bind · _) hc
      | some below =>
        cases names with
        | nil =>
          rw [erase_directory_singleton hc, get?_singleton]
          exact Keyed.get?_erase_self ..
        | cons next names =>
          rw [erase_directory_of_some hc, get?_cons]
          change (Keyed.get? (Keyed.put name _ entries) name).bind _ = _
          rw [Keyed.get?_put_self]
          exact ih (List.cons_ne_nil next names)

/-- Taking away what is not there **changes nothing**. -/
theorem erase_of_free {e : Entry} {names : List String} (h : e.get? names = none) :
    e.erase names = e := by
  induction names generalizing e with
  | nil => cases h
  | cons name names ih =>
    cases e with
    | file | link | sink => exact erase_of_not_directory rfl ..
    | directory entries =>
      cases hc : Keyed.get? entries name with
      | none => exact erase_directory_of_none hc names
      | some below =>
        have hbelow : below.get? names = none := by
          rw [get?_cons] at h
          change (Keyed.get? entries name).bind _ = _ at h
          rwa [hc] at h
        cases names with
        | nil => cases hbelow
        | cons next names =>
          rw [erase_directory_of_some hc, ih hbelow, Keyed.put_of_get? hc]

/-- Everywhere else, and not below, nothing changes but the contents of directories. -/
theorem rel_get?_erase (e : Entry) {place names : List String} (h : ¬ place <+: names) :
    Option.Rel Alike (e.get? names) ((e.erase place).get? names) := by
  induction place generalizing e names with
  | nil => exact absurd List.nil_prefix h
  | cons name place ih =>
    cases e with
    | file | link | sink => rw [erase_of_not_directory rfl]; exact rel_alike_rfl _
    | directory entries =>
      cases hc : Keyed.get? entries name with
      | none => rw [erase_directory_of_none hc]; exact rel_alike_rfl _
      | some below =>
        obtain ⟨entries', herase, hother⟩ : ∃ entries',
            (Entry.directory entries).erase (name :: place) = .directory entries' ∧
              ∀ other, other ≠ name → Keyed.get? entries' other = Keyed.get? entries other := by
          cases place with
          | nil =>
            exact ⟨_, erase_directory_singleton hc, fun _ hne => Keyed.get?_erase_of_ne hne _⟩
          | cons next place =>
            exact ⟨_, erase_directory_of_some hc .., fun _ hne => Keyed.get?_put_of_ne hne ..⟩
        cases names with
        | nil => rw [herase]; exact .some (.inr ⟨rfl, rfl⟩)
        | cons other names =>
          by_cases hn : other = name
          · subst hn
            cases place with
            | nil => exact absurd ((List.prefix_cons_inj _).2 List.nil_prefix) h
            | cons next place =>
              rw [erase_directory_of_some hc, get?_cons, get?_cons]
              change Option.Rel Alike ((Keyed.get? entries other).bind _)
                ((Keyed.get? (Keyed.put other _ entries) other).bind _)
              rw [hc, Keyed.get?_put_self]
              exact ih below fun hp => h ((List.prefix_cons_inj _).2 hp)
          · rw [herase, get?_cons, get?_cons]
            change Option.Rel Alike ((Keyed.get? entries other).bind _)
              ((Keyed.get? entries' other).bind _)
            rw [hother other hn]
            exact rel_alike_rfl _

end Drift.Entry
