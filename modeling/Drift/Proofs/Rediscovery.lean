import Drift.Proofs.FileSystem.Elsewhere
import Drift.Proofs.Scan

/-!
# What a walk finds when a file is put

* `Discovery.byName_cons`, `Discovery.filter_byName` — items under one name keep their order, so
  sorting some of the items leaves the others aside.
* `Discovery.Visits` — what a walk comes to; `Discovery.filter_filesBelow_congr`,
  `Discovery.filter_filesBelow_put` — the same files are found by a walk that finds out the same,
  and by one below whose root another file is put.
* `Discovery.Disturbs` — the ways in which a file gets in the way of a walk.
* **`Scan.regions_put`** — without one of them, a scan gives the same as before.
-/

namespace Drift

theorem Logged.concat_congr {α β : Type} {f g : α → Logged (List β)} {as : List α}
    (h : ∀ a ∈ as, f a = g a) : concat f as = concat g as := by
  induction as with
  | nil => rfl
  | cons a as ih =>
    rw [List.forall_mem_cons] at h
    rw [concat, concat, h.1, ih h.2]

namespace Discovery

/-! ## Sorting some of the items -/

section ByName

variable {α β : Type}

/-- A first item comes **before all that may follow it**, and behind the others. -/
theorem byName_cons (item : String × α) (items : List (String × α)) :
    ∃ before behind, byName (item :: items) = before ++ item :: behind ∧
      byName items = before ++ behind ∧ (∀ other ∈ before, ¬ item.1 ≤ other.1) ∧
      ∀ other ∈ behind, item.1 ≤ other.1 := by
  have htrans (a b c : String × α) : decide (a.1 ≤ b.1) = true → decide (b.1 ≤ c.1) = true →
      decide (a.1 ≤ c.1) = true := fun hab hbc =>
    decide_eq_true (String.le_trans (of_decide_eq_true hab) (of_decide_eq_true hbc))
  have htotal (a b : String × α) : (decide (a.1 ≤ b.1) || decide (b.1 ≤ a.1)) = true := by
    simp only [Bool.or_eq_true, decide_eq_true_eq]
    exact String.le_total _ _
  obtain ⟨before, behind, hall, hothers, hbefore⟩ := List.mergeSort_cons htrans htotal item items
  have hsorted := List.pairwise_mergeSort htrans htotal (item :: items)
  rw [hall, List.pairwise_append, List.pairwise_cons] at hsorted
  refine ⟨before, behind, hall, hothers, fun other h => ?_, fun other h => ?_⟩
  · simpa using hbefore other h
  · exact of_decide_eq_true (hsorted.2.1.1 other h)

theorem append_inj_of_forall {p : α → Prop} [DecidablePred p]
    {before behind before' behind' : List α}
    (h : before ++ behind = before' ++ behind') (hbefore : ∀ a ∈ before, ¬ p a)
    (hbehind : ∀ a ∈ behind, p a) (hbefore' : ∀ a ∈ before', ¬ p a)
    (hbehind' : ∀ a ∈ behind', p a) : before = before' ∧ behind = behind' := by
  have hfilter {as bs : List α} (has : ∀ a ∈ as, ¬ p a) (hbs : ∀ b ∈ bs, p b) :
      (as ++ bs).filter (fun a => decide (p a)) = bs := by
    rw [List.filter_append, List.filter_eq_nil_iff.2 fun a ha => by simpa using has a ha,
      List.filter_eq_self.2 fun b hb => decide_eq_true (hbs b hb), List.nil_append]
  have hends : behind = behind' := by
    rw [← hfilter hbefore hbehind, h, hfilter hbefore' hbehind']
  subst hends
  exact ⟨List.append_cancel_right h, rfl⟩

/-- **Some of the items** are sorted by themselves as they are among the others. -/
theorem filter_byName (p : String × α → Bool) (items : List (String × α)) :
    (byName items).filter p = byName (items.filter p) := by
  induction items with
  | nil => rw [byName, List.mergeSort_nil, List.filter_nil, byName, List.mergeSort_nil]
  | cons item items ih =>
    obtain ⟨before, behind, hall, hothers, hbefore, hbehind⟩ := byName_cons item items
    rw [hothers, List.filter_append] at ih
    rw [hall, List.filter_append]
    by_cases h : p item = true
    · obtain ⟨before', behind', hall', hothers', hbefore', hbehind'⟩ :=
        byName_cons item (items.filter p)
      obtain ⟨rfl, rfl⟩ := append_inj_of_forall (ih.trans hothers')
        (fun other hother => hbefore other (List.mem_of_mem_filter hother))
        (fun other hother => hbehind other (List.mem_of_mem_filter hother)) hbefore' hbehind'
      rw [List.filter_cons_of_pos h, List.filter_cons_of_pos h, hall']
    · rw [List.filter_cons_of_neg h, List.filter_cons_of_neg h, ih]

theorem map_byName (f : String × α → β) (items : List (String × α)) :
    (byName items).map (fun item => (item.1, f item))
      = byName (items.map fun item => (item.1, f item)) :=
  List.map_mergeSort fun _ _ _ _ => rfl

/-- The lists that items give, by their names; items that give **nothing** are left out. -/
def yields (f : String × α → List β) (items : List (String × α)) : List (String × List β) :=
  (items.map fun item => (item.1, f item)).filter (!·.2.isEmpty)

/-- What all items give in the order of their names depends on those **that give something**. -/
theorem flatMap_byName (f : String × α → List β) (items : List (String × α)) :
    (byName items).flatMap f = (byName (yields f items)).flatMap (·.2) := by
  have hempty (lists : List (String × List β)) :
      (lists.filter (!·.2.isEmpty)).flatMap (·.2) = lists.flatMap (·.2) := by
    induction lists with
    | nil => rfl
    | cons item lists ih =>
      obtain ⟨name, _ | ⟨b, bs⟩⟩ := item
      · exact ih
      · exact congrArg (b :: bs ++ ·) ih
  rw [yields, ← filter_byName, hempty, ← map_byName, List.flatMap_map]

theorem yields_put {f : String × α → List β} {name : String} {v : α} {items : List (String × α)}
    (h : f (name, v) = ((Keyed.get? items name).map fun w => f (name, w)).getD []) :
    yields f (Keyed.put name v items) = yields f items := by
  induction items with
  | nil =>
    have hnil : f (name, v) = [] := h
    simp [yields, Keyed.put, hnil]
  | cons item items ih =>
    obtain ⟨k, w⟩ := item
    by_cases hk : k = name
    · subst hk
      have hsame : f (k, v) = f (k, w) := by simpa [Keyed.get?] using h
      simp [yields, Keyed.put, hsame]
    · have hrest := ih (by simpa [Keyed.get?, List.find?_cons, hk] using h)
      unfold yields at hrest ⊢
      rw [Keyed.put, if_neg hk, List.map_cons, List.map_cons, List.filter_cons, List.filter_cons,
        hrest]

end ByName

/-! ## Walks -/

variable {view view' : View} {p q : Path} {e : Entry} {selected : Path → Bool}

/-- A walk below the entry at the path `p` **comes to an entry** at the path `q`. -/
inductive Visits (view : View) : (p : Path) → (e : Entry) → (q : Path) → (found : Entry) → Prop where
  | here {p : Path} {e : Entry} : Visits view p e p e
  | inside {p q : Path} {entries : List (String × Entry)} {name : String} {child found : Entry}
      (hlisted : view.isListed p = true) (hmem : (name, child) ∈ entries)
      (h : Visits view (p.child name) child q found) : Visits view p (.directory entries) q found

/-- The file of a directory's entry, if it is read as a file and is selected. -/
def ownFile (view : View) (selected : Path → Bool) (p : Path) (item : String × Entry) : List Path :=
  if isReadable view (p.child item.1) item.2 && selected (p.child item.1) then [p.child item.1]
  else []

/-- The selected files below a directory's entry. -/
def filesUnder (view : View) (selected : Path → Bool) (p : Path) (item : String × Entry) :
    List Path :=
  (filesBelow view (p.child item.1) item.2).filter selected

theorem filter_filesBelow (hlisted : view.isListed p = true) (entries : List (String × Entry)) :
    (filesBelow view p (.directory entries)).filter selected
      = (byName entries).flatMap (ownFile view selected p)
        ++ (byName entries).flatMap (filesUnder view selected p) := by
  rw [filesBelow, if_pos hlisted, List.filter_append, filesOfEach_eq, ← map_byName,
    List.flatMap_map, List.filter_flatMap]
  congr 1
  unfold filesIn
  generalize byName entries = items
  induction items with
  | nil => rfl
  | cons item items ih =>
    rw [List.flatMap_cons, ← ih, ownFile, List.filter_cons]
    cases isReadable view (p.child item.1) item.2 with
    | false => rfl
    | true =>
      cases hs : selected (p.child item.1) with
      | false => simp [hs]
      | true => simp [hs]

theorem filesBelow_of_not_listed (h : ¬ view.isListed p = true) (entries : List (String × Entry)) :
    filesBelow view p (.directory entries) = [] := by
  rw [filesBelow, if_neg h]

theorem visits_of_mem (h : q ∈ filesBelow view p e) :
    ∃ found, Visits view p e q found ∧ found.isDirectory = false := by
  induction e using Entry.induct generalizing p with
  | leaf e hleaf => rw [filesBelow_of_leaf hleaf] at h; cases h
  | directory entries ih =>
    by_cases hlisted : view.isListed p = true
    · rw [filesBelow, if_pos hlisted, List.mem_append, List.mem_flatMap] at h
      rcases h with h | ⟨_, hitem, h⟩
      · obtain ⟨⟨name, child⟩, hitem, rfl⟩ := List.mem_map.1 h
        obtain ⟨hmem, hread⟩ := List.mem_filter.1 hitem
        refine ⟨child, .inside hlisted (mem_byName_iff.1 hmem) .here, ?_⟩
        cases child with
        | directory => cases hread
        | _ => rfl
      · rw [mem_byName_iff, filesOfEach_eq] at hitem
        obtain ⟨⟨name, child⟩, hmem, rfl⟩ := List.mem_map.1 hitem
        obtain ⟨found, hvisits, hfound⟩ := ih _ hmem h
        exact ⟨found, .inside hlisted hmem hvisits, hfound⟩
    · rw [filesBelow_of_not_listed hlisted] at h
      cases h

/-- Walks that **find out the same** find the same files: about listings, and about selected links
that they come to. -/
theorem filter_filesBelow_congr (hlisted : view'.isListed = view.isListed)
    (hleads : ∀ q target, Visits view p e q (.link target) → selected q = true →
      view'.leadsToDirectory q = view.leadsToDirectory q) :
    (filesBelow view' p e).filter selected = (filesBelow view p e).filter selected := by
  induction e using Entry.induct generalizing p with
  | leaf e hleaf => rw [filesBelow_of_leaf hleaf, filesBelow_of_leaf hleaf]
  | directory entries ih =>
    by_cases hp : view.isListed p = true
    · rw [filter_filesBelow hp, filter_filesBelow (hlisted ▸ hp)]
      have hown : ∀ item ∈ entries, ownFile view' selected p item = ownFile view selected p item := by
        rintro ⟨name, child⟩ hmem
        have hread : selected (p.child name) = true →
            isReadable view' (p.child name) child = isReadable view (p.child name) child := by
          intro hs
          cases child with
          | link target => exact congrArg (!·) (hleads _ target (.inside hp hmem .here) hs)
          | _ => rfl
        unfold ownFile
        by_cases hs : selected (p.child name) = true
        · rw [hread hs]
        · rw [Bool.eq_false_iff.2 hs, Bool.and_false, Bool.and_false]
      have hunder : ∀ item ∈ entries,
          filesUnder view' selected p item = filesUnder view selected p item := fun item hmem =>
        ih item hmem fun q target hvisits => hleads q target (.inside hp hmem hvisits)
      rw [List.flatMap_congr fun item hitem => hown item (mem_byName_iff.1 hitem),
        List.flatMap_congr fun item hitem => hunder item (mem_byName_iff.1 hitem)]
    · rw [filesBelow_of_not_listed hp, filesBelow_of_not_listed (hlisted ▸ hp)]

theorem filter_filesBelow_entry {entries : List (String × Entry)} {name : String} {new : Entry}
    (hown : ownFile view selected p (name, new)
      = ((Keyed.get? entries name).map fun old => ownFile view selected p (name, old)).getD [])
    (hunder : filesUnder view selected p (name, new)
      = ((Keyed.get? entries name).map fun old => filesUnder view selected p (name, old)).getD []) :
    (filesBelow view p (.directory (Keyed.put name new entries))).filter selected
      = (filesBelow view p (.directory entries)).filter selected := by
  by_cases hp : view.isListed p = true
  · rw [filter_filesBelow hp, filter_filesBelow hp]
    rw [flatMap_byName (ownFile view selected p), flatMap_byName (ownFile view selected p),
      flatMap_byName (filesUnder view selected p), flatMap_byName (filesUnder view selected p),
      yields_put hown, yields_put hunder]
  · rw [filesBelow_of_not_listed hp, filesBelow_of_not_listed hp]

theorem isReadable_of_alike (view : View) (p : Path) {e e' : Entry} (h : Entry.Alike e e') :
    isReadable view p e' = isReadable view p e := by
  rcases h with rfl | ⟨h, h'⟩
  · rfl
  · obtain ⟨entries, rfl⟩ := Entry.eq_directory h
    obtain ⟨entries', rfl⟩ := Entry.eq_directory h'
    rfl

theorem filesUnder_of_leaf (h : e.isDirectory = false) (name : String) :
    filesUnder view selected p (name, e) = [] := by
  rw [filesUnder, filesBelow_of_leaf h, List.filter_nil]

theorem filter_filesBelow_put_here {entries : List (String × Entry)} {name : String} {new : Entry}
    (hnew : new.isDirectory = false)
    (hdir : ∀ old, Keyed.get? entries name = some old → old.isDirectory = false)
    (hs : selected (p.child name) = false) :
    (filesBelow view p (.directory (Keyed.put name new entries))).filter selected
      = (filesBelow view p (.directory entries)).filter selected := by
  have hnone (child : Entry) : ownFile view selected p (name, child) = [] := by
    rw [ownFile, hs, Bool.and_false]
    rfl
  cases hc : Keyed.get? entries name with
  | none =>
    refine filter_filesBelow_entry ?_ ?_
    · rw [hc, hnone]; rfl
    · rw [hc, filesUnder_of_leaf hnew]; rfl
  | some old =>
    refine filter_filesBelow_entry ?_ ?_
    · rw [hc, hnone]
      exact (hnone old).symm
    · rw [hc, filesUnder_of_leaf hnew]
      exact (filesUnder_of_leaf (hdir old hc) name).symm

theorem filter_filesBelow_put_below {entries : List (String × Entry)} {name : String}
    {old new : Entry} (hold : Keyed.get? entries name = some old) (halike : Entry.Alike old new)
    (hsame : (filesBelow view (p.child name) new).filter selected
      = (filesBelow view (p.child name) old).filter selected) :
    (filesBelow view p (.directory (Keyed.put name new entries))).filter selected
      = (filesBelow view p (.directory entries)).filter selected := by
  refine filter_filesBelow_entry ?_ ?_
  · rw [hold, ownFile, isReadable_of_alike view (p.child name) halike]
    rfl
  · rw [hold]
    exact hsame

/-- A walk does not find what is put where **no directory was**, if it does not look there or does
not select it; and all else is found as before. -/
theorem filter_filesBelow_put {new : Entry} (hnew : new.isDirectory = false) {more : List String}
    (hmore : more ≠ []) (hdir : ∀ entries, e.get? more ≠ some (.directory entries))
    (hlisted : Listed view p more → selected (p.descend more) = false) :
    (filesBelow view p (e.put new more)).filter selected
      = (filesBelow view p e).filter selected := by
  -- Down the way to the place, one directory after the other.
  induction more generalizing p e with
  | nil => exact absurd rfl hmore
  | cons name more ih =>
    by_cases hleaf : e.isDirectory = false
    · rw [Entry.put_of_not_directory hleaf]
    obtain ⟨entries, rfl⟩ := Entry.eq_directory (Bool.not_eq_false _ ▸ hleaf)
    by_cases hp : view.isListed p = true
    swap
    · obtain ⟨entries', hput⟩ :=
        (Entry.alike_put (.directory entries) new name more).exists_directory
      rw [hput, filesBelow_of_not_listed hp, filesBelow_of_not_listed hp]
    cases more with
    | nil =>
      have hs : selected (p.child name) = false := by
        simpa [Path.descend_cons, Path.descend_nil] using hlisted ⟨hp, trivial⟩
      rw [Entry.put_directory_singleton]
      refine filter_filesBelow_put_here hnew (fun old hold => ?_) hs
      refine FileSystem.isDirectory_eq_false fun inside heq => hdir inside ?_
      rw [Entry.get?_singleton, ← heq]
      exact hold
    | cons next more =>
      cases hc : Keyed.get? entries name with
      | none => rw [Entry.put_directory_of_gap hc]
      | some below =>
        rw [Entry.put_directory_of_some hc]
        refine filter_filesBelow_put_below hc (Entry.alike_put below new next more) ?_
        refine ih (List.cons_ne_nil _ _) (fun inside h => hdir inside ?_) fun h => ?_
        · rw [Entry.get?_cons]
          exact (congrArg (Option.bind · _) hc).trans h
        · rw [← Path.descend_cons]
          exact hlisted ⟨hp, h⟩

/-! ## In the way of a walk -/

/-- Whether directories are listed **depends on their paths**. -/
theorem Listed.of_view {names : List String} (h : Listed view' p names)
    (hlisted : view'.isListed = view.isListed) : Listed view p names := by
  induction names generalizing p with
  | nil => exact trivial
  | cons name names ih => exact ⟨hlisted ▸ h.1, ih h.2⟩

theorem candidates_of_not_directory {fs fs' : FileSystem} {root : Path} {extensions : List String}
    (h : fs'.entry? root = fs.entry? root)
    (hdir : ∀ entries, fs.entry? root ≠ .ok (some (.directory entries))) :
    candidates fs' root extensions = candidates fs root extensions := by
  unfold candidates
  rw [h]
  split
  · rfl
  · rfl
  · next entries hentry => exact absurd hentry (hdir entries)
  · rfl
  · rfl

theorem candidates_directory {fs : FileSystem} {root : Path} {names : List String}
    {entries : List (String × Entry)} {extensions : List String}
    (h : fs.locate .content root = .ok (.taken names (.directory entries))) :
    candidates fs root extensions
      = .ok (((filesBelow (viewFrom fs root) root (.directory entries)).filter
        (selects extensions)).map (⟨·, true⟩)) := by
  unfold candidates FileSystem.entry?
  rw [h]

/-- A file at a place **gets in the way** of a walk below a root: the root's path comes by; or that of
a file or link that the walk comes to and selects; or the walk looks at the place, and selects its
path. -/
inductive Disturbs (fs : FileSystem) (root : Path) (extensions : List String)
    (place : List String) : Prop where
  | root (h : fs.ComesBy root place)
  | source {names : List String} {e found : Entry} {q : Path}
      (hroot : fs.locate .content root = .ok (.taken names e))
      (hvisits : Visits (viewFrom fs root) root e q found) (hfound : found.isDirectory = false)
      (hselects : selects extensions q = true) (h : fs.ComesBy q place)
  | listed {names more : List String} {e : Entry}
      (hroot : fs.locate .content root = .ok (.taken names e)) (hplace : place = names ++ more)
      (hmore : more ≠ []) (hlisted : Listed (viewFrom fs root) root more)
      (hselects : selects extensions (root.descend more) = true)

section

variable {fs : FileSystem} {root : Path} {place : Place} {extensions : List String}
  (hparts : p.parts ≠ []) (h : fs.locate .entry p = .ok place)
  (hdir : ∀ names entries, place ≠ .taken names (.directory entries)) (content : Bytes)

include hparts h hdir

theorem locate_put_of_taken {names : List String} (hc : ¬ fs.ComesBy q place.names)
    (hq : fs.locate .content q = .ok (.taken names e)) :
    ∃ e', (fs.put place.names (.file content)).locate .content q = .ok (.taken names e') ∧
      (e' = e ∨ ∃ more, more ≠ [] ∧ place.names = names ++ more ∧ e' = e.put (.file content) more)
    := by
  have hagrees := FileSystem.locate_of_not_comesBy hparts h hdir content hc
  rw [hq] at hagrees
  generalize hnew : (fs.put place.names (.file content)).locate .content q = new at hagrees
  obtain ⟨⟨halike⟩⟩ := hagrees
  next e' =>
  refine ⟨e', rfl, ?_⟩
  have hnone := (FileSystem.in_of_locate h).not_directory hdir
  rcases halike with rfl | ⟨he, -⟩
  · exact .inl rfl
  obtain ⟨entries, rfl⟩ := Entry.eq_directory he
  have hold : fs.tree.get? names = some (.directory entries) := by
    cases FileSystem.in_of_locate hq with
    | taken h => exact h
  have hnew : (fs.tree.put (.file content) place.names).get? names = some e' := by
    cases FileSystem.in_of_locate hnew with
    | taken h => exact h
  have hbelow := Entry.not_prefix_of_directory hnone hold
  by_cases habove : names <+: place.names
  · obtain ⟨more, hmore⟩ := habove
    refine .inr ⟨more, ?_, hmore.symm, ?_⟩
    · rintro rfl
      exact hbelow ⟨[], by rw [List.append_nil, ← hmore, List.append_nil]⟩
    · rw [← hmore, Entry.get?_put_above _ hold] at hnew
      exact (Option.some.inj hnew).symm
  · rw [Entry.get?_put_apart _ _ hbelow habove, hold] at hnew
    exact .inl (Option.some.inj hnew).symm

theorem leadsToDirectory_put (hc : ¬ fs.ComesBy q place.names) :
    (viewFrom (fs.put place.names (.file content)) root).leadsToDirectory q
      = (viewFrom fs root).leadsToDirectory q := by
  have hagrees := FileSystem.locate_of_not_comesBy hparts h hdir content hc
  unfold viewFrom
  simp only [(FileSystem.found_of_agrees hagrees).2.1]

theorem filesBelow_put (hc : ¬ Disturbs fs root extensions place.names) {names : List String}
    {entries : List (String × Entry)} {e' : Entry}
    (hlocate : fs.locate .content root = .ok (.taken names (.directory entries)))
    (hput : e' = .directory entries ∨ ∃ more, more ≠ [] ∧ place.names = names ++ more ∧
      e' = (Entry.directory entries).put (.file content) more) :
    (filesBelow (viewFrom (fs.put place.names (.file content)) root) root e').filter
        (selects extensions)
      = (filesBelow (viewFrom fs root) root (.directory entries)).filter (selects extensions) := by
  -- First links may lead elsewhere, in the tree as it was; then the tree may change.
  have hlinks : (filesBelow (viewFrom (fs.put place.names (.file content)) root) root
        (.directory entries)).filter (selects extensions)
      = (filesBelow (viewFrom fs root) root (.directory entries)).filter (selects extensions) :=
    filter_filesBelow_congr rfl fun q target hvisits hselects =>
      leadsToDirectory_put hparts h hdir content fun hq =>
        hc (.source hlocate hvisits rfl hselects hq)
  rcases hput with rfl | ⟨more, hmore, hplace, rfl⟩
  · exact hlinks
  refine Eq.trans (filter_filesBelow_put rfl hmore (fun inside hinside => ?_) fun hlisted => ?_)
    hlinks
  · refine (FileSystem.in_of_locate h).not_directory hdir inside ?_
    cases FileSystem.in_of_locate hlocate with
    | taken hget => rw [hplace, Entry.get?_append, hget]; exact hinside
  · exact Bool.eq_false_iff.2 fun hselects =>
      hc (.listed hlocate hplace hmore (hlisted.of_view rfl) hselects)

theorem entry?_put (hc : ¬ fs.ComesBy root place.names)
    (hnone : ∀ names entries, fs.locate .content root ≠ .ok (.taken names (.directory entries))) :
    FileSystem.entry? (fs.put place.names (.file content)) root = fs.entry? root := by
  have hagrees := FileSystem.locate_of_not_comesBy hparts h hdir content hc
  unfold FileSystem.entry?
  generalize fs.locate .content root = old at hagrees hnone
  generalize (fs.put place.names (.file content)).locate .content root = new at hagrees
  cases hagrees with
  | error => rfl
  | ok halike =>
    cases halike with
    | free => rfl
    | taken halike =>
      rcases halike with rfl | ⟨hold, -⟩
      · rfl
      · obtain ⟨entries, rfl⟩ := Entry.eq_directory hold
        exact absurd rfl (hnone _ entries)

theorem candidates_put (hc : ¬ Disturbs fs root extensions place.names) :
    candidates (fs.put place.names (.file content)) root extensions
      = candidates fs root extensions := by
  have hroot : ¬ fs.ComesBy root place.names := fun h => hc (.root h)
  by_cases he : ∃ names entries, fs.locate .content root = .ok (.taken names (.directory entries))
  · obtain ⟨names, entries, hlocate⟩ := he
    obtain ⟨e', hlocate', hput⟩ := locate_put_of_taken hparts h hdir content hroot hlocate
    have hfound := filesBelow_put hparts h hdir content hc hlocate hput
    obtain ⟨entries', rfl⟩ : ∃ entries', e' = .directory entries' := by
      rcases hput with rfl | ⟨more, hmore, -, rfl⟩
      · exact ⟨entries, rfl⟩
      · obtain ⟨name, more, rfl⟩ := List.exists_cons_of_ne_nil hmore
        exact (Entry.alike_put _ _ name more).exists_directory
    rw [candidates_directory hlocate', candidates_directory hlocate, hfound]
  · have hnone (names : List String) (entries : List (String × Entry)) :
        fs.locate .content root ≠ .ok (.taken names (.directory entries)) := fun hlocate =>
      he ⟨names, entries, hlocate⟩
    refine candidates_of_not_directory (entry?_put hparts h hdir content hroot hnone)
      fun entries hentries => ?_
    obtain ⟨names, hlocate⟩ := FileSystem.locate_of_entry? hentries
    exact hnone names entries hlocate

theorem read_candidate_put (hc : ¬ Disturbs fs root extensions place.names)
    {files : List Candidate} (hfiles : candidates fs root extensions = .ok files) {c : Candidate}
    (hmem : c ∈ files) : (fs.put place.names (.file content)).read c.path = fs.read c.path := by
  have hread (hq : ¬ fs.ComesBy c.path place.names) :
      (fs.put place.names (.file content)).read c.path = fs.read c.path :=
    (FileSystem.found_of_agrees
      (FileSystem.locate_of_not_comesBy hparts h hdir content hq)).2.2
  have hroot : ¬ fs.ComesBy root place.names := fun h => hc (.root h)
  unfold candidates at hfiles
  split at hfiles
  · cases hfiles
  · cases hfiles
  · next entries hentry =>
    cases hfiles
    obtain ⟨q, hq, rfl⟩ := List.mem_map.1 hmem
    obtain ⟨hq, hselects⟩ := List.mem_filter.1 hq
    obtain ⟨names, hlocate⟩ := FileSystem.locate_of_entry? hentry
    obtain ⟨found, hvisits, hfound⟩ := visits_of_mem hq
    exact hread fun hq => hc (.source hlocate hvisits hfound hselects hq)
  · cases hfiles
    cases hmem
  · cases hfiles
    split at hmem
    · obtain rfl := List.mem_singleton.1 hmem
      exact hread hroot
    · cases hmem

end

end Discovery

namespace Scan

variable {fs : FileSystem} {p : Path} {place : Place} {extensions : List String}

theorem regionsIn_congr {fs fs' : FileSystem} {c : Candidate} (h : fs'.read c.path = fs.read c.path)
    (parse : Parse Int) : regionsIn fs' parse c = regionsIn fs parse c := by
  unfold regionsIn Discovery.load Source.ofFile
  rw [h]

/-- A scan **gives the same** when a file has been put that does not get in its way. -/
theorem regions_put (hparts : p.parts ≠ []) (h : fs.locate .entry p = .ok place)
    (hdir : ∀ names entries, place ≠ .taken names (.directory entries)) (content : Bytes)
    {root : String}
    (hc : ¬ Discovery.Disturbs fs (Path.ofString root) (Extensions.normalize extensions) place.names)
    (grammars : Grammars) (r : Registry) (language : String) :
    regions (fs.put place.names (.file content)) grammars r root language extensions
      = regions fs grammars r root language extensions := by
  have hbelow (parse : Parse Int) :
      regionsBelow (fs.put place.names (.file content)) parse (Path.ofString root) extensions
        = regionsBelow fs parse (Path.ofString root) extensions := by
    unfold regionsBelow
    rw [Discovery.candidates_put hparts h hdir content hc]
    cases hfiles : Discovery.candidates fs (Path.ofString root) (Extensions.normalize extensions) with
    | error => rfl
    | ok files =>
      refine Logged.concat_congr fun c hmem => regionsIn_congr ?_ parse
      exact Discovery.read_candidate_put hparts h hdir content hc hfiles hmem
  unfold regions run
  simp only [hbelow]

end Scan

end Drift
