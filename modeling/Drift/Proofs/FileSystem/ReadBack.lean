import Drift.Proofs.FileSystem.Changes
import Drift.Proofs.FileSystem.Descent

/-!
# Reading back by the same path

* `Entry.Leads.toContent`, `Entry.Leads.toEntry` — the way to an entry and the way to what is found
  there; `Entry.Leads.parent` — it leads to a directory and on from there by its last step.
* `FileSystem.Reaches` — a path leads to a place even when what stands there is taken away; it does
  unless a link stood there.
* **`FileSystem.read_put_of_reaches`**, `FileSystem.read_put_of_not_reaches` — exactly then, a file
  that is put where the path led is read back by it.
-/

namespace Drift

namespace Entry

variable {top e : Entry} {aim : Aim} {links : Nat} {way steps : List String} {place : Place}

/-! ## Ways to an entry -/

/-- A way that does not end at a link is one **to what is found there**. -/
theorem Leads.toContent (hl : Leads top aim links way e steps place)
    (hlink : ∀ names target, place ≠ .taken names (.link target)) :
    Leads top .content links way e steps place := by
  induction hl with
  | done => exact .done
  | stay h _ ih => exact .stay h (ih hlink)
  | up h _ ih => exact .up h (ih hlink)
  | free hn h => exact .free hn.toContent h
  | stop => exact absurd rfl (hlink _ _)
  | linkToRoot hn h _ hroot _ ih => exact .linkToRoot hn.toContent h nofun hroot (ih hlink)
  | link hn h _ hroot _ ih => exact .link hn.toContent h nofun hroot (ih hlink)
  | down hn hbelow h _ ih => exact .down hn.toContent hbelow h (ih hlink)

theorem Named.toEntry {step : String} {rest : List String} (hn : Named aim step rest) :
    Named .entry step rest :=
  ⟨hn.notHere, hn.notUp, nofun, hn.short⟩

/-- Steps that lead to something **lead to an entry** first. -/
theorem Leads.toEntry (hl : Leads top .content links way e steps place) :
    ∃ place', Leads top .entry links way e steps place' := by
  induction hl with
  | done => exact ⟨_, .done⟩
  | stay h _ ih => exact ih.imp fun _ => .stay h
  | up h _ ih => exact ih.imp fun _ => .up h
  | free hn h => exact ⟨_, .free hn.toEntry h⟩
  | stop _ haim => cases haim
  | @linkToRoot _ _ _ _ _ rest _ hn h _ hroot _ ih =>
    by_cases hrest : rest = []
    · subst hrest
      exact ⟨_, .stop hn.toEntry rfl h⟩
    · exact ih.imp fun _ => .linkToRoot hn.toEntry h (fun hend => hrest hend.1) hroot
  | @link _ _ _ _ _ rest _ hn h _ hroot _ ih =>
    by_cases hrest : rest = []
    · subst hrest
      exact ⟨_, .stop hn.toEntry rfl h⟩
    · exact ih.imp fun _ => .link hn.toEntry h (fun hend => hrest hend.1) hroot
  | down hn hlink h _ ih => exact ih.imp fun _ => .down hn.toEntry hlink h

/-- The steps lead to a directory from which **one more step** leads to the place. -/
def LeadsOn (top : Entry) (aim : Aim) (links : Nat) (way : List String) (e : Entry)
    (steps : List String) (last : String) (place : Place) : Prop :=
  ∃ names entries left, Leads top .content links way e steps (.taken names (.directory entries)) ∧
    Leads top aim left names.reverse (.directory entries) [last] place

variable {last : String}

theorem LeadsOn.here {entries : List (String × Entry)}
    (hl : Leads top aim links way (.directory entries) [last] place) :
    LeadsOn top aim links way (.directory entries) [] last place :=
  ⟨_, _, _, .done, by rwa [List.reverse_reverse]⟩

theorem LeadsOn.after {links' : Nat} {way' steps' : List String} {e' : Entry}
    (hl : LeadsOn top aim links' way' e' steps' last place)
    (h : ∀ {found}, Leads top .content links' way' e' steps' found →
      Leads top .content links way e steps found) : LeadsOn top aim links way e steps last place := by
  obtain ⟨names, entries, left, hl, hlast⟩ := hl
  exact ⟨names, entries, left, h hl, hlast⟩

theorem Leads.parent (hl : Leads top aim links way e (steps ++ [last]) place) :
    LeadsOn top aim links way e steps last place := by
  generalize hall : steps ++ [last] = all at hl
  induction hl generalizing steps with
  | done => exact absurd hall (List.append_ne_nil_of_right_ne_nil _ (List.cons_ne_nil _ _))
  | stay h hl ih =>
    cases steps with
    | nil => cases hall; exact .here (.stay h hl)
    | cons => cases hall; exact (ih rfl).after (.stay h)
  | up h hl ih =>
    cases steps with
    | nil => cases hall; exact .here (.up h hl)
    | cons => cases hall; exact (ih rfl).after (.up h)
  | free hn h =>
    cases steps with
    | nil => cases hall; exact .here (.free hn h)
    | cons => simp at hall
  | stop hn haim h =>
    cases steps with
    | nil => cases hall; exact .here (.stop hn haim h)
    | cons => simp at hall
  | linkToRoot hn h hne hroot hl ih =>
    cases steps with
    | nil => cases hall; exact .here (.linkToRoot hn h hne hroot hl)
    | cons =>
      cases hall
      exact (ih (List.append_assoc ..)).after (.linkToRoot hn.before h nofun hroot)
  | link hn h hne hroot hl ih =>
    cases steps with
    | nil => cases hall; exact .here (.link hn h hne hroot hl)
    | cons =>
      cases hall
      exact (ih (List.append_assoc ..)).after (.link hn.before h nofun hroot)
  | down hn hlink h hl ih =>
    cases steps with
    | nil => cases hall; exact .here (.down hn hlink h hl)
    | cons => cases hall; exact (ih rfl).after (.down hn.before hlink h)

/-! ## Taking away and putting -/

theorem rel_alike_symm {found found' : Option Entry} (h : Option.Rel Alike found found') :
    Option.Rel Alike found' found := by
  cases h with
  | none => exact .none
  | some h => exact .some h.symm

theorem rel_alike_trans {found found' found'' : Option Entry} (h : Option.Rel Alike found found')
    (h' : Option.Rel Alike found' found'') : Option.Rel Alike found found'' := by
  cases h with
  | none => exact h'
  | some h =>
    cases h' with
    | some h' => exact .some (h.trans h')

end Entry

namespace FileSystem

variable {fs : FileSystem} {aim : Aim} {p : Path} {place : Place} {content : Bytes}

/-- The file system **without** what stands at the end of the names. -/
def without (fs : FileSystem) (names : List String) : FileSystem :=
  { fs with tree := fs.tree.erase names }

/-- The path leads there even **when what stands there is taken away**. -/
def Reaches (fs : FileSystem) (p : Path) (names : List String) : Prop :=
  ∃ place, (fs.without names).locate .entry p = .ok place ∧ place.names = names

variable {e : Entry} {names : List String}

theorem here_without (fs : FileSystem) (names : List String) :
    fs.here = (fs.without names).here := rfl

theorem filled_without (hne : names ≠ []) (h : fs.tree.get? names = some e) :
    Entry.Filled (fs.without names).tree fs.tree e names where
  free := Entry.get?_erase_self hne
  filled := h
  elsewhere hp := Entry.rel_alike_symm (Entry.rel_get?_erase fs.tree hp)

theorem filled_without_put (hne : names ≠ []) (h : (fs.put names e).tree.get? names = some e) :
    Entry.Filled (fs.without names).tree (fs.put names e).tree e names where
  free := Entry.get?_erase_self hne
  filled := h
  elsewhere hp := Entry.rel_alike_trans (Entry.rel_alike_symm (Entry.rel_get?_erase fs.tree hp))
    (Entry.rel_get?_put fs.tree e hp)

theorem isDirectory_eq_false (h : ∀ entries, e ≠ .directory entries) : e.isDirectory = false := by
  cases e with
  | directory entries => exact absurd rfl (h entries)
  | _ => rfl

theorem names_ne_nil (hparts : p.parts ≠ []) (h : fs.locate aim p = .ok place)
    (hdir : ∀ names entries, place ≠ .taken names (.directory entries)) : place.names ≠ [] := by
  obtain ⟨-, e, he, hleads⟩ := locate_eq_ok_iff.1 h
  intro hnil
  cases in_of_locate h with
  | free => exact absurd hnil (List.append_ne_nil_of_right_ne_nil _ (List.cons_ne_nil _ _))
  | @taken names root hroot =>
    obtain rfl : names = [] := hnil
    obtain rfl : fs.tree = root := Option.some.inj hroot
    have hleaf : fs.tree.isDirectory = false :=
      isDirectory_eq_false fun entries heq => hdir [] entries (heq ▸ rfl)
    cases hstart : fs.startOf p with
    | nil =>
      rw [hstart] at he
      obtain rfl : fs.tree = e := Option.some.inj he
      exact hparts (hleads.of_leaf hleaf).1
    | cons step steps =>
      rw [hstart, Entry.get?_of_leaf hleaf] at he
      cases he

theorem locate_without (hparts : p.parts ≠ []) (h : fs.locate aim p = .ok place)
    (hdir : ∀ names entries, place ≠ .taken names (.directory entries))
    (hlink : ∀ names target, place ≠ .taken names (.link target)) :
    ∃ old, (fs.without place.names).locate aim p = .ok old ∧ old.names = place.names := by
  have hne := names_ne_nil hparts h hdir
  cases in_of_locate h with
  | @free directory name _ hd hn =>
    have hfree : fs.tree.get? (directory ++ [name]) = none := (Place.In.free hd hn).get?_of_free
    have hsame : fs.without (directory ++ [name]) = fs := by
      rw [without, Entry.erase_of_free hfree]
    exact ⟨_, by rw [Place.names, hsame]; exact h, rfl⟩
  | @taken names e he =>
    have hleaf : e.isDirectory = false :=
      isDirectory_eq_false fun entries heq => hdir names entries (heq ▸ rfl)
    exact locate_unfill (here_without fs names) (filled_without hne he) hleaf
      (fun target heq => hlink names target (heq ▸ rfl)) hparts h

theorem reaches_of_not_link (hparts : p.parts ≠ []) (h : fs.locate .entry p = .ok place)
    (hdir : ∀ names entries, place ≠ .taken names (.directory entries))
    (hlink : ∀ names target, place ≠ .taken names (.link target)) : fs.Reaches p place.names :=
  locate_without hparts h hdir hlink

theorem locate_put_of_without (hne : names ≠ []) {free : Place}
    (hput : (fs.put names (.file content)).tree.get? names = some (.file content))
    (h : (fs.without names).locate .content p = .ok free) (hnames : free.names = names) :
    (fs.put names (.file content)).locate .content p = .ok (.taken names (.file content)) := by
  have hnew (target : String) : Entry.file content ≠ .link target := nofun
  have hhere : (fs.put names (.file content)).here = (fs.without names).here := rfl
  obtain ⟨found, hfound, hsame⟩ := locate_fill hhere (filled_without_put hne hput) (.inl hnew) h
  have hsame := hsame.trans hnames
  rw [hfound, (in_of_locate hfound).eq_taken ((congrArg _ hsame).trans hput), hsame]

theorem locate_put_of_reaches (hne : place.names ≠ []) (h : fs.locate .entry p = .ok place)
    (hreaches : fs.Reaches p place.names) (content : Bytes) :
    (fs.put place.names (.file content)).locate .content p
      = .ok (.taken place.names (.file content)) := by
  obtain ⟨free, hfree, hnames⟩ := hreaches
  -- Nothing stands there, so the way does not end at a link.
  have hlink (names : List String) (target : String) : free ≠ .taken names (.link target) := by
    rintro rfl
    cases in_of_locate hfree with
    | taken hthere =>
      rw [show names = place.names from hnames, without, Entry.get?_erase_self hne] at hthere
      cases hthere
  obtain ⟨hspelled, e, he, hleads⟩ := locate_eq_ok_iff.1 hfree
  have hcontent := locate_eq_ok_iff.2 ⟨hspelled, e, he, hleads.toContent hlink⟩
  exact locate_put_of_without hne ((in_of_locate h).get?_put _) hcontent hnames

/-- A path that finds what is put where it led **leads there without it**. -/
theorem reaches_of_locate_put (hparts : p.parts ≠ []) (h : fs.locate .entry p = .ok place)
    (hdir : ∀ names entries, place ≠ .taken names (.directory entries)) {new : Place}
    (hnew : (fs.put place.names (.file content)).locate .content p = .ok new) :
    fs.Reaches p place.names := by
  have hne := names_ne_nil hparts h hdir
  have hput : (fs.put place.names (.file content)).tree.get? place.names = some (.file content) :=
    (in_of_locate h).get?_put _
  obtain rfl := locate_content_of_put h hdir hnew
  have hhere : (fs.put place.names (.file content)).here = (fs.without place.names).here := rfl
  obtain ⟨old, hold, -⟩ := locate_unfill hhere (filled_without_put hne hput) rfl (fun _ => nofun)
    hparts hnew
  obtain ⟨hspelled, e, he, hleads⟩ := locate_eq_ok_iff.1 hold
  obtain ⟨entry, hentry⟩ := hleads.toEntry
  have hentry := locate_eq_ok_iff.2 ⟨hspelled, e, he, hentry⟩
  refine ⟨entry, hentry, ?_⟩
  cases in_of_locate h with
  | free =>
    obtain ⟨found, hfound, hnames⟩ := reaches_of_not_link hparts h nofun nofun
    obtain rfl := Except.ok.inj (hfound.symm.trans hentry)
    exact hnames
  | taken hthere =>
    obtain ⟨found, hfound, hsame⟩ :=
      locate_fill (here_without fs _) (filled_without hne hthere) (.inr rfl) hentry
    obtain rfl := Except.ok.inj (hfound.symm.trans h)
    exact hsame.symm

/-- A file that is put where a path leads **is read back by that path**, when the path leads there
without it. -/
theorem read_put_of_reaches (hne : place.names ≠ []) (h : fs.locate .entry p = .ok place)
    (hreaches : fs.Reaches p place.names) (content : Bytes) :
    (fs.put place.names (.file content)).read p = .ok content := by
  unfold read
  simp only [locate_put_of_reaches hne h hreaches content]

/-- Otherwise **nothing is read** by it. -/
theorem read_put_of_not_reaches (hparts : p.parts ≠ []) (h : fs.locate .entry p = .ok place)
    (hdir : ∀ names entries, place ≠ .taken names (.directory entries))
    (hreaches : ¬ fs.Reaches p place.names) (content : Bytes) :
    ∃ e, (fs.put place.names (.file content)).read p = .error (.file e p.text) := by
  have hnul := (spelled_of_locate h).nul_not_mem
  cases hlocate : (fs.put place.names (.file content)).locate .content p with
  | ok new => exact absurd (reaches_of_locate_put hparts h hdir hlocate) hreaches
  | error fault =>
    obtain ⟨e, rfl⟩ := fault_of_locate hnul hlocate
    exact ⟨e, by unfold read; simp only [hlocate]⟩

end FileSystem

end Drift
