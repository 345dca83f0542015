import Drift.Proofs.FileSystem.Follow

/-!
# Laying content down beside a file

* `Entry.Filled` — two trees that differ by one entry; `Entry.Leads.fill`, `Entry.Leads.unfill` — it
  changes no other way.
* `FileSystem.stage_eq_ok`, `FileSystem.locate_staged` — content that has been laid down stands in a
  place that was free.
* **`FileSystem.replace_error`**, **`FileSystem.replace_ok`** — a file that is not replaced leaves
  nothing behind, and one that is replaced nothing but its new content.
-/

namespace Drift

namespace Entry

variable {top e e' new : Entry} {place : List String}

/-! ## Directories above a change -/

theorem Alike.eq_of_not_directory (h : Alike e e') (he : e.isDirectory = false) : e' = e := by
  rcases h with rfl | ⟨h, -⟩
  · rfl
  · rw [he] at h; cases h

theorem eq_some_of_rel {found : Option Entry} (h : Option.Rel Alike (some e) found)
    (he : e.isDirectory = false) : found = some e := by
  cases h with
  | some h => rw [h.eq_of_not_directory he]

theorem eq_none_of_rel {found : Option Entry} (h : Option.Rel Alike none found) : found = none := by
  cases h
  rfl

theorem exists_of_rel {found : Option Entry} (h : Option.Rel Alike (some e) found) :
    ∃ e', found = some e' ∧ Alike e e' := by
  cases h with
  | some h => exact ⟨_, rfl, h⟩

theorem Alike.symm (h : Alike e e') : Alike e' e := by
  rcases h with rfl | ⟨he, he'⟩
  · exact .inl rfl
  · exact .inr ⟨he', he⟩

theorem Alike.exists_directory {entries : List (String × Entry)}
    (h : Alike (.directory entries) e) : ∃ entries', e = .directory entries' := by
  rcases h with rfl | ⟨-, h⟩
  · exact ⟨entries, rfl⟩
  · cases e with
    | directory entries' => exact ⟨entries', rfl⟩
    | _ => cases h

theorem not_prefix_of_directory (hdir : ∀ entries, top.get? place ≠ some (.directory entries))
    {names : List String} {entries : List (String × Entry)}
    (he : top.get? names = some (.directory entries)) : ¬ place <+: names := by
  intro hp
  obtain ⟨upper, hupper⟩ := exists_directory_of_prefix hp he
  exact hdir upper hupper

/-- Two trees that are alike **everywhere but at a place** where the first one has no directory: a
directory stays one, with all other names as they were. -/
theorem directory_of_rel {top' : Entry}
    (helsewhere : ∀ {names}, ¬ place <+: names →
      Option.Rel Alike (top.get? names) (top'.get? names))
    (hdir : ∀ entries, top.get? place ≠ some (.directory entries))
    {names : List String} {entries : List (String × Entry)}
    (he : top.get? names = some (.directory entries)) (he' : top'.get? names = some e) :
    ∃ entries', e = .directory entries' ∧ ∀ name, names ++ [name] ≠ place →
      Option.Rel Alike (Keyed.get? entries name) (Keyed.get? entries' name) := by
  have hprefix := not_prefix_of_directory hdir he
  have hrel := helsewhere hprefix
  rw [he, he'] at hrel
  obtain ⟨entries', rfl⟩ : ∃ entries', e = .directory entries' := by
    cases hrel with
    | some h => exact h.exists_directory
  refine ⟨entries', rfl, fun name hname => ?_⟩
  rw [← get?_snoc he, ← get?_snoc he']
  refine helsewhere ?_
  rw [List.prefix_concat_iff]
  exact not_or.2 ⟨hname ∘ Eq.symm, hprefix⟩

/-! ## Something new in a free place -/

/-- Two trees that **differ by one entry**: it stands in the second one, where the first one has a
free name. -/
structure Filled (top top' new : Entry) (place : List String) : Prop where
  free : top.get? place = none
  filled : top'.get? place = some new
  elsewhere : ∀ {names}, ¬ place <+: names → Option.Rel Alike (top.get? names) (top'.get? names)

variable {top' : Entry}

theorem Filled.exists_get? (h : Filled top top' new place) {names : List String}
    (he : top.get? names = some e) : ∃ e', top'.get? names = some e' ∧ Alike e e' := by
  have hprefix : ¬ place <+: names := by
    rintro ⟨more, rfl⟩
    rw [get?_append, h.free] at he
    cases he
  exact exists_of_rel (he ▸ h.elsewhere hprefix)

theorem not_directory_of_free (hfree : top.get? place = none) (entries : List (String × Entry)) :
    top.get? place ≠ some (.directory entries) := by
  rw [hfree]
  exact nofun

theorem Filled.directory (h : Filled top top' new place) {names : List String}
    {entries : List (String × Entry)} (he : top.get? names = some (.directory entries))
    (he' : top'.get? names = some e') :
    ∃ entries', e' = .directory entries' ∧
      (∀ {step below}, Keyed.get? entries step = some below →
        ∃ below', Keyed.get? entries' step = some below' ∧ Alike below below') ∧
      ∀ {step}, names ++ [step] ≠ place → Keyed.get? entries step = none →
        Keyed.get? entries' step = none := by
  obtain ⟨entries', rfl, hrel⟩ :=
    directory_of_rel h.elsewhere (not_directory_of_free h.free) he he'
  refine ⟨entries', rfl, fun {step below} hstep => ?_, fun {step} hne hstep => ?_⟩
  · rw [← get?_snoc he']
    exact h.exists_get? ((get?_snoc he step).trans hstep)
  · exact eq_none_of_rel (hstep ▸ hrel step hne)

theorem Alike.ne_link (h : Alike e e') (he : ∀ target, e ≠ .link target) (target : String) :
    e' ≠ .link target := by
  rcases h with rfl | ⟨-, h⟩
  · exact he target
  · rintro rfl
    cases h

variable {aim : Aim} {links : Nat} {way steps : List String}

theorem Filled.link (h : Filled top top' new place) {names : List String} {step target : String}
    {entries : List (String × Entry)} (he : top.get? names = some (.directory entries))
    (he' : top'.get? names = some e') (hstep : Keyed.get? entries step = some (.link target)) :
    ∃ entries', e' = .directory entries' ∧ Keyed.get? entries' step = some (.link target) := by
  obtain ⟨entries', rfl, hkept, -⟩ := h.directory he he'
  obtain ⟨_, hstep', halike⟩ := hkept hstep
  obtain rfl := halike.eq_of_not_directory rfl
  exact ⟨entries', rfl, hstep'⟩

theorem Filled.leads_to_new (h : Filled top top' new place) {step : String}
    {entries : List (String × Entry)} (he : top'.get? way.reverse = some (.directory entries))
    (hn : Named aim step []) (hp : way.reverse ++ [step] = place)
    (hnew : (∀ target, new ≠ .link target) ∨ aim = .entry) :
    Leads top' aim links way (.directory entries) [step] (.taken (step :: way).reverse new) := by
  have hstep : Keyed.get? entries step = some new := by rw [← get?_snoc he, hp, h.filled]
  by_cases hlink : ∃ target, new = .link target
  · obtain ⟨target, rfl⟩ := hlink
    obtain rfl := hnew.resolve_left fun hne => hne target rfl
    exact .stop hn rfl hstep
  · exact .down hn (fun target heq => hlink ⟨target, heq⟩) hstep .done

/-- Every way of the tree with the free name is one of the other tree. It ends where it ended; and
what stands there is found where the name was free. -/
theorem Leads.fill (hf : Filled top top' new place)
    (hnew : (∀ target, new ≠ .link target) ∨ aim = .entry)
    {old : Place} (hl : Leads top aim links way e steps old) (he : top.get? way.reverse = some e)
    (he' : top'.get? way.reverse = some e') :
    ∃ found, Leads top' aim links way e' steps found ∧ found.names = old.names := by
  induction hl generalizing e' with
  | done => exact ⟨_, .done, rfl⟩
  | stay h _ ih =>
    obtain ⟨entries', rfl, -, -⟩ := hf.directory he he'
    obtain ⟨found, hl', hnames⟩ := ih he he'
    exact ⟨found, .stay h hl', hnames⟩
  | up h _ ih =>
    obtain ⟨entries', rfl, -, -⟩ := hf.directory he he'
    obtain ⟨above', habove, -⟩ := hf.exists_get? h
    obtain ⟨found, hl', hnames⟩ := ih h habove
    exact ⟨found, .up habove hl', hnames⟩
  | @free _ way _ step hn h =>
    obtain ⟨entries', rfl, -, hfrees⟩ := hf.directory he he'
    by_cases hp : way.reverse ++ [step] = place
    · exact ⟨_, hf.leads_to_new he' hn hp hnew, List.reverse_cons⟩
    · exact ⟨_, .free hn (hfrees hp h), rfl⟩
  | stop hn haim h =>
    obtain ⟨entries', rfl, h'⟩ := hf.link he he' h
    exact ⟨_, .stop hn haim h', rfl⟩
  | linkToRoot hn h hne hroot _ ih =>
    obtain ⟨entries', rfl, h'⟩ := hf.link he he' h
    obtain ⟨found, hl', hnames⟩ := ih rfl rfl
    exact ⟨found, .linkToRoot hn h' hne hroot hl', hnames⟩
  | link hn h hne hroot _ ih =>
    obtain ⟨entries', rfl, h'⟩ := hf.link he he' h
    obtain ⟨found, hl', hnames⟩ := ih he he'
    exact ⟨found, .link hn h' hne hroot hl', hnames⟩
  | down hn hlink h _ ih =>
    obtain ⟨entries', rfl, hkept, -⟩ := hf.directory he he'
    obtain ⟨below', h', halike⟩ := hkept h
    obtain ⟨found, hl', hnames⟩ := ih (get?_down he h) (get?_down he' h')
    exact ⟨found, .down hn (halike.ne_link hlink) h' hl', hnames⟩

/-! ## The tree without it -/

theorem Filled.directory_before (hf : Filled top top' new place) {names : List String}
    {entries' : List (String × Entry)} (he : top.get? names = some e)
    (he' : top'.get? names = some (.directory entries')) :
    ∃ entries, e = .directory entries ∧
      (∀ {step below'}, Keyed.get? entries' step = some below' →
        (names ++ [step] = place ∧ below' = new ∧ Keyed.get? entries step = none) ∨
          ∃ below, Keyed.get? entries step = some below ∧ Alike below below') ∧
      ∀ {step}, Keyed.get? entries' step = none → Keyed.get? entries step = none := by
  obtain ⟨_, hsame, halike⟩ := hf.exists_get? he
  obtain rfl := Option.some.inj (hsame.symm.trans he')
  obtain ⟨entries, rfl⟩ := halike.symm.exists_directory
  refine ⟨entries, rfl, fun {step below'} hstep => ?_, fun {step} hstep => ?_⟩
  · cases hold : Keyed.get? entries step with
    | none =>
      have hp : names ++ [step] = place := by
        refine Decidable.byContradiction fun hp => ?_
        obtain ⟨_, heq, -, hfrees⟩ := hf.directory he he'
        cases heq
        rw [hfrees hp hold] at hstep
        cases hstep
      rw [← get?_snoc he', hp, hf.filled] at hstep
      exact .inl ⟨hp, (Option.some.inj hstep).symm, rfl⟩
    | some below =>
      obtain ⟨_, hnew, halike⟩ := hf.exists_get? ((get?_snoc he step).trans hold)
      rw [get?_snoc he', hstep] at hnew
      cases hnew
      exact .inr ⟨below, rfl, halike⟩
  · cases hold : Keyed.get? entries step with
    | none => rfl
    | some below =>
      obtain ⟨_, hnew, -⟩ := hf.exists_get? ((get?_snoc he step).trans hold)
      rw [get?_snoc he', hstep] at hnew
      cases hnew

theorem Filled.link_before (hf : Filled top top' new place) (hnew : ∀ target, new ≠ .link target)
    {names : List String} {step target : String} {entries' : List (String × Entry)}
    (he : top.get? names = some e) (he' : top'.get? names = some (.directory entries'))
    (hstep : Keyed.get? entries' step = some (.link target)) :
    ∃ entries, e = .directory entries ∧ Keyed.get? entries step = some (.link target) := by
  obtain ⟨entries, rfl, hthere, -⟩ := hf.directory_before he he'
  obtain ⟨-, heq, -⟩ | ⟨_, h, halike⟩ := hthere hstep
  · exact absurd heq.symm (hnew _)
  · obtain rfl := halike.symm.eq_of_not_directory rfl
    exact ⟨entries, rfl, h⟩

theorem Filled.eq_of_get? (hf : Filled top top' new place) (hleaf : ∀ step steps,
    new.get? (step :: steps) = none) {names : List String} (h : top.get? names = none)
    (h' : top'.get? names = some e) : names = place ∧ e = new := by
  by_cases hp : place <+: names
  · obtain ⟨more, rfl⟩ := hp
    rw [get?_append, hf.filled] at h'
    cases more with
    | nil => exact ⟨List.append_nil _, (Option.some.inj h').symm⟩
    | cons step steps =>
      rw [Option.bind_some, hleaf] at h'
      cases h'
  · have hrel := hf.elsewhere hp
    rw [h, h'] at hrel
    cases hrel

theorem get?_of_leaf (h : e.isDirectory = false) (step : String) (steps : List String) :
    e.get? (step :: steps) = none := by
  cases e with
  | directory => cases h
  | _ => rfl

theorem Leads.of_leaf (hleaf : e.isDirectory = false) {found : Place}
    (hl : Leads top aim links way e steps found) : steps = [] ∧ found = .taken way.reverse e := by
  cases hl with
  | done => exact ⟨rfl, rfl⟩
  | _ => cases hleaf

/-- Every way of the tree with an entry **that leads nowhere** is one of the tree without it, and
ends in the same place. -/
theorem Leads.unfill (hf : Filled top top' new place) (hleaf : new.isDirectory = false)
    (hnew : ∀ target, new ≠ .link target) {found : Place}
    (hl : Leads top' aim links way e' steps found) (he : top.get? way.reverse = some e)
    (he' : top'.get? way.reverse = some e') :
    ∃ old, Leads top aim links way e steps old ∧ old.names = found.names := by
  induction hl generalizing e with
  | done => exact ⟨_, .done, rfl⟩
  | stay h _ ih =>
    obtain ⟨entries, rfl, -, -⟩ := hf.directory_before he he'
    obtain ⟨old, hl, hnames⟩ := ih he he'
    exact ⟨old, .stay h hl, hnames⟩
  | up h _ ih =>
    obtain ⟨entries, rfl, -, -⟩ := hf.directory_before he he'
    obtain ⟨above, habove⟩ := exists_above he
    obtain ⟨old, hl, hnames⟩ := ih habove h
    exact ⟨old, .up habove hl, hnames⟩
  | free hn h =>
    obtain ⟨entries, rfl, -, hfrees⟩ := hf.directory_before he he'
    exact ⟨_, .free hn (hfrees h), rfl⟩
  | stop hn haim h =>
    obtain ⟨entries, rfl, h⟩ := hf.link_before hnew he he' h
    exact ⟨_, .stop hn haim h, rfl⟩
  | linkToRoot hn h hne hroot _ ih =>
    obtain ⟨entries, rfl, h⟩ := hf.link_before hnew he he' h
    obtain ⟨old, hl, hnames⟩ := ih rfl rfl
    exact ⟨old, .linkToRoot hn h hne hroot hl, hnames⟩
  | link hn h hne hroot _ ih =>
    obtain ⟨entries, rfl, h⟩ := hf.link_before hnew he he' h
    obtain ⟨old, hl, hnames⟩ := ih he he'
    exact ⟨old, .link hn h hne hroot hl, hnames⟩
  | down hn hlink h hl ih =>
    obtain ⟨entries, rfl, hthere, -⟩ := hf.directory_before he he'
    obtain ⟨-, rfl, hnone⟩ | ⟨below, hbelow, halike⟩ := hthere h
    · -- The entry is the end of the way, and without it the name is free.
      obtain ⟨rfl, rfl⟩ := hl.of_leaf hleaf
      exact ⟨_, .free hn hnone, List.reverse_cons.symm⟩
    · obtain ⟨old, hl, hnames⟩ := ih (get?_down he hbelow) (get?_down he' h)
      exact ⟨old, .down hn (halike.symm.ne_link hlink) hbelow hl, hnames⟩

end Entry

/-! ## File systems -/

namespace Place

variable {top new : Entry} {directory : List String} {name : String}

theorem In.get?_of_free (h : (Place.free directory name).In top) :
    top.get? (directory ++ [name]) = none := by
  cases h with
  | free h hn => rw [Entry.get?_snoc h, hn]

theorem In.get?_put_of_free (h : (Place.free directory name).In top) (new : Entry) :
    (top.put new (directory ++ [name])).get? (directory ++ [name]) = some new := by
  cases h with
  | free h _ => exact Entry.get?_put_self h name new

theorem In.filled (h : (Place.free directory name).In top) (new : Entry) :
    Entry.Filled top (top.put new (directory ++ [name])) new (directory ++ [name]) where
  free := h.get?_of_free
  filled := h.get?_put_of_free new
  elsewhere := Entry.rel_get?_put top new

theorem In.erase_put (h : (Place.free directory name).In top) (new : Entry) :
    (top.put new (directory ++ [name])).erase (directory ++ [name]) = top := by
  cases h with
  | free h hn => exact Entry.erase_put h hn new

theorem In.eq_taken {place : Place} {e : Entry} (h : place.In top)
    (he : top.get? place.names = some e) : place = .taken place.names e := by
  cases h with
  | taken h => cases h.symm.trans he; rfl
  | free h hn =>
    rw [names, Entry.get?_snoc h, hn] at he
    cases he

end Place

namespace FileSystem

variable {fs : FileSystem} {aim : Aim} {p : Path} {directory : List String} {name : String}
  {new : Entry} {content : Bytes}

variable {fs' : FileSystem} {place : List String}

theorem locate_fill (hhere : fs'.here = fs.here) (hf : Entry.Filled fs.tree fs'.tree new place)
    (hnew : (∀ target, new ≠ .link target) ∨ aim = .entry) {old : Place}
    (h : fs.locate aim p = .ok old) :
    ∃ found, fs'.locate aim p = .ok found ∧ found.names = old.names := by
  obtain ⟨hspelled, e, he, hleads⟩ := locate_eq_ok_iff.1 h
  obtain ⟨e', he', -⟩ := hf.exists_get? he
  obtain ⟨found, hleads', hnames⟩ := hleads.fill hf hnew
    (by rwa [List.reverse_reverse]) (by rwa [List.reverse_reverse])
  have hstart : fs'.startOf p = fs.startOf p := by rw [startOf, startOf, hhere]
  rw [← hstart] at he' hleads'
  exact ⟨found, locate_eq_ok_iff.2 ⟨hspelled, e', he', hleads'⟩, hnames⟩

theorem locate_unfill (hhere : fs'.here = fs.here) (hf : Entry.Filled fs.tree fs'.tree new place)
    (hleaf : new.isDirectory = false) (hnew : ∀ target, new ≠ .link target) (hparts : p.parts ≠ [])
    {found : Place} (h : fs'.locate aim p = .ok found) :
    ∃ old, fs.locate aim p = .ok old ∧ old.names = found.names := by
  obtain ⟨hspelled, e', he', hleads'⟩ := locate_eq_ok_iff.1 h
  have hstart : fs'.startOf p = fs.startOf p := by rw [startOf, startOf, hhere]
  rw [hstart] at he' hleads'
  cases he : fs.tree.get? (fs.startOf p) with
  | none =>
    obtain ⟨-, rfl⟩ := hf.eq_of_get? (Entry.get?_of_leaf hleaf) he he'
    exact absurd (hleads'.of_leaf hleaf).1 hparts
  | some e =>
    obtain ⟨old, hleads, hnames⟩ := hleads'.unfill hf hleaf hnew
      (by rwa [List.reverse_reverse]) (by rwa [List.reverse_reverse])
    exact ⟨old, locate_eq_ok_iff.2 ⟨hspelled, e, he, hleads⟩, hnames⟩

@[simp] theorem here_put (fs : FileSystem) (names : List String) (new : Entry) :
    (fs.put names new).here = fs.here := rfl

theorem locate_put (hfree : (Place.free directory name).In fs.tree)
    (hnew : ∀ target, new ≠ .link target) {old : Place} (h : fs.locate aim p = .ok old) :
    ∃ found, (fs.put (directory ++ [name]) new).locate aim p = .ok found ∧
      found.names = old.names :=
  locate_fill (here_put fs _ new) (hfree.filled new) (.inl hnew) h

/-! ## Staging -/

/-- Content is laid down **in a place that was free**. -/
theorem stage_eq_ok {k tries : Nat} {staged : Path} {laid : FileSystem}
    (h : fs.stage p content k tries = .ok (staged, laid)) :
    ∃ directory name, fs.locate .entry staged = .ok (.free directory name) ∧
      laid = fs.put (directory ++ [name]) (.file content) := by
  induction tries generalizing k with
  | zero => cases h
  | succ tries ih =>
    unfold stage at h
    simp only at h
    split at h
    · cases h
    · exact ih h
    · next directory name hfree =>
      cases h
      exact ⟨directory, name, hfree, rfl⟩

/-- Content that has been laid down is **found by its path**. -/
theorem locate_staged {staged : Path} (h : fs.locate .entry staged = .ok (.free directory name)) :
    (fs.put (directory ++ [name]) (.file content)).locate .entry staged
      = .ok (.taken (directory ++ [name]) (.file content)) := by
  have hfree := in_of_locate h
  have hnew (target : String) : Entry.file content ≠ .link target := nofun
  obtain ⟨found, hfound, hnames⟩ := locate_put hfree hnew h
  have htaken := (in_of_locate hfound).eq_taken (e := .file content)
    (by rw [hnames]; exact hfree.get?_put_of_free _)
  rw [hnames] at htaken
  rw [hfound, htaken]
  rfl

theorem put_erase (hfree : (Place.free directory name).In fs.tree) (new : Entry) :
    ({ fs.put (directory ++ [name]) new with
      tree := (fs.put (directory ++ [name]) new).tree.erase (directory ++ [name]) } : FileSystem)
      = fs := by
  change (⟨(fs.tree.put new _).erase _, fs.here⟩ : FileSystem) = fs
  rw [hfree.erase_put]

theorem remove_staged {staged : Path} (h : fs.locate .entry staged = .ok (.free directory name)) :
    (fs.put (directory ++ [name]) (.file content)).remove staged = .ok fs := by
  unfold remove
  rw [locate_staged h]
  exact congrArg _ (put_erase (in_of_locate h) _)

/-- Content that has been laid down and gets another path is put where that path leads **in the old
tree**, unless there is a directory. -/
theorem rename_staged {staged : Path} {renamed : FileSystem}
    (h : fs.locate .entry staged = .ok (.free directory name))
    (hrename : (fs.put (directory ++ [name]) (.file content)).rename staged p = .ok renamed) :
    ∃ place, fs.locate .entry p = .ok place ∧
      (∀ names entries, place ≠ .taken names (.directory entries)) ∧
      renamed = fs.put place.names (.file content) := by
  have hfree := in_of_locate h
  unfold rename at hrename
  rw [locate_staged h] at hrename
  simp only [put_erase hfree] at hrename
  split at hrename
  · cases hrename
  next found hfound =>
  split at hrename
  · cases hrename
  next hparts =>
  obtain ⟨old, hold, hnames⟩ := locate_unfill (here_put fs _ _) (hfree.filled (.file content)) rfl
    (fun _ => nofun) (fun h => hparts (.inl h)) hfound
  have hput (hdir : ∀ names entries, found ≠ .taken names (.directory entries)) :
      ∃ place, fs.locate .entry p = .ok place ∧
        (∀ names entries, place ≠ .taken names (.directory entries)) ∧
        fs.put found.names (.file content) = fs.put place.names (.file content) := by
    refine ⟨old, hold, fun names entries heq => ?_, by rw [hnames]⟩
    -- A directory of the old tree is one of the new tree.
    subst heq
    obtain ⟨hdirectory⟩ := in_of_locate hold
    obtain ⟨_, he', halike⟩ := (hfree.filled (.file content)).exists_get? hdirectory
    obtain ⟨entries', rfl⟩ := halike.exists_directory
    exact hdir _ entries' ((in_of_locate hfound).eq_taken (hnames ▸ he'))
  split at hrename
  · cases hrename
  · next names e hdir =>
    cases hrename
    exact hput fun _ entries heq => by cases heq; exact hdir entries rfl
  · cases hrename
    exact hput nofun

/-! ## Replacing -/

variable {fault : Fault}

/-- A file that is not replaced **leaves nothing behind**, neither under its name nor beside it. -/
theorem replace_error (h : (fs.replace p content).2 = .error fault) :
    (fs.replace p content).1 = fs := by
  unfold replace at h ⊢
  split at h
  · rfl
  · next staged laid hstage =>
    obtain ⟨directory, name, hfree, rfl⟩ := stage_eq_ok hstage
    simp only [remove_staged hfree] at h ⊢
    split at h
    · cases h
    · rfl

/-- A file that is replaced gets **its new content**, and nothing is left beside it. -/
theorem replace_ok (h : (fs.replace p content).2 = .ok ()) :
    ∃ place, fs.locate .entry p = .ok place ∧
      (∀ names entries, place ≠ .taken names (.directory entries)) ∧
      (fs.replace p content).1 = fs.put place.names (.file content) := by
  unfold replace at h ⊢
  split at h
  · cases h
  · next staged laid hstage =>
    obtain ⟨directory, name, hfree, rfl⟩ := stage_eq_ok hstage
    simp only [remove_staged hfree] at h ⊢
    split at h
    · next hrename =>
      exact rename_staged hfree hrename
    · cases h

end FileSystem

end Drift
