import Drift.Proofs.FileSystem.Refusal

/-!
# Writing a file

* `FileSystem.locate_writing_of_content`, `FileSystem.locate_content_of_writing` — a path is written
  to where it leads, unless there is a directory.
* `FileSystem.locate_of_write`, `FileSystem.read_of_locate` — what is written is read back, unless a
  sink took it; `FileSystem.exists_write_of_content` — and a file that is there can be written.
* `FileSystem.makeDirectories_ok` — directories that are there are left alone, and new ones are empty;
  `FileSystem.not_isDirectory_of_makeDirectories` — without them there is no directory.
-/

namespace Drift

namespace Entry

variable {top e : Entry} {aim : Aim} {links : Nat} {way steps : List String} {place : Place}

/-! ## Ways for writing -/

theorem Leads.directory_of_slashes {rest : List String} (hrest : endsInSlashes rest = true)
    (hl : Leads top aim links way e (steps ++ rest) place) :
    ∃ names entries, place = .taken names (.directory entries) := by
  unfold endsInSlashes at hrest
  simp only [Bool.and_eq_true, Bool.not_eq_true', List.isEmpty_eq_false_iff, List.all_eq_true,
    beq_iff_eq] at hrest
  obtain ⟨hne, hall⟩ := hrest
  have hlast : rest.getLast hne = "" := hall _ (List.getLast_mem hne)
  rw [← List.dropLast_concat_getLast hne, ← List.append_assoc] at hl
  obtain ⟨names, entries, left, -, hstep⟩ := hl.parent
  generalize rest.getLast hne = last at hlast hstep
  cases hstep with
  | stay _ hl => cases hl; exact ⟨_, _, rfl⟩
  | up => exact absurd hlast (by decide)
  | free hn | stop hn | linkToRoot hn | link hn | down hn => exact absurd (.inl hlast) hn.notHere

theorem Named.toWriting {step : String} {rest : List String} (hn : Named .content step rest)
    (hl : Leads top .content links way e (step :: rest) place)
    (hdir : ∀ names entries, place ≠ .taken names (.directory entries)) :
    Named .writing step rest := by
  refine ⟨hn.notHere, hn.notUp, fun hslashes => ?_, hn.short⟩
  have hall : Leads top .content links way e ([step] ++ rest) place := hl
  obtain ⟨names, entries, rfl⟩ := hall.directory_of_slashes hslashes.2
  exact hdir _ _ rfl

theorem Leads.toWriting (hl : Leads top .content links way e steps place)
    (hdir : ∀ names entries, place ≠ .taken names (.directory entries)) :
    Leads top .writing links way e steps place := by
  induction hl with
  | done => exact .done
  | stay h _ ih => exact .stay h (ih hdir)
  | up h _ ih => exact .up h (ih hdir)
  | @free links way _ step hn h =>
    have hl : Leads top .content links way _ [step] (.free way.reverse step) := .free hn h
    exact .free (hn.toWriting hl hdir) h
  | stop _ haim => cases haim
  | @linkToRoot links way entries step _ rest place hn h hne hroot hl ih =>
    have hall : Leads top .content (links + 1) way (.directory entries) (step :: rest) place :=
      .linkToRoot hn h hne hroot hl
    exact .linkToRoot (hn.toWriting hall hdir) h nofun hroot (ih hdir)
  | link hn h hne hroot hl ih =>
    exact .link (hn.toWriting (.link hn h hne hroot hl) hdir) h nofun hroot (ih hdir)
  | down hn hlink h hl ih =>
    exact .down (hn.toWriting (.down hn hlink h hl) hdir) hlink h (ih hdir)

theorem ne_link_above {entries : List (String × Entry)} {above : Entry}
    (he : top.get? way.reverse = some (.directory entries))
    (habove : top.get? way.tail.reverse = some above) (target : String) :
    above ≠ .link target := by
  rintro rfl
  cases way with
  | nil => cases he.symm.trans habove
  | cons step way =>
    rw [List.reverse_cons] at he
    obtain ⟨_, hd⟩ := isDirectory_of_prefix he (List.cons_ne_nil _ _)
    cases hd.symm.trans habove

theorem root_ne_link {names : List String} {entries : List (String × Entry)}
    (he : top.get? names = some (.directory entries)) (target : String) : top ≠ .link target := by
  rintro rfl
  cases names with
  | nil => cases he
  | cons step steps =>
    rw [get?_of_leaf rfl] at he
    cases he

theorem Leads.not_link (haim : aim ≠ .entry) (hl : Leads top aim links way e steps place)
    (he : top.get? way.reverse = some e) (hnot : ∀ target, e ≠ .link target)
    (names : List String) (target : String) : place ≠ .taken names (.link target) := by
  induction hl with
  | done => rintro ⟨⟩; exact hnot _ rfl
  | stay _ _ ih => exact ih he nofun
  | up h _ ih => exact ih h (ne_link_above he h)
  | free => nofun
  | stop _ hentry => exact absurd hentry haim
  | linkToRoot _ _ _ _ _ ih => exact ih rfl (root_ne_link he)
  | link _ _ _ _ _ ih => exact ih he nofun
  | down _ hlink h _ ih => exact ih (get?_down he h) hlink

end Entry

namespace FileSystem

variable {fs fs' : FileSystem} {aim : Aim} {p : Path} {place : Place} {content bytes : Bytes}
  {names : List String}

/-! ## Writing and reading -/

theorem locate_writing_of_content (h : fs.locate .content p = .ok place)
    (hdir : ∀ names entries, place ≠ .taken names (.directory entries)) :
    fs.locate .writing p = .ok place := by
  obtain ⟨hspelled, e, he, hleads⟩ := locate_eq_ok_iff.1 h
  exact locate_eq_ok_iff.2 ⟨hspelled, e, he, hleads.toWriting hdir⟩

/-- A path with names is written to **where it leads**, and never to a link. -/
theorem locate_content_of_writing (hparts : p.parts ≠ []) (h : fs.locate .writing p = .ok place) :
    fs.locate .content p = .ok place ∧ ∀ names target, place ≠ .taken names (.link target) := by
  obtain ⟨hspelled, e, he, hleads⟩ := locate_eq_ok_iff.1 h
  have hnot (target : String) : e ≠ .link target := by
    rintro rfl
    exact hparts (hleads.of_leaf rfl).1
  have hlink := hleads.not_link (by decide) (by rwa [List.reverse_reverse]) hnot
  exact ⟨locate_eq_ok_iff.2 ⟨hspelled, e, he, hleads.toContent hlink⟩, hlink⟩

/-- What is written **is found by its path**, unless a sink took it. -/
theorem locate_of_write (hparts : p.parts ≠ []) (h : fs.write p content = .ok fs') :
    (fs' = fs ∧ ∃ names, fs.locate .content p = .ok (.taken names .sink)) ∨
      ∃ names, fs'.locate .content p = .ok (.taken names (.file content)) := by
  have hput {place : Place} (hplace : fs.locate .writing p = .ok place)
      (hdir : ∀ names entries, place ≠ .taken names (.directory entries)) :
      (fs.put place.names (.file content)).locate .content p
        = .ok (.taken place.names (.file content)) := by
    obtain ⟨hcontent, hlink⟩ := locate_content_of_writing hparts hplace
    obtain ⟨old, hold, hnames⟩ := locate_without hparts hcontent hdir hlink
    exact locate_put_of_without (names_ne_nil hparts hcontent hdir)
      ((in_of_locate hcontent).get?_put _) hold hnames
  unfold write at h
  split at h
  · cases h
  · cases h
  · next names hplace =>
    cases h
    exact .inl ⟨rfl, names, (locate_content_of_writing hparts hplace).1⟩
  · next names e hdir _ hplace =>
    cases h
    exact .inr ⟨names, hput hplace fun _ entries heq => by cases heq; exact hdir entries rfl⟩
  · next hplace =>
    cases h
    exact .inr ⟨_, hput hplace nofun⟩

/-- What stands where a path leads **is read by it**. -/
theorem read_of_locate (h : fs.locate .content p = .ok (.taken names (.file content))) :
    fs.read p = .ok content ∧ fs.isFile p = .ok true := by
  unfold read isFile entry?
  rw [h]
  exact ⟨rfl, rfl⟩

theorem locate_of_isFile (h : fs.isFile p = .ok true) :
    ∃ names content, fs.locate .content p = .ok (.taken names (.file content)) := by
  unfold isFile entry? at h
  split at h
  · next names e hplace =>
    cases e with
    | file content => exact ⟨names, content, hplace⟩
    | _ => cases h
  all_goals cases h

/-- What is there, and is no directory, **can be written to**. -/
theorem exists_write_of_content {e : Entry} (h : fs.locate .content p = .ok (.taken names e))
    (hdir : e.isDirectory = false) (content : Bytes) : ∃ fs', fs.write p content = .ok fs' := by
  have hplace := locate_writing_of_content h fun _ entries heq => by cases heq; cases hdir
  unfold write
  rw [hplace]
  cases e with
  | directory => cases hdir
  | _ => exact ⟨_, rfl⟩

/-! ## Making directories -/

theorem locate_of_isDirectory (h : fs.isDirectory p = .ok true) :
    ∃ names entries, fs.locate .content p = .ok (.taken names (.directory entries)) := by
  unfold isDirectory entry? at h
  split at h
  · next names e hplace =>
    cases e with
    | directory entries => exact ⟨names, entries, hplace⟩
    | _ => cases h
  all_goals cases h

theorem locate_entry_of_content (h : fs.locate .content p = .ok place) :
    ∃ place', fs.locate .entry p = .ok place' := by
  obtain ⟨hspelled, e, he, hleads⟩ := locate_eq_ok_iff.1 h
  obtain ⟨place', hleads⟩ := hleads.toEntry
  exact ⟨place', locate_eq_ok_iff.2 ⟨hspelled, e, he, hleads⟩⟩

theorem locate_content_of_entry (h : fs.locate .entry p = .ok place)
    (hlink : ∀ names target, place ≠ .taken names (.link target)) :
    fs.locate .content p = .ok place := by
  obtain ⟨hspelled, e, he, hleads⟩ := locate_eq_ok_iff.1 h
  exact locate_eq_ok_iff.2 ⟨hspelled, e, he, hleads.toContent hlink⟩

theorem makeDirectories_of_isDirectory (h : fs.isDirectory p = .ok true) :
    fs.makeDirectories p = (fs, .ok ()) := by
  obtain ⟨names, entries, hplace⟩ := locate_of_isDirectory h
  obtain ⟨place, hentry⟩ := locate_entry_of_content hplace
  have hmake : fs.makeDirectory p = .error (.file .exists p.text) := by
    unfold makeDirectory
    rw [hentry]
    cases place with
    | taken => rfl
    | free => cases hplace.symm.trans (locate_content_of_entry hentry nofun)
  rw [makeDirectories, hmake]
  simp only [settle, h]

theorem not_isDirectory_of_makeDirectory {fault : Fault} (h : fs.makeDirectory p = .error fault)
    (hfault : ∀ text, fault ≠ .file .exists text) : fs.isDirectory p ≠ .ok true := by
  intro hdir
  obtain ⟨names, entries, hplace⟩ := locate_of_isDirectory hdir
  obtain ⟨place, hentry⟩ := locate_entry_of_content hplace
  unfold makeDirectory at h
  rw [hentry] at h
  cases place with
  | taken => cases h; exact hfault _ rfl
  | free => cases h

theorem settle_eq_ok {fault : Fault} {u : Unit} (h : fs.settle p fault = .ok u) :
    fs.isDirectory p = .ok true := by
  unfold settle at h
  split at h
  · split at h
    · assumption
    · cases h
    · cases h
  · cases h

theorem not_isDirectory_of_settle {fault fault' : Fault} (hmake : fs.makeDirectory p = .error fault)
    (h : fs.settle p fault = .error fault') : fs.isDirectory p ≠ .ok true := by
  intro hdir
  unfold settle at h
  split at h
  · rw [hdir] at h
    cases h
  · next hfault => exact not_isDirectory_of_makeDirectory hmake (fun text => hfault _ text) hdir

/-- When directories are not made, **none is there**. -/
theorem not_isDirectory_of_makeDirectories {fault : Fault}
    (h : (fs.makeDirectories p).2 = .error fault) :
    (fs.makeDirectories p).1.isDirectory p ≠ .ok true := by
  fun_induction makeDirectories fs p with
  | case1 => cases h
  | case2 p text hmake =>
    exact not_isDirectory_of_makeDirectory hmake fun _ hfault => by cases hfault
  | case3 p text hmake hparts partly fault' habove ih =>
    intro hdir
    obtain ⟨names, entries, hplace⟩ := locate_of_isDirectory hdir
    rw [habove] at ih
    exact ih h (isDirectory_parent hparts hplace)
  | case4 => cases h
  | case5 p text hmake hparts partly habove text' hmake' ih =>
    exact not_isDirectory_of_makeDirectory hmake' fun _ hfault => by cases hfault
  | case6 p text hmake hparts partly habove fault' hfault hmake' ih =>
    exact not_isDirectory_of_settle hmake' h
  | case7 p fault' hfault hmake => exact not_isDirectory_of_settle hmake h

/-! ## Below new directories -/

theorem locate_below_empty {above : List String} (hparts : p.parts ≠ [])
    (habove : fs.locate .content p.parent = .ok (.taken above .empty))
    (hup : p.parts.getLast hparts ≠ "..") (h : fs.locate aim p = .ok place) :
    (∃ directory name, place = .free directory name) ∨
      (p.parts.getLast hparts = "" ∨ p.parts.getLast hparts = ".") ∧
        place = .taken above .empty := by
  obtain ⟨hspelled, e, he, hleads⟩ := locate_eq_ok_iff.1 h
  rw [← List.dropLast_concat_getLast hparts] at hleads
  generalize p.parts.getLast hparts = last at hup hleads ⊢
  obtain ⟨names, entries, left, hleads, hlast⟩ := hleads.parent
  have hparent : fs.locate .content p.parent = .ok (.taken names (.directory entries)) :=
    locate_eq_ok_iff.2 ⟨hspelled.parent hparts, e, he, hleads⟩
  cases habove.symm.trans hparent
  generalize hway : above.reverse = way at hlast
  cases hlast with
  | stay hstay hl =>
    cases hl
    exact .inr ⟨hstay, by rw [← hway, List.reverse_reverse]; rfl⟩
  | up => exact absurd rfl hup
  | free => exact .inl ⟨_, _, rfl⟩
  | stop _ _ hthere | linkToRoot _ hthere | link _ hthere | down _ _ hthere => cases hthere

theorem locate_of_makeDirectory (h : fs.makeDirectory p = .ok fs') :
    ∃ names, fs'.locate .content p = .ok (.taken names .empty) := by
  unfold makeDirectory at h
  split at h
  · cases h
  · cases h
  · next directory name hplace =>
    cases h
    have hfree := in_of_locate hplace
    have hnew (target : String) : Entry.empty ≠ .link target := nofun
    obtain ⟨found, hfound, hnames⟩ :=
      locate_put hfree hnew (locate_content_of_entry hplace nofun)
    have hput : (fs.put (directory ++ [name]) .empty).tree.get? found.names = some .empty := by
      rw [hnames]
      exact hfree.get?_put_of_free _
    exact ⟨_, (in_of_locate hfound).eq_taken hput ▸ hfound⟩

/-- Directories that are made on a way that never goes up are **new, and empty**. -/
theorem makeDirectories_ok (hup : ".." ∉ p.parts) (h : (fs.makeDirectories p).2 = .ok ()) :
    (fs.makeDirectories p).1 = fs ∨
      ∃ names, (fs.makeDirectories p).1.locate .content p = .ok (.taken names .empty) := by
  fun_induction makeDirectories fs p with
  | case1 p made hmake => exact .inr (locate_of_makeDirectory hmake)
  | case2 | case3 | case5 => cases h
  | case4 p text hmake hparts partly habove made hmake' ih =>
    exact .inr (locate_of_makeDirectory hmake')
  | case6 p text hmake hparts partly habove fault' hfault hmake' ih =>
    have habove' : ".." ∉ p.parent.parts := fun hmem => hup ((List.dropLast_sublist _).subset hmem)
    rw [habove] at ih
    obtain hsame | ⟨above, hempty⟩ := ih habove' rfl
    · exact .inl hsame
    · obtain ⟨names, entries, hplace⟩ := locate_of_isDirectory (settle_eq_ok h)
      have hlast : p.parts.getLast hparts ≠ ".." :=
        fun hlast => hup (hlast ▸ List.getLast_mem hparts)
      obtain ⟨_, _, hfree⟩ | ⟨-, hsame⟩ := locate_below_empty hparts hempty hlast hplace
      · cases hfree
      · exact .inr ⟨above, hplace.trans (congrArg _ hsame)⟩
  | case7 => exact .inl rfl

theorem Furnished.no_sink (h : Furnished p fs fs')
    (hnone : ∀ names, fs.tree.get? names ≠ some .sink) (names : List String) :
    fs'.tree.get? names ≠ some .sink := by
  intro hsink
  cases hold : fs.tree.get? names with
  | none => cases (h.made hold hsink).1
  | some e =>
    obtain ⟨e', he', halike⟩ := h.kept hold
    cases he'.symm.trans hsink
    rcases halike with rfl | ⟨-, hdir⟩
    · exact hnone names hold
    · cases hdir

end FileSystem

end Drift
