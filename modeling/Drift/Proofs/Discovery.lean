import Drift.Discovery
import Drift.Proofs.FileSystem.Descent
import Drift.Proofs.Utf8

/-!
# Discovery finds every source once, in order

* `Discovery.Before` — the order of files below a root, by the names on the way to them.
* `Discovery.mem_filesBelow_of_get?`, `Discovery.exists_get?_of_mem_filesBelow`,
  `Discovery.pairwise_filesBelow` — a walk finds what is read as a file, in that order;
  `Discovery.mem_filesBelow_iff` — below a plain entry these are the files.
* `Discovery.eq_of_pairwise` — the order and the files leave no choice.
* **`Discovery.discover_complete`** — the sources below a root are the files with one of the
  extensions, each once, in that order, however directories are listed.
-/

namespace Drift

namespace Logged

variable {α β : Type}

theorem result_bind {m : Logged α} {a : α} (h : m.result = .ok a) (f : α → Logged β) :
    (m.bind f).result = (f a).result := by
  unfold bind
  simp only [h]

theorem result_bind_eq_ok_iff {m : Logged α} {f : α → Logged β} {b : β} :
    (m.bind f).result = .ok b ↔ ∃ a, m.result = .ok a ∧ (f a).result = .ok b := by
  unfold bind
  cases m.result with
  | error => exact iff_of_false nofun fun ⟨_, h, _⟩ => nomatch h
  | ok a => exact ⟨fun h => ⟨a, rfl, h⟩, fun ⟨_, h, hb⟩ => Except.ok.inj h ▸ hb⟩

theorem result_concat_cons_eq_ok_iff {f : α → Logged (List β)} {a : α} {as : List α}
    {bs : List β} : (concat f (a :: as)).result = .ok bs ↔
      ∃ first others, (f a).result = .ok first ∧ (concat f as).result = .ok others ∧
        first ++ others = bs := by
  simp only [concat, result_bind_eq_ok_iff, ok, Except.ok.injEq, exists_and_left]

theorem result_concat {f : α → Logged (List β)} {g : α → List β} {as : List α}
    (h : ∀ a ∈ as, (f a).result = .ok (g a)) : (concat f as).result = .ok (as.flatMap g) := by
  induction as with
  | nil => rfl
  | cons a as ih =>
    rw [List.forall_mem_cons] at h
    rw [concat, result_bind h.1, result_bind (ih h.2), List.flatMap_cons]
    rfl

theorem exists_result_of_concat {f : α → Logged (List β)} {as : List α} {bs : List β}
    (h : (concat f as).result = .ok bs) : ∀ a ∈ as, ∃ b, (f a).result = .ok b := by
  induction as generalizing bs with
  | nil => exact nofun
  | cons a as ih =>
    obtain ⟨first, others, ha, has, -⟩ := result_concat_cons_eq_ok_iff.1 h
    exact List.forall_mem_cons.2 ⟨⟨first, ha⟩, ih has⟩

theorem result_bind_error {m : Logged α} {e : Failure} (h : m.result = .error e)
    (f : α → Logged β) : (m.bind f).result = .error e := by
  unfold bind
  simp only [h]

theorem exists_error_of_concat {f : α → Logged (List β)} {as : List α} {e : Failure}
    (h : (concat f as).result = .error e) : ∃ a ∈ as, (f a).result = .error e := by
  induction as with
  | nil => cases h
  | cons a as ih =>
    rw [concat] at h
    cases ha : (f a).result with
    | error e' =>
      rw [result_bind_error ha] at h
      exact ⟨a, List.mem_cons_self, ha.trans h⟩
    | ok first =>
      rw [result_bind ha] at h
      cases has : (concat f as).result with
      | error e' =>
        rw [result_bind_error has] at h
        obtain ⟨b, hb, hfail⟩ := ih (has.trans h)
        exact ⟨b, List.mem_cons_of_mem _ hb, hfail⟩
      | ok others =>
        rw [result_bind has] at h
        cases h

end Logged

theorem Source.encodingOf_default (use : Encoding.Use) :
    Source.encodingOf use Source.defaultEncoding = .ok .utf8 := rfl

namespace Discovery

/-! ## The order of files -/

/-- One file comes **before another** below the same root, by the names on the way to them: the
files of a directory come before those of its directories; files of one directory come by their
names, and so do directories with all that is below them. -/
inductive Before : List String → List String → Prop where
  | files {a b : String} (h : a < b) : Before [a] [b]
  | fileFirst {a b b' : String} {bs : List String} : Before [a] (b :: b' :: bs)
  | directories {a a' b b' : String} {as bs : List String} (h : a < b) :
      Before (a :: a' :: as) (b :: b' :: bs)
  | inside {a : String} {as bs : List String} (h : Before as bs) : Before (a :: as) (a :: bs)

theorem Before.asymm {as bs : List String} (h : Before as bs) : ¬ Before bs as := by
  induction h with
  | files h =>
    rintro (h' | _ | _ | h')
    · exact String.lt_asymm h h'
    · exact nomatch h'
  | fileFirst => rintro (_ | _ | _ | h'); exact nomatch h'
  | directories h =>
    rintro (_ | _ | h' | _)
    · exact String.lt_asymm h h'
    · exact String.lt_irrefl _ h
  | inside h ih =>
    rintro (h' | _ | h' | h')
    · exact String.lt_irrefl _ h'
    · exact nomatch h
    · exact String.lt_irrefl _ h'
    · exact ih h'

/-- Lists in a strict order are equal when they have **the same items**. -/
theorem eq_of_pairwise {α : Type} {R : α → α → Prop} (hR : ∀ {a b}, R a b → ¬ R b a)
    {as bs : List α} (has : as.Pairwise R) (hbs : bs.Pairwise R) (h : ∀ a, a ∈ as ↔ a ∈ bs) :
    as = bs := by
  have hnodup {cs : List α} (hcs : cs.Pairwise R) : cs.Nodup := by
    refine hcs.imp fun {a b} hab heq => ?_
    subst heq
    exact hR hab hab
  refine List.Perm.eq_of_pairwise (fun a b _ _ hab hba => absurd hba (hR hab)) has hbs ?_
  exact (List.perm_ext_iff_of_nodup (hnodup has) (hnodup hbs)).2 h

/-! ## Sorting by names -/

section ByName

variable {α : Type} {items : List (String × α)}

theorem byName_singleton (item : String × α) : byName [item] = [item] :=
  List.mergeSort_singleton _

theorem mem_byName_iff {item : String × α} : item ∈ byName items ↔ item ∈ items :=
  (List.mergeSort_perm items _).mem_iff

theorem pairwise_byName (h : (items.map (·.1)).Nodup) :
    (byName items).Pairwise fun a b => a.1 < b.1 := by
  have hle : (byName items).Pairwise fun a b => decide (a.1 ≤ b.1) = true :=
    List.pairwise_mergeSort (fun a b c hab hbc => by
      simp only [decide_eq_true_eq] at hab hbc ⊢
      exact String.le_trans hab hbc)
      (fun a b => by
        simp only [Bool.or_eq_true, decide_eq_true_eq]
        exact String.le_total _ _) items
  have hne : (byName items).Pairwise fun a b => a.1 ≠ b.1 := by
    have hnodup : ((byName items).map (·.1)).Nodup :=
      ((List.mergeSort_perm items _).map _).nodup_iff.2 h
    exact List.pairwise_map.1 hnodup
  refine (hle.and hne).imp fun {a b} hab => ?_
  have hab' : a.1 ≤ b.1 := of_decide_eq_true hab.1
  exact Decidable.byContradiction fun hlt => hab.2 (String.le_antisymm hab' (String.not_lt.1 hlt))

end ByName

/-! ## Walks -/

variable {view : View} {p q : Path} {e : Entry}

/-- All directories on the way are listed. -/
def Listed (view : View) (p : Path) : List String → Prop
  | [] => True
  | name :: names => view.isListed p = true ∧ Listed view (p.child name) names

theorem filesOfEach_eq (entries : List (String × Entry)) :
    filesOfEach view p entries
      = entries.map fun e => (e.1, filesBelow view (p.child e.1) e.2) := by
  induction entries with
  | nil => rw [filesOfEach]; rfl
  | cons entry rest ih => rw [filesOfEach, ih]; rfl

theorem mem_filesIn_iff {entries : List (String × Entry)} : q ∈ filesIn view p entries ↔
    ∃ name child, (name, child) ∈ entries ∧ isReadable view q child = true ∧ q = p.child name := by
  unfold filesIn
  simp only [List.mem_map, List.mem_filter, mem_byName_iff]
  constructor
  · rintro ⟨⟨name, child⟩, ⟨hmem, hread⟩, rfl⟩
    exact ⟨name, child, hmem, hread, rfl⟩
  · rintro ⟨name, child, hmem, hread, rfl⟩
    exact ⟨(name, child), ⟨hmem, hread⟩, rfl⟩

theorem filesBelow_of_leaf (h : e.isDirectory = false) : filesBelow view p e = [] := by
  rw [filesBelow]
  rintro entries rfl
  cases h

/-- A walk finds **what is read as a file**, when all directories on the way are listed. -/
theorem mem_filesBelow_of_get? {names : List String} {found : Entry} (hne : names ≠ [])
    (hget : e.get? names = some found) (hread : isReadable view (p.descend names) found = true)
    (hlisted : Listed view p names) : p.descend names ∈ filesBelow view p e := by
  induction names generalizing e p with
  | nil => exact absurd rfl hne
  | cons name names ih =>
    obtain ⟨entries, child, rfl, hc, hget⟩ := Entry.exists_directory_of_get?_cons hget
    have hmem := Keyed.mem_of_get? hc
    rw [filesBelow, if_pos hlisted.1, List.mem_append]
    rw [Path.descend_cons] at hread ⊢
    cases names with
    | nil =>
      cases hget
      exact .inl (mem_filesIn_iff.2 ⟨name, _, hmem, hread, Path.descend_nil _⟩)
    | cons next names =>
      have hfound := ih (List.cons_ne_nil _ _) hget hread hlisted.2
      refine .inr (List.mem_flatMap.2 ⟨(name, filesBelow view (p.child name) child), ?_, hfound⟩)
      rw [mem_byName_iff, filesOfEach_eq]
      exact List.mem_map.2 ⟨(name, child), hmem, rfl⟩

/-- Whatever a walk finds stands **below the entry**, and is read as a file. -/
theorem exists_get?_of_mem_filesBelow {P : String → Prop} (h : e.Sound P)
    (hq : q ∈ filesBelow view p e) : ∃ name names found, e.get? (name :: names) = some found ∧
      isReadable view q found = true ∧ Listed view p (name :: names) ∧
      q = p.descend (name :: names) := by
  induction h generalizing p with
  | leaf h =>
    rw [filesBelow_of_leaf h] at hq
    cases hq
  | @directory entries hnodup _ _ ih =>
    rw [filesBelow] at hq
    split at hq
    · next hlisted =>
      rw [List.mem_append, mem_filesIn_iff, List.mem_flatMap] at hq
      simp only [mem_byName_iff, filesOfEach_eq, List.mem_map] at hq
      rcases hq with ⟨name, child, hmem, hread, rfl⟩ | ⟨_, ⟨⟨name, child⟩, hmem, rfl⟩, hq⟩
      · refine ⟨name, [], child, ?_, hread, ⟨hlisted, trivial⟩, ?_⟩
        · exact (Entry.get?_cons_eq_some_iff hnodup).2 ⟨child, hmem, rfl⟩
        · rw [Path.descend_cons, Path.descend_nil]
      · obtain ⟨next, names, found, hget, hread, hbelow, rfl⟩ := ih _ hmem hq
        refine ⟨name, next :: names, found, ?_, hread, ⟨hlisted, hbelow⟩, ?_⟩
        · exact (Entry.get?_cons_eq_some_iff hnodup).2 ⟨child, hmem, hget⟩
        · rw [Path.descend_cons p]
    · cases hq

/-- A walk finds **the files below a plain entry** on whose way all directories are listed. -/
theorem mem_filesBelow_iff (h : e.Plain) (p : Path) : q ∈ filesBelow view p e ↔
    ∃ names content, names ≠ [] ∧ e.get? names = some (.file content) ∧ Listed view p names ∧
      q = p.descend names := by
  constructor
  · intro hq
    obtain ⟨name, names, found, hget, hread, hlisted, rfl⟩ :=
      exists_get?_of_mem_filesBelow h.sound hq
    cases h.get? hget with
    | file content => exact ⟨_, content, List.cons_ne_nil _ _, hget, hlisted, rfl⟩
    | directory => cases hread
  · rintro ⟨names, content, hne, hget, hlisted, rfl⟩
    exact mem_filesBelow_of_get? hne hget rfl hlisted

/-- The names by which a path leads on from `p`. -/
def namesFrom (p q : Path) : List String := q.parts.drop p.parts.length

@[simp] theorem namesFrom_descend (p : Path) (names : List String) :
    namesFrom p (p.descend names) = names := by
  rw [namesFrom, Path.descend, List.drop_left]

@[simp] theorem namesFrom_child (p : Path) (name : String) :
    namesFrom p (p.child name) = [name] := by
  rw [← namesFrom_descend p [name], Path.descend_cons, Path.descend_nil]

theorem namesFrom_descend_child (p : Path) (name : String) (names : List String) :
    namesFrom p ((p.child name).descend names) = name :: names := by
  rw [← Path.descend_cons, namesFrom_descend]

theorem exists_descend_of_mem {P : String → Prop} {entries : List (String × Entry)}
    (hsound : ∀ item ∈ entries, item.2.Sound P) {found : String × List Path}
    (h : found ∈ byName (filesOfEach view p entries)) :
    ∃ child, (found.1, child) ∈ entries ∧ found.2 = filesBelow view (p.child found.1) child ∧
      ∀ q ∈ found.2, ∃ next names, q = (p.child found.1).descend (next :: names) := by
  rw [mem_byName_iff, filesOfEach_eq] at h
  obtain ⟨⟨name, child⟩, hmem, rfl⟩ := List.mem_map.1 h
  refine ⟨child, hmem, rfl, fun q hq => ?_⟩
  obtain ⟨next, names, _, -, -, -, rfl⟩ := exists_get?_of_mem_filesBelow (hsound _ hmem) hq
  exact ⟨next, names, rfl⟩

/-- A walk finds files **in their order**. -/
theorem pairwise_filesBelow {P : String → Prop} (h : e.Sound P) (p : Path) :
    (filesBelow view p e).Pairwise fun q r => Before (namesFrom p q) (namesFrom p r) := by
  induction h generalizing p with
  | leaf h =>
    rw [filesBelow_of_leaf h]
    exact .nil
  | @directory entries hnodup _ hsound ih =>
    rw [filesBelow]
    split
    swap
    · exact .nil
    have hkeys : ((filesOfEach view p entries).map (·.1)).Nodup := by
      rw [filesOfEach_eq, List.map_map]
      exact hnodup
    rw [List.pairwise_append, List.pairwise_flatMap]
    refine ⟨?_, ⟨fun found hfound => ?_, ?_⟩, fun q hq r hr => ?_⟩
    · -- The files of the directory itself.
      refine List.pairwise_map.2 (((pairwise_byName hnodup).filter _).imp fun {a b} hab => ?_)
      rw [namesFrom_child, namesFrom_child]
      exact .files hab
    · -- The files below one of its directories.
      obtain ⟨child, hmem, heq, hbelow⟩ := exists_descend_of_mem hsound hfound
      rw [heq] at hbelow ⊢
      refine (ih _ hmem (p.child found.1)).imp_of_mem fun {q r} hq hr hqr => ?_
      obtain ⟨_, _, rfl⟩ := hbelow q hq
      obtain ⟨_, _, rfl⟩ := hbelow r hr
      rw [namesFrom_descend, namesFrom_descend] at hqr
      rw [namesFrom_descend_child, namesFrom_descend_child]
      exact .inside hqr
    · -- The files below two of its directories.
      refine (pairwise_byName hkeys).imp_of_mem fun {a b} ha hb hab q hq r hr => ?_
      obtain ⟨-, -, -, hbelow⟩ := exists_descend_of_mem hsound ha
      obtain ⟨-, -, -, hbelow'⟩ := exists_descend_of_mem hsound hb
      obtain ⟨_, _, rfl⟩ := hbelow q hq
      obtain ⟨_, _, rfl⟩ := hbelow' r hr
      rw [namesFrom_descend_child, namesFrom_descend_child]
      exact .directories hab
    · -- A file of the directory itself and one below.
      obtain ⟨name, _, -, -, rfl⟩ := mem_filesIn_iff.1 hq
      obtain ⟨found, hfound, hr⟩ := List.mem_flatMap.1 hr
      obtain ⟨-, -, -, hbelow⟩ := exists_descend_of_mem hsound hfound
      obtain ⟨_, _, rfl⟩ := hbelow r hr
      rw [namesFrom_child, namesFrom_descend_child]
      exact .fileFirst

/-! ## Reading what is found -/

variable {fs : FileSystem} {root : Path}

theorem listed_of_short {names : List String} (hnames : ∀ name ∈ names, name ≠ "")
    (hp : p = root ∨ p.parts ≠ []) (hshort : (p.descend names).byteLength < FileSystem.pathLimit) :
    Listed (viewFrom fs root) p names := by
  induction names generalizing p with
  | nil => exact trivial
  | cons name names ih =>
    rw [List.forall_mem_cons] at hnames
    rw [Path.descend_cons] at hshort
    have hchild := p.byteLength_child hnames.1
    have hbelow := (p.child name).byteLength_descend hnames.2
    refine ⟨decide_eq_true ?_, ih hnames.2 (.inr (by simp [Path.child])) hshort⟩
    unfold walkedLength
    split
    · next hbare =>
      rcases hp with rfl | hp
      · rw [Path.IsBare.byteLength hbare]
        decide
      · rw [Path.byteLength_child_of_ne hp] at hbelow
        have := Path.utf8ByteSize_pos hnames.1
        omega
    · omega

theorem decode_default (text : String) :
    Source.decode Source.defaultEncoding (Utf8.encodeString text) = .ok text := by
  have hdecode : Utf8.decode (Utf8.encodeString text) = .ok text.toList :=
    Utf8.decode_eq_ok_iff.2 rfl
  unfold Source.decode
  simp only [Source.encodingOf_default, Encoding.decode, Encoding.decodeUtf8, hdecode,
    Except.mapError]
  rw [String.ofList_toList]

/-- A file below a root, by the names on the way to it, **as a source**. -/
def sourceAt (root : Path) (file : List String × String) : Source :=
  ⟨(root.descend file.1).text, file.2, Source.defaultEncoding⟩

theorem ofFile_descend (hroot : fs.entry? root = .ok (some e)) {names : List String}
    {text : String} (hproper : ∀ name ∈ names, ProperName name)
    (hfile : e.get? names = some (.file (Utf8.encodeString text)))
    (hshort : (root.descend names).byteLength < FileSystem.pathLimit) :
    Source.ofFile fs (root.descend names) Source.defaultEncoding = .ok (sourceAt root (names, text))
    := by
  unfold Source.ofFile
  simp only [FileSystem.read_descend hroot hproper hfile hshort, decode_default]
  rfl

theorem candidates_eq (hroot : fs.entry? root = .ok (some e)) (hplain : e.Plain)
    (extensions : List String) :
    ∃ (paths : List Path) (found : Bool),
      candidates fs root extensions = .ok (paths.map (⟨·, found⟩)) ∧
      paths.Pairwise (fun q r => Before (namesFrom root q) (namesFrom root r)) ∧
      ∀ q, q ∈ paths ↔ ∃ names content, e.get? names = some (.file content) ∧
        Listed (viewFrom fs root) root names ∧ selects extensions q = true ∧
        q = root.descend names := by
  cases hplain with
  | file content =>
    refine ⟨if selects extensions root then [root] else [], false, ?_, ?_, fun q => ?_⟩
    · unfold candidates
      simp only [hroot]
      split <;> rfl
    · split
      · exact List.pairwise_singleton _ _
      · exact .nil
    · constructor
      · intro hq
        split at hq
        · next hselects =>
          obtain rfl := List.mem_singleton.1 hq
          exact ⟨[], content, rfl, trivial, hselects, (Path.descend_nil _).symm⟩
        · cases hq
      · rintro ⟨_ | ⟨name, names⟩, found, hfile, -, hselects, rfl⟩
        · rw [Path.descend_nil] at hselects ⊢
          rw [if_pos hselects]
          exact List.mem_singleton_self _
        · cases hfile
  | @directory entries hnodup hname hchild =>
    have hdirectory : (Entry.directory entries).Plain := .directory hnodup hname hchild
    refine ⟨(filesBelow (viewFrom fs root) root (.directory entries)).filter (selects extensions),
      true, ?_, (pairwise_filesBelow hdirectory.sound root).filter _, fun q => ?_⟩
    · unfold candidates
      simp only [hroot]
    · rw [List.mem_filter, mem_filesBelow_iff hdirectory]
      constructor
      · rintro ⟨⟨names, content, -, hfile, hlisted, rfl⟩, hselects⟩
        exact ⟨names, content, hfile, hlisted, hselects, rfl⟩
      · rintro ⟨names, content, hfile, hlisted, hselects, rfl⟩
        refine ⟨⟨names, content, ?_, hfile, hlisted, rfl⟩, hselects⟩
        rintro rfl
        cases hfile

/-- The files that are to be found below a root can be read and hold text: each file with one of
the extensions has a path that is **not too long**, and the bytes of a text. -/
def Legible (root : Path) (e : Entry) (extensions : List String) : Prop :=
  ∀ names content, e.get? names = some (.file content) →
    selects extensions (root.descend names) = true →
    (root.descend names).byteLength < FileSystem.pathLimit ∧
      ∃ text, content = Utf8.encodeString text

/-- The sources below a root are the files of a list. -/
structure Finds (fs : FileSystem) (root : Path) (e : Entry) (arguments : List String)
    (files : List (List String × String)) : Prop where
  result : (discover fs root arguments).result = .ok (files.map (sourceAt root))
  ordered : files.Pairwise fun f g => Before f.1 g.1
  complete : ∀ names text, (names, text) ∈ files ↔
    e.get? names = some (.file (Utf8.encodeString text)) ∧
      selects (Extensions.normalize arguments) (root.descend names) = true

/-- The sources below a plain root are **the files with one of the extensions**, each once, in
order. -/
theorem exists_finds (hroot : fs.entry? root = .ok (some e)) (hplain : e.Plain)
    {arguments : List String} (hlegible : Legible root e (Extensions.normalize arguments)) :
    ∃ files, Finds fs root e arguments files := by
  obtain ⟨paths, found, hcandidates, hordered, hmem⟩ :=
    candidates_eq hroot hplain (Extensions.normalize arguments)
  -- Each path is that of a file that holds text.
  have hfile (q : Path) (hq : q ∈ paths) : ∃ f : List String × String, q = root.descend f.1 ∧
      e.get? f.1 = some (.file (Utf8.encodeString f.2)) ∧
      Source.ofFile fs q Source.defaultEncoding = .ok (sourceAt root f) := by
    obtain ⟨names, content, hfile, -, hselects, rfl⟩ := (hmem q).1 hq
    obtain ⟨hshort, text, rfl⟩ := hlegible names content hfile hselects
    exact ⟨(names, text), rfl, hfile, ofFile_descend hroot (hplain.proper hfile) hfile hshort⟩
  choose! file hpath hget hload using hfile
  refine ⟨paths.map file, ?_, ?_, fun names text => ?_⟩
  · unfold discover
    simp only [hcandidates]
    rw [Logged.result_concat (g := fun c => [sourceAt root (file c.path)])]
    · rw [List.flatMap_map, List.map_map, ← List.map_eq_flatMap]
      rfl
    · rintro _ hc
      obtain ⟨q, hq, rfl⟩ := List.mem_map.1 hc
      exact (Logged.result_bind (hload q hq) _).trans rfl
  · refine List.pairwise_map.2 (hordered.imp_of_mem fun {q r} hq hr hqr => ?_)
    rw [hpath q hq, hpath r hr, namesFrom_descend, namesFrom_descend] at hqr
    exact hqr
  · constructor
    · intro h
      obtain ⟨q, hq, heq⟩ := List.mem_map.1 h
      obtain ⟨_, _, -, -, hselects, -⟩ := (hmem q).1 hq
      have hget := hget q hq
      rw [hpath q hq] at hselects
      rw [heq] at hget hselects
      exact ⟨hget, hselects⟩
    · rintro ⟨hfile, hselects⟩
      have hq : root.descend names ∈ paths := by
        refine (hmem _).2 ⟨names, _, hfile, ?_, hselects, rfl⟩
        exact listed_of_short (fun name hname => (hplain.proper hfile name hname).notEmpty)
          (.inl rfl) (hlegible names _ hfile hselects).1
      have hnames := Path.descend_injective (hpath _ hq)
      have hget := hget _ hq
      rw [← hnames, hfile] at hget
      have htext : text = (file (root.descend names)).2 :=
        Utf8.encodeString_injective (Entry.file.inj (Option.some.inj hget))
      exact List.mem_map.2 ⟨_, hq, Prod.ext hnames.symm htext.symm⟩

theorem Finds.files_eq {fs' : FileSystem} {e' : Entry} {arguments : List String}
    {files files' : List (List String × String)} (h : Finds fs root e arguments files)
    (h' : Finds fs' root e' arguments files')
    (hget : ∀ names content,
      e'.get? names = some (.file content) ↔ e.get? names = some (.file content)) :
    files' = files := by
  refine eq_of_pairwise (fun h => h.asymm) h'.ordered h.ordered fun ⟨names, text⟩ => ?_
  rw [h.complete, h'.complete, hget]

/-- **The sources below a root** that is a file or a tree of files, all legible, are the files with
one of the extensions, each once, in order; and however the directories of the tree are listed, the
sources are the same. -/
theorem discover_complete {arguments : List String} (hroot : fs.entry? root = .ok (some e))
    (hplain : e.Plain) (hlegible : Legible root e (Extensions.normalize arguments)) :
    ∃ files, Finds fs root e arguments files ∧
      ∀ fs' e', fs'.entry? root = .ok (some e') → e.Relisted e' →
        (discover fs' root arguments).result = (discover fs root arguments).result := by
  obtain ⟨files, hfinds⟩ := exists_finds hroot hplain hlegible
  refine ⟨files, hfinds, fun fs' e' hroot' hrelisted => ?_⟩
  obtain ⟨hplain', hget⟩ := hrelisted.plain_and_get? hplain
  obtain ⟨files', hfinds'⟩ := exists_finds hroot' hplain'
    fun names content hfile => hlegible names content ((hget names content).1 hfile)
  rw [hfinds'.result, hfinds.result, hfinds.files_eq hfinds' hget]

/-! ### A listing and another one -/

/-- A file. -/
def sampleFile : String × Entry := ("b.js", .file (Utf8.encodeString "f();"))

/-- A directory with a file. -/
def sampleDirectory : String × Entry :=
  ("a", .directory [("c.js", .file (Utf8.encodeString "g();"))])

/-- The file and the directory, below the directory `p`. -/
def sampleTree : Entry := .directory [sampleFile, sampleDirectory]

/-- A file system with a directory `p`. -/
def sampleFiles (e : Entry) : FileSystem := ⟨.directory [("p", e)], []⟩

theorem plain_sampleTree : sampleTree.Plain := by
  have hdirectory : sampleDirectory.2.Plain :=
    .directory (by decide) (by decide) (List.forall_mem_singleton.2 (.file _))
  exact .directory (by decide) (by decide)
    (List.forall_mem_cons.2 ⟨.file _, List.forall_mem_singleton.2 hdirectory⟩)

theorem get?_sampleTree {names : List String} {content : Bytes} :
    sampleTree.get? names = some (.file content) ↔
      (names = ["b.js"] ∧ content = Utf8.encodeString "f();") ∨
        (names = ["a", "c.js"] ∧ content = Utf8.encodeString "g();") := by
  rw [sampleTree, Entry.get?_directory_iff (by decide)]
  simp [sampleFile, sampleDirectory, Entry.get?_directory_iff, Entry.get?_file_iff]

/-- The file comes first, though the directory is listed before it. -/
theorem discover_sampleTree : (discover
      (sampleFiles (.directory [sampleDirectory, sampleFile])) (Path.ofString "p") [".JS"]).result
    = .ok [⟨"p/b.js", "f();", "utf-8"⟩, ⟨"p/a/c.js", "g();", "utf-8"⟩] := by
  have hlegible : Legible (Path.ofString "p") sampleTree (Extensions.normalize [".JS"]) := by
    rintro names content hfile -
    rcases get?_sampleTree.1 hfile with ⟨rfl, rfl⟩ | ⟨rfl, rfl⟩
    · exact ⟨by decide +kernel, _, rfl⟩
    · exact ⟨by decide +kernel, _, rfl⟩
  have hroot : FileSystem.entry? (sampleFiles sampleTree) (Path.ofString "p")
      = .ok (some sampleTree) := rfl
  obtain ⟨files, hfinds, hlisted⟩ := discover_complete hroot plain_sampleTree hlegible
  obtain rfl : files = [(["b.js"], "f();"), (["a", "c.js"], "g();")] := by
    refine eq_of_pairwise (fun h => h.asymm) hfinds.ordered (by simp [Before.fileFirst]) ?_
    rintro ⟨names, text⟩
    rw [hfinds.complete, get?_sampleTree, List.mem_pair, Prod.mk.injEq, Prod.mk.injEq]
    constructor
    · rintro ⟨⟨rfl, h⟩ | ⟨rfl, h⟩, -⟩
      · exact .inl ⟨rfl, Utf8.encodeString_injective h⟩
      · exact .inr ⟨rfl, Utf8.encodeString_injective h⟩
    · rintro (⟨rfl, rfl⟩ | ⟨rfl, rfl⟩)
      · exact ⟨.inl ⟨rfl, rfl⟩, rfl⟩
      · exact ⟨.inr ⟨rfl, rfl⟩, rfl⟩
  rw [hlisted _ _ rfl (.listing (.swap _ _ _)), hfinds.result]
  rfl

/-! ### A path that is too long -/

/-- A directory with a file. -/
def sampleBelow : Entry := .directory [("f.js", .file [])]

/-- The directory `d`, by a path that leaves it and comes back `k` times. -/
def backAndForth (k : Nat) : Path := ⟨.here, "d" :: (List.replicate k ["..", "d"]).flatten⟩

theorem backAndForth_succ (k : Nat) :
    backAndForth (k + 1) = ((backAndForth k).child "..").child "d" := by
  simp [backAndForth, Path.child, List.replicate_succ']

theorem byteLength_backAndForth (k : Nat) : (backAndForth k).byteLength = 5 * k + 1 := by
  induction k with
  | zero => decide
  | succ k ih =>
    rw [backAndForth_succ, Path.byteLength_child_of_ne (by simp [Path.child]),
      Path.byteLength_child_of_ne (by simp [backAndForth]), ih]
    change 5 * k + 1 + 1 + 2 + 1 + 1 = _
    omega

theorem plain_sampleBelow : sampleBelow.Plain :=
  .directory (by decide) (by decide) (List.forall_mem_singleton.2 (.file _))

/-- A file system with a directory `d`. -/
def sampleAround : FileSystem := ⟨.directory [("d", sampleBelow)], []⟩

theorem leads_back (k : Nat) :
    Entry.Leads sampleAround.tree .content Entry.linkLimit ["d"] sampleBelow
      (List.replicate k ["..", "d"]).flatten (.taken ["d"] sampleBelow) := by
  induction k with
  | zero => exact .done
  | succ k ih =>
    rw [List.replicate_succ, List.flatten_cons]
    exact .up rfl (.down (.of_proper (by decide)) plain_sampleBelow.ne_link rfl ih)

theorem entry?_backAndForth {k : Nat} (hk : 5 * k + 1 < FileSystem.pathLimit) :
    sampleAround.entry? (backAndForth k) = .ok (some sampleBelow) := by
  have hnul : ∀ part ∈ (backAndForth k).parts, '\x00' ∉ part.toList := by
    refine List.forall_mem_cons.2 ⟨by decide, fun part hpart => ?_⟩
    have hpair : ∀ part ∈ ["..", "d"], '\x00' ∉ part.toList := by decide
    obtain ⟨_, hmem, hpart⟩ := List.mem_flatten.1 hpart
    exact hpair part (List.eq_of_mem_replicate hmem ▸ hpart)
  have hspelled : FileSystem.Spelled (backAndForth k) := by
    refine ⟨Bool.eq_false_iff.2 fun h => ?_, by rwa [byteLength_backAndForth]⟩
    obtain ⟨part, hpart, hc⟩ := (Path.nul_mem_text_iff _).1 (List.contains_iff_mem.1 h)
    exact hnul part hpart hc
  have hlocate : sampleAround.locate .content (backAndForth k) = .ok (.taken ["d"] sampleBelow) :=
    FileSystem.locate_eq_ok_iff.2 ⟨hspelled, _, rfl,
      .down (.of_proper (by decide)) plain_sampleBelow.ne_link rfl (leads_back k)⟩
  unfold FileSystem.entry?
  simp only [hlocate]

theorem ofFile_of_long {encoding : String} (h : FileSystem.pathLimit ≤ p.byteLength)
    (source : Source) : Source.ofFile fs p encoding ≠ .ok source := by
  have hlocate (place : Place) : fs.locate .content p ≠ .ok place := fun hlocate =>
    absurd (FileSystem.spelled_of_locate hlocate).short (Nat.not_lt.2 h)
  intro hfile
  unfold Source.ofFile at hfile
  cases hread : fs.read p with
  | error fault =>
    simp only [hread, reduceCtorEq] at hfile
  | ok bytes =>
    unfold FileSystem.read at hread
    split at hread
    · cases hread
    all_goals exact hlocate _ ‹_›

/-- A file whose path is too long **ends the discovery**, text or not. -/
theorem discover_of_long {names : List String} {content : Bytes} {arguments : List String}
    (hroot : fs.entry? root = .ok (some e)) (hplain : e.Plain)
    (hfile : e.get? names = some (.file content)) (hlisted : Listed (viewFrom fs root) root names)
    (hselects : selects (Extensions.normalize arguments) (root.descend names) = true)
    (hlong : FileSystem.pathLimit ≤ (root.descend names).byteLength) (sources : List Source) :
    (discover fs root arguments).result ≠ .ok sources := by
  intro h
  obtain ⟨paths, found, hcandidates, -, hmem⟩ :=
    candidates_eq hroot hplain (Extensions.normalize arguments)
  unfold discover at h
  simp only [hcandidates] at h
  have hpath := (hmem _).2 ⟨names, content, hfile, hlisted, hselects, rfl⟩
  obtain ⟨_, hload⟩ := Logged.exists_result_of_concat h _ (List.mem_map_of_mem hpath)
  cases hsource : (load fs ⟨root.descend names, found⟩).result with
  | ok source => exact ofFile_of_long hlong source hsource
  | error =>
    unfold Logged.bind at hload
    simp only [hsource, reduceCtorEq] at hload

/-- Text alone is not enough: below a root whose path is nearly too long, a file **cannot be read**.
-/
theorem not_found_when_too_long : ¬ ∀ (fs : FileSystem) (root : Path) (e : Entry)
    (arguments : List String), fs.entry? root = .ok (some e) → e.Plain →
    (∀ names content, e.get? names = some (.file content) →
      selects (Extensions.normalize arguments) (root.descend names) = true →
      ∃ text, content = Utf8.encodeString text) →
    ∃ files, Finds fs root e arguments files := by
  intro hclaim
  obtain ⟨root, hroot, hne, hlength⟩ : ∃ root : Path, sampleAround.entry? root
      = .ok (some sampleBelow) ∧ root.parts ≠ [] ∧ root.byteLength = 4091 :=
    ⟨backAndForth 818, entry?_backAndForth (by decide), List.cons_ne_nil _ _,
      byteLength_backAndForth 818⟩
  have hempty {names : List String} {content : Bytes}
      (hfile : sampleBelow.get? names = some (.file content)) : content = Utf8.encodeString "" := by
    obtain ⟨item, hitem, rest, -, hfile⟩ := (Entry.get?_directory_iff (by decide)).1 hfile
    obtain rfl := List.mem_singleton.1 hitem
    exact (Entry.get?_file_iff.1 hfile).2
  obtain ⟨files, hfinds⟩ := hclaim _ _ _ ["js"] hroot plain_sampleBelow
    fun names content hfile _ => ⟨"", hempty hfile⟩
  have hpath : root.descend ["f.js"] = root.child "f.js" := by
    rw [Path.descend_cons, Path.descend_nil]
  have hlisted : Listed (viewFrom sampleAround root) root ["f.js"] := by
    refine ⟨decide_eq_true ?_, trivial⟩
    rw [walkedLength, if_neg fun h => hne h.2, hlength]
    decide
  have hselects : selects (Extensions.normalize ["js"]) (root.descend ["f.js"]) = true := by
    rw [hpath]
    unfold selects Path.extension
    rw [Path.name_child]
    rfl
  have hlong : FileSystem.pathLimit ≤ (root.descend ["f.js"]).byteLength := by
    rw [hpath, Path.byteLength_child_of_ne hne, hlength]
    decide
  exact discover_of_long hroot plain_sampleBelow rfl hlisted hselects hlong _ hfinds.result

end Discovery

end Drift
