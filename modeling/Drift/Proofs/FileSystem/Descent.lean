import Drift.Proofs.FileSystem.Follow
import Drift.Proofs.Keyed

/-!
# Descending by names

* `Entry.Sound` — a tree whose directories list every name once, and names of one kind only.
* `Entry.Plain` — a file, or a directory of such entries under proper names; `Entry.Relisted` — the
  same with the entries of directories in another order.
* `Path.descend` — a path that leads on by names; `Path.byteLength_descend` — it gets longer.
* **`FileSystem.read_descend`** — the files below an entry are read by their paths, as long as
  these are not too long.
-/

namespace Drift

/-! ## Plain trees -/

/-- A name that an entry can have. -/
structure ProperName (name : String) : Prop where
  notEmpty : name ≠ ""
  notHere : name ≠ "."
  notUp : name ≠ ".."
  noNul : '\x00' ∉ name.toList
  short : name.utf8ByteSize ≤ Entry.nameLimit

theorem properName_iff {name : String} : ProperName name ↔ name ≠ "" ∧ name ≠ "." ∧ name ≠ ".." ∧
    '\x00' ∉ name.toList ∧ name.utf8ByteSize ≤ Entry.nameLimit :=
  ⟨fun h => ⟨h.notEmpty, h.notHere, h.notUp, h.noNul, h.short⟩,
    fun ⟨hempty, hhere, hup, hnul, hshort⟩ => ⟨hempty, hhere, hup, hnul, hshort⟩⟩

instance : DecidablePred ProperName := fun _ => decidable_of_iff' _ properName_iff

namespace Entry

/-- A tree whose directories **list every name once**, and no name without the property. -/
inductive Sound (P : String → Prop) : Entry → Prop where
  | leaf {e : Entry} (h : e.isDirectory = false) : Sound P e
  | directory {entries : List (String × Entry)} (hnodup : (entries.map (·.1)).Nodup)
      (hname : ∀ e ∈ entries, P e.1) (hbelow : ∀ e ∈ entries, Sound P e.2) :
      Sound P (.directory entries)

/-- A tree of **regular files**: a file, or a directory of plain entries under different names. -/
inductive Plain : Entry → Prop where
  | file (content : Bytes) : Plain (.file content)
  | directory {entries : List (String × Entry)} (hnodup : (entries.map (·.1)).Nodup)
      (hname : ∀ e ∈ entries, ProperName e.1) (hplain : ∀ e ∈ entries, Plain e.2) :
      Plain (.directory entries)

/-- The same tree, with the entries of its directories **in any order**. -/
inductive Relisted : Entry → Entry → Prop where
  | refl (e : Entry) : Relisted e e
  | trans {e e' e'' : Entry} (h : Relisted e e') (h' : Relisted e' e'') : Relisted e e''
  | listing {entries entries' : List (String × Entry)} (h : entries.Perm entries') :
      Relisted (.directory entries) (.directory entries')
  | inside {before after : List (String × Entry)} {name : String} {e e' : Entry}
      (h : Relisted e e') : Relisted (.directory (before ++ (name, e) :: after))
        (.directory (before ++ (name, e') :: after))

variable {top e below : Entry}

theorem Sound.get? {P : String → Prop} {names : List String} (h : e.Sound P)
    (he : e.get? names = some below) : below.Sound P ∧ ∀ name ∈ names, P name := by
  induction names generalizing e with
  | nil => cases he; exact ⟨h, nofun⟩
  | cons name names ih =>
    obtain ⟨entries, child, rfl, hc, he⟩ := exists_directory_of_get?_cons he
    cases h with
    | leaf h => cases h
    | directory _ hname hbelow =>
      have hmem := Keyed.mem_of_get? hc
      obtain ⟨hsound, hnames⟩ := ih (hbelow _ hmem) he
      exact ⟨hsound, List.forall_mem_cons.2 ⟨hname _ hmem, hnames⟩⟩

theorem Plain.sound (h : e.Plain) : e.Sound ProperName := by
  induction h with
  | file => exact .leaf rfl
  | directory hnodup hname _ ih => exact .directory hnodup hname ih

theorem Plain.ne_link (h : e.Plain) (target : String) : e ≠ .link target := by
  rintro rfl
  cases h

theorem Plain.child {name : String} (h : e.Plain) (hc : e.child? name = some below) :
    ∃ entries, e = .directory entries ∧ Keyed.get? entries name = some below ∧
      ProperName name ∧ below.Plain := by
  cases h with
  | file => cases hc
  | @directory entries hnodup hname hplain =>
    have hmem := Keyed.mem_of_get? hc
    exact ⟨entries, rfl, hc, hname _ hmem, hplain _ hmem⟩

theorem Plain.get? {names : List String} (h : e.Plain) (he : e.get? names = some below) :
    below.Plain := by
  induction names generalizing e with
  | nil => cases he; exact h
  | cons name names ih =>
    rw [get?_cons] at he
    obtain ⟨child, hc, he⟩ := Option.bind_eq_some_iff.1 he
    obtain ⟨-, -, -, -, hplain⟩ := h.child hc
    exact ih hplain he

theorem Plain.proper {names : List String} (h : e.Plain) (he : e.get? names = some below) :
    ∀ name ∈ names, ProperName name := (h.sound.get? he).2

/-! ### Other listings -/

theorem get?_cons_eq_some_iff {entries : List (String × Entry)}
    (hnodup : (entries.map (·.1)).Nodup) {name : String} {names : List String} :
    (Entry.directory entries).get? (name :: names) = some below ↔
      ∃ child, (name, child) ∈ entries ∧ child.get? names = some below := by
  rw [get?_cons, Option.bind_eq_some_iff]
  exact exists_congr fun child => and_congr_left fun _ => Keyed.get?_eq_some_iff hnodup

theorem get?_file_iff {bytes : Bytes} {names : List String} {content : Bytes} :
    (Entry.file bytes).get? names = some (.file content) ↔ names = [] ∧ content = bytes := by
  cases names with
  | nil => exact ⟨fun h => by cases h; exact ⟨rfl, rfl⟩, fun ⟨_, h⟩ => by rw [h]; rfl⟩
  | cons => exact iff_of_false nofun fun h => nomatch h.1

theorem get?_directory_iff {entries : List (String × Entry)}
    (hnodup : (entries.map (·.1)).Nodup) {names : List String} {content : Bytes} :
    (Entry.directory entries).get? names = some (.file content) ↔
      ∃ item ∈ entries, ∃ rest, names = item.1 :: rest ∧
        item.2.get? rest = some (.file content) := by
  cases names with
  | nil => exact iff_of_false nofun fun ⟨_, _, _, h, _⟩ => nomatch h
  | cons name names =>
    rw [get?_cons_eq_some_iff hnodup]
    constructor
    · rintro ⟨child, hmem, hchild⟩
      exact ⟨_, hmem, names, rfl, hchild⟩
    · rintro ⟨⟨_, child⟩, hmem, _, heq, hchild⟩
      cases heq
      exact ⟨child, hmem, hchild⟩

theorem Plain.nodup {entries : List (String × Entry)} (h : (Entry.directory entries).Plain) :
    (entries.map (·.1)).Nodup := by
  cases h with
  | directory hnodup _ _ => exact hnodup

theorem Plain.reorder {entries entries' : List (String × Entry)}
    (h : (Entry.directory entries).Plain) (hperm : entries.Perm entries') :
    (Entry.directory entries').Plain := by
  cases h with
  | directory hnodup hname hchild =>
    exact .directory ((hperm.map _).nodup_iff.1 hnodup)
      (fun e he => hname e (hperm.mem_iff.2 he)) fun e he => hchild e (hperm.mem_iff.2 he)

theorem Plain.middle {before after : List (String × Entry)} {name : String}
    (h : (Entry.directory (before ++ (name, e) :: after)).Plain) : e.Plain := by
  cases h with
  | directory _ _ hchild => exact hchild (name, e) (by simp)

theorem Plain.replace {before after : List (String × Entry)} {name : String} {e' : Entry}
    (h : (Entry.directory (before ++ (name, e) :: after)).Plain) (he' : e'.Plain) :
    (Entry.directory (before ++ (name, e') :: after)).Plain := by
  cases h with
  | directory hnodup hname hchild =>
    rw [List.forall_mem_append, List.forall_mem_cons] at hname hchild
    refine .directory ?_ ?_ ?_
    · rw [List.map_append, List.map_cons] at hnodup ⊢
      exact hnodup
    · rw [List.forall_mem_append, List.forall_mem_cons]
      exact hname
    · rw [List.forall_mem_append, List.forall_mem_cons]
      exact ⟨hchild.1, he', hchild.2.2⟩

theorem mem_middle_iff {before after : List (String × Entry)} {key name : String} {child : Entry} :
    (key, child) ∈ before ++ (name, e) :: after ↔
      (key = name ∧ child = e) ∨ (key, child) ∈ before ++ after := by
  simp only [List.mem_append, List.mem_cons, Prod.mk.injEq]
  exact or_left_comm

theorem Relisted.plain_and_get? {e' : Entry} (h : Relisted e e') (hplain : e.Plain) :
    e'.Plain ∧ ∀ names content,
      e'.get? names = some (.file content) ↔ e.get? names = some (.file content) := by
  induction h with
  | refl => exact ⟨hplain, fun _ _ => Iff.rfl⟩
  | trans _ _ ih ih' =>
    obtain ⟨hplain₁, hget₁⟩ := ih hplain
    obtain ⟨hplain₂, hget₂⟩ := ih' hplain₁
    exact ⟨hplain₂, fun names content => (hget₂ names content).trans (hget₁ names content)⟩
  | listing hperm =>
    refine ⟨hplain.reorder hperm, fun names content => ?_⟩
    cases names with
    | nil => exact iff_of_false nofun nofun
    | cons name names =>
      rw [get?_cons_eq_some_iff hplain.nodup, get?_cons_eq_some_iff (hplain.reorder hperm).nodup]
      simp only [hperm.mem_iff]
  | @inside before after name e e' _ ih =>
    obtain ⟨he', hget⟩ := ih hplain.middle
    refine ⟨hplain.replace he', fun names content => ?_⟩
    cases names with
    | nil => exact iff_of_false nofun nofun
    | cons key names =>
      rw [get?_cons_eq_some_iff hplain.nodup, get?_cons_eq_some_iff (hplain.replace he').nodup]
      simp only [mem_middle_iff, or_and_right, exists_or, and_assoc, exists_and_left,
        exists_eq_left, hget]

/-! ## Following names -/

variable {links : Nat} {way steps names : List String} {content : Bytes}

theorem Named.of_proper {name : String} {rest : List String} (h : ProperName name) :
    Named .content name rest :=
  ⟨fun hh => hh.elim h.notEmpty h.notHere, h.notUp, nofun, Nat.not_lt.2 h.short⟩

theorem Named.before {aim : Aim} {step : String} {rest rest' : List String}
    (h : Named aim step rest) : Named .content step rest' :=
  ⟨h.notHere, h.notUp, nofun, h.short⟩

theorem ne_link_of_get? (he : e.get? names = some (.file content)) (target : String) :
    e ≠ .link target := by
  rintro rfl
  cases names <;> cases he

theorem leads_of_get? (h : ∀ name ∈ names, ProperName name)
    (he : e.get? names = some (.file content)) :
    Leads top .content links way e names (.taken (way.reverse ++ names) (.file content)) := by
  induction names generalizing e way with
  | nil =>
    cases he
    rw [List.append_nil]
    exact .done
  | cons name names ih =>
    obtain ⟨hproper, h⟩ := List.forall_mem_cons.1 h
    obtain ⟨entries, child, rfl, hc, hbelow⟩ := exists_directory_of_get?_cons he
    have hrest : Leads top .content links (name :: way) child names
        (.taken ((name :: way).reverse ++ names) (.file content)) := ih h hbelow
    rw [List.reverse_cons, List.append_assoc] at hrest
    exact .down (.of_proper hproper) (ne_link_of_get? hbelow) hc hrest

/-- Names lead on from **where steps lead**, when they lead from there to a file. -/
theorem Leads.descend {place : Place} (hl : Leads top .content links way e steps place)
    {found : List String} (hplace : place = .taken found below)
    (h : ∀ name ∈ names, ProperName name) (he : below.get? names = some (.file content)) :
    Leads top .content links way e (steps ++ names) (.taken (found ++ names) (.file content)) := by
  induction hl with
  | done =>
    cases hplace
    exact leads_of_get? h he
  | stay hs _ ih => exact .stay hs (ih hplace)
  | up hs _ ih => exact .up hs (ih hplace)
  | free => cases hplace
  | stop _ hstop => cases hstop
  | linkToRoot hn hs _ hroot _ ih =>
    have hrest := ih hplace
    rw [List.append_assoc] at hrest
    exact .linkToRoot hn.before hs nofun hroot hrest
  | link hn hs _ hroot _ ih =>
    have hrest := ih hplace
    rw [List.append_assoc] at hrest
    exact .link hn.before hs nofun hroot hrest
  | down hn hlink hs _ ih => exact .down hn.before hlink hs (ih hplace)

end Entry

/-! ## Paths as text -/

namespace Path

/-- The path that leads on by names. -/
def descend (p : Path) (names : List String) : Path := ⟨p.anchor, p.parts ++ names⟩

@[simp] theorem descend_nil (p : Path) : p.descend [] = p := by
  rw [descend, List.append_nil]

theorem descend_cons (p : Path) (name : String) (names : List String) :
    p.descend (name :: names) = (p.child name).descend names := by
  rw [descend, descend, child, List.append_assoc, List.singleton_append]

theorem descend_injective {p : Path} {names names' : List String}
    (h : p.descend names = p.descend names') : names = names' :=
  List.append_cancel_left (congrArg Path.parts h)

@[simp] theorem name_child (p : Path) (name : String) : (p.child name).name = name := by
  rw [Path.name, child, List.getLast?_append, List.getLast?_singleton, Option.some_or,
    Option.getD_some]

/-- The path is the one without names in the current directory. -/
def IsBare (p : Path) : Prop := p.anchor = .here ∧ p.parts = []

theorem text_of_not_bare {p : Path} (h : ¬ p.IsBare) :
    p.text = anchorText p.anchor ++ "/".intercalate p.parts := by
  unfold text
  split
  · next ha hp => exact absurd ⟨ha, hp⟩ h
  · rfl

theorem not_bare_child (p : Path) (name : String) : ¬ (p.child name).IsBare := fun h => by
  have hparts := h.2
  simp [child] at hparts

theorem IsBare.byteLength {p : Path} (h : p.IsBare) : p.byteLength = 1 := by
  obtain ⟨anchor, parts⟩ := p
  obtain ⟨rfl, rfl⟩ := h
  rfl

theorem byteLength_of_not_bare {p : Path} (h : ¬ p.IsBare) : p.byteLength
    = (anchorText p.anchor).utf8ByteSize + ("/".intercalate p.parts).utf8ByteSize := by
  rw [byteLength, text_of_not_bare h, String.utf8ByteSize_append]

theorem byteLength_child_eq (p : Path) (name : String) : (p.child name).byteLength
    = (anchorText p.anchor).utf8ByteSize + ("/".intercalate (p.parts ++ [name])).utf8ByteSize :=
  byteLength_of_not_bare (p.not_bare_child name)

theorem byteLength_child_of_ne {p : Path} (h : p.parts ≠ []) (name : String) :
    (p.child name).byteLength = p.byteLength + 1 + name.utf8ByteSize := by
  have hslash : ("/" : String).utf8ByteSize = 1 := rfl
  rw [byteLength_child_eq, byteLength_of_not_bare fun hbare => h hbare.2,
    String.intercalate_append_of_ne_nil h (List.cons_ne_nil _ _), String.intercalate_singleton,
    String.utf8ByteSize_append, String.utf8ByteSize_append, hslash]
  omega

theorem utf8ByteSize_pos {name : String} (h : name ≠ "") : 0 < name.utf8ByteSize :=
  Nat.pos_of_ne_zero fun hzero => h (String.utf8ByteSize_eq_zero_iff.1 hzero)

theorem byteLength_child (p : Path) {name : String} (h : name ≠ "") :
    p.byteLength ≤ (p.child name).byteLength := by
  have hname := utf8ByteSize_pos h
  by_cases hparts : p.parts = []
  · rw [byteLength_child_eq, hparts, List.nil_append, String.intercalate_singleton]
    by_cases hbare : p.IsBare
    · rw [hbare.byteLength]
      omega
    · rw [byteLength_of_not_bare hbare, hparts, String.intercalate_nil]
      exact Nat.add_le_add_left (Nat.zero_le _) _
  · rw [byteLength_child_of_ne hparts]
    omega

theorem child_parent (p : Path) (h : p.parts ≠ []) : p.parent.child (p.parts.getLast h) = p := by
  rw [child, parent, List.dropLast_concat_getLast]

theorem byteLength_le_child (p : Path) (name : String) :
    p.byteLength ≤ max 1 (p.child name).byteLength := by
  by_cases hname : name = ""
  · by_cases hparts : p.parts = []
    · by_cases hbare : p.IsBare
      · rw [hbare.byteLength]
        exact Nat.le_max_left ..
      · rw [byteLength_child_eq, byteLength_of_not_bare hbare, hparts, hname]
        exact Nat.le_max_right ..
    · rw [byteLength_child_of_ne hparts]
      omega
  · exact Nat.le_trans (p.byteLength_child hname) (Nat.le_max_right ..)

theorem byteLength_descend (p : Path) {names : List String} (h : ∀ name ∈ names, name ≠ "") :
    p.byteLength ≤ (p.descend names).byteLength := by
  induction names generalizing p with
  | nil => exact Nat.le_of_eq (congrArg byteLength (descend_nil p).symm)
  | cons name names ih =>
    rw [descend_cons]
    rw [List.forall_mem_cons] at h
    exact Nat.le_trans (p.byteLength_child h.1) (ih (p.child name) h.2)

theorem nul_mem_intercalate_iff (parts : List String) :
    '\x00' ∈ ("/".intercalate parts).toList ↔ ∃ part ∈ parts, '\x00' ∈ part.toList := by
  induction parts with
  | nil => simp [String.intercalate_nil]
  | cons part parts ih =>
    cases parts with
    | nil => simp [String.intercalate_singleton]
    | cons next parts =>
      rw [String.intercalate_cons_cons, String.toList_append, String.toList_append,
        List.mem_append, List.mem_append, ih]
      have hslash : '\x00' ∉ ("/" : String).toList := by decide
      simp only [hslash, or_false, List.exists_mem_cons_iff]

theorem nul_mem_text_iff (p : Path) :
    '\x00' ∈ p.text.toList ↔ ∃ part ∈ p.parts, '\x00' ∈ part.toList := by
  by_cases hbare : p.IsBare
  · obtain ⟨anchor, parts⟩ := p
    obtain ⟨rfl, rfl⟩ := hbare
    exact iff_of_false (by decide) nofun
  · have hanchor : '\x00' ∉ (anchorText p.anchor).toList := by cases p.anchor <;> decide
    rw [text_of_not_bare hbare, String.toList_append, List.mem_append, nul_mem_intercalate_iff]
    exact or_iff_right hanchor

end Path

/-! ## Files below a root -/

namespace FileSystem

variable {fs : FileSystem} {root : Path} {e : Entry} {names : List String} {content : Bytes}

theorem locate_of_entry? (h : fs.entry? root = .ok (some e)) :
    ∃ found, fs.locate .content root = .ok (.taken found e) := by
  unfold entry? at h
  split at h
  · next hlocate =>
    cases h
    exact ⟨_, hlocate⟩
  all_goals cases h

/-- The files below an entry **are read by their paths**. -/
theorem read_descend (hroot : fs.entry? root = .ok (some e))
    (hproper : ∀ name ∈ names, ProperName name) (hfile : e.get? names = some (.file content))
    (hshort : (root.descend names).byteLength < pathLimit) :
    fs.read (root.descend names) = .ok content := by
  obtain ⟨found, hlocate⟩ := locate_of_entry? hroot
  obtain ⟨hspelled, start, hstart, hleads⟩ := locate_eq_ok_iff.1 hlocate
  have hnul : '\x00' ∉ (root.descend names).text.toList := by
    rw [Path.nul_mem_text_iff]
    rintro ⟨part, hpart, hc⟩
    rcases List.mem_append.1 hpart with hpart | hpart
    · exact hspelled.nul_not_mem ((Path.nul_mem_text_iff _).2 ⟨part, hpart, hc⟩)
    · exact (hproper part hpart).noNul hc
  have hspelled' : Spelled (root.descend names) :=
    ⟨Bool.eq_false_iff.2 fun h => hnul (List.contains_iff_mem.1 h), hshort⟩
  have hfound : fs.locate .content (root.descend names)
      = .ok (.taken (found ++ names) (.file content)) :=
    locate_eq_ok_iff.2 ⟨hspelled', start, hstart, hleads.descend rfl hproper hfile⟩
  unfold read
  simp only [hfound]

end FileSystem

end Drift
