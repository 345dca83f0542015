import Drift.Proofs.FileSystem.Refusal
import Drift.Proofs.Storing

/-!
# Trouble with the configuration

Texts that are no JSON and values that do not fit are reported. What else can be wrong with the file
is not.

* `Configuration.Reported` — all is well, or a report on the configuration says what is not.
* `Configuration.SpellsMembers` — a value that members can be taken from, by `membersOf_eq_ok_iff`.
* `Configuration.Broken` — a file that nobody reads to its end; `Configuration.found` tells it from
  the others.
* `Configuration.Unloadable`, `Configuration.Unstorable` — why the settings cannot be loaded and a
  field cannot be stored, and nobody says so.
* **`Configuration.reported_unless_broken`** — but for these causes, trouble with the configuration is
  reported.
-/

namespace Drift.Configuration

open Settings (Environment Field)

/-- A result, or a failure that is **a report on the configuration**. -/
def Reported {α : Type} (r : Except Failure α) : Prop :=
  ∀ failure, r = .error failure → ∃ i, failure = .issue i ∧ i.kind = .configuration

variable {α : Type} {env : Environment} {fs : FileSystem} {file : Path} {text : List Char}

theorem reported_ok (a : α) : Reported (.ok a) := nofun

theorem reported_configuration (message : String) (context : Named) :
    Reported (.error (.issue (.configuration message context)) : Except Failure α) := by
  intro failure h
  cases h
  exact ⟨_, rfl, rfl⟩

theorem not_reported_fault (fault : Fault) :
    ¬ Reported (.error (.fault fault) : Except Failure α) := by
  intro h
  obtain ⟨i, hi, -⟩ := h _ rfl
  cases hi

/-! ## Values that spell members -/

/-- A value **spells a member**: it is a pair, and its first part is a text. -/
inductive SpellsMember : Json.Value → Prop where
  | items (key : Json.Text) (v : Json.Value) : SpellsMember (.list [.text key, v])
  | keys (key other : Json.Text) (v w : Json.Value) : SpellsMember (.object [(key, v), (other, w)])
  | characters {t : Json.Text} {m n : Nat} (h : t.points = [m, n]) : SpellsMember (.text t)

/-- A value **spells members**: it is an object, a list of values that spell one, or an empty text. -/
inductive SpellsMembers : Json.Value → Prop where
  | object (members : Json.Members) : SpellsMembers (.object members)
  | empty : SpellsMembers (.text "")
  | list {items : List Json.Value} (h : ∀ v ∈ items, SpellsMember v) : SpellsMembers (.list items)

theorem spellsMember_iff {v : Json.Value} (index : Nat) :
    SpellsMember v ↔ ∃ key w, pairOf index v = .ok (.text key, w) := by
  constructor
  · rintro (⟨key, w⟩ | ⟨key, other, w, w'⟩ | ⟨h⟩)
    · exact ⟨key, w, rfl⟩
    · exact ⟨key, .text other, rfl⟩
    · unfold pairOf
      simp only [h]
      exact ⟨_, _, rfl⟩
  · rintro ⟨key, w, h⟩
    unfold pairOf at h
    split at h
    · cases h
      exact .items _ _
    · cases h
    · exact .keys _ _ _ _
    · cases h
    · split at h
      · next hpoints => exact .characters hpoints
      · cases h
    · cases h

theorem membersOfPairs_eq_ok_iff {index : Nat} {done : Json.Members} {others : Bool}
    {items : List Json.Value} : (∃ ms, membersOfPairs index done others items = .ok (ms, false)) ↔
      others = false ∧ ∀ v ∈ items, SpellsMember v := by
  induction items generalizing index done others with
  | nil =>
    rw [membersOfPairs]
    simp
  | cons v items ih =>
    rw [membersOfPairs, List.forall_mem_cons, spellsMember_iff index]
    split
    · next hpair => simp [hpair]
    · next hpair => rw [ih]; simp [hpair]
    · next hpair => simp [hpair]
    · next hpair => simp [hpair]
    · next hnotext _ _ hpair =>
      rw [ih, hpair]
      simp only [Bool.true_eq_false, false_and, Except.ok.injEq, false_iff, not_and]
      rintro - ⟨key, w, rfl⟩
      exact absurd rfl (hnotext _ _)

/-- Members are taken from **the values that spell them**. -/
theorem membersOf_eq_ok_iff {v : Json.Value} : (∃ ms, membersOf v = .ok ms) ↔ SpellsMembers v := by
  unfold membersOf
  split
  · exact ⟨fun _ => .object _, fun _ => ⟨_, rfl⟩⟩
  · next items =>
    have hlist : SpellsMembers (.list items) ↔
        ∃ ms, membersOfPairs 0 [] false items = .ok (ms, false) := by
      rw [membersOfPairs_eq_ok_iff, and_iff_right rfl]
      exact ⟨fun | .list h => h, .list⟩
    rw [hlist]
    split
    · next hpairs => simp [hpairs]
    · next members others hpairs => cases others <;> simp [hpairs]
  · next t =>
    split
    · next hempty => exact ⟨fun _ => hempty ▸ .empty, fun _ => ⟨_, rfl⟩⟩
    · next hne => exact ⟨nofun, fun | .empty => absurd rfl hne⟩
  · next hobject hlist htext =>
    refine ⟨nofun, fun h => ?_⟩
    cases h with
    | object => exact absurd rfl (hobject _)
    | empty => exact absurd rfl (htext _)
    | list => exact absurd rfl (hlist _)

/-- The fault lies in **the form of a value**. -/
inductive OfForm : Fault → Prop where
  | notAPair (index length : Nat) : OfForm (.notAPair index length)
  | keyWithoutText : OfForm .keyWithoutText
  | wrongForm : OfForm .wrongForm

theorem ofForm_of_pairOf {index : Nat} {v : Json.Value} {fault : Fault}
    (h : pairOf index v = .error fault) : OfForm fault := by
  unfold pairOf at h
  split at h
  · cases h
  · cases h; exact .notAPair _ _
  · cases h
  · cases h; exact .notAPair _ _
  · split at h
    · cases h
    · cases h; exact .notAPair _ _
  · cases h; exact .wrongForm

theorem ofForm_of_membersOfPairs {index : Nat} {done : Json.Members} {others : Bool}
    {items : List Json.Value} {fault : Fault}
    (h : membersOfPairs index done others items = .error fault) : OfForm fault := by
  fun_induction membersOfPairs index done others items with
  | case1 => cases h
  | case2 _ _ _ _ _ _ hpair => cases h; exact ofForm_of_pairOf hpair
  | case3 _ _ _ _ _ _ _ _ ih => exact ih h
  | case4 | case5 => cases h; exact .wrongForm
  | case6 _ _ _ _ _ _ _ _ _ _ ih => exact ih h

theorem ofForm_of_membersOf {v : Json.Value} {fault : Fault} (h : membersOf v = .error fault) :
    OfForm fault := by
  unfold membersOf at h
  split at h
  · cases h
  · split at h
    · next hpairs => cases h; exact ofForm_of_membersOfPairs hpairs
    · split at h
      · cases h; exact .keyWithoutText
      · cases h
  · split at h
    · cases h
    · cases h; exact .notAPair _ _
  · cases h; exact .wrongForm

/-! ## Files that nobody reads to the end -/

/-- There is a file, and its bytes are those of **a text**. -/
structure HoldsText (fs : FileSystem) (file : Path) (text : List Char) : Prop where
  isFile : fs.isFile file = .ok true
  read : fs.read file = .ok (Utf8.encode text)

/-- A text is **no JSON**. -/
def Malformed (text : List Char) : Prop :=
  ∃ t flaw left, parse text = .error (.json t (.malformed flaw left))

/-- Why everybody who reads a file **breaks off** without a report. -/
inductive Broken (fs : FileSystem) (file : Path) : Prop where
  /-- The path is too long to say whether the file is there. -/
  | tooLong (h : fs.isFile file = .error (.file .nameTooLong file.text))
  /-- Its bytes are those of no text. -/
  | noText {bytes : Bytes} (hfile : fs.isFile file = .ok true) (hread : fs.read file = .ok bytes)
      (h : ∀ text, bytes ≠ Utf8.encode text)
  /-- A number in its text has more digits than are read. -/
  | longNumber {text t : List Char} {count : Nat} (htext : HoldsText fs file text)
      (h : parse text = .error (.json t (.tooManyDigits count)))

theorem HoldsText.readText (h : HoldsText fs file text) : readText fs file = .ok text :=
  readText_of_read h.read

theorem readText_of_noText {bytes : Bytes} (hread : fs.read file = .ok bytes)
    (h : ∀ text, bytes ≠ Utf8.encode text) :
    ∃ fault, readText fs file = .error (.undecodable fault) := by
  unfold readText
  simp only [hread, Encoding.decodeUtf8]
  cases hdecode : Utf8.decode bytes with
  | ok text => exact absurd (Utf8.decode_eq_ok_iff.1 hdecode) (h text)
  | error fault => exact ⟨_, rfl⟩

/-- A file **is missing**, breaks off whoever reads it, or holds a text: of a value, or no JSON. -/
theorem found (fs : FileSystem) (file : Path) :
    fs.isFile file = .ok false ∨ Broken fs file ∨
      ∃ text, HoldsText fs file text ∧ (Malformed text ∨ ∃ v, parse text = .ok v) := by
  cases hfile : fs.isFile file with
  | error fault =>
    obtain rfl := FileSystem.fault_of_isFile hfile
    exact .inr (.inl (.tooLong hfile))
  | ok there =>
    cases there with
    | false => exact .inl rfl
    | true =>
      obtain ⟨names, bytes, hplace⟩ := FileSystem.locate_of_isFile hfile
      obtain ⟨hread, -⟩ := FileSystem.read_of_locate hplace
      by_cases htext : ∃ text, bytes = Utf8.encode text
      · obtain ⟨text, rfl⟩ := htext
        have hholds : HoldsText fs file text := ⟨hfile, hread⟩
        cases hjson : Json.parse (plainLineEndsOnto [] text) with
        | ok v => exact .inr (.inr ⟨text, hholds, .inr ⟨v, congrArg (Except.mapError _) hjson⟩⟩)
        | error fault =>
          have hparse : parse text = .error (.json _ fault) := congrArg (Except.mapError _) hjson
          cases fault with
          | malformed => exact .inr (.inr ⟨text, hholds, .inl ⟨_, _, _, hparse⟩⟩)
          | tooManyDigits => exact .inr (.inl (.longNumber hholds hparse))
      · exact .inr (.inl (.noText hfile hread fun text heq => htext ⟨text, heq⟩))

/-! ## Reading -/

theorem Broken.read (h : Broken fs (path env)) :
    ∃ fault, Configuration.read env fs = .error (.fault fault) := by
  unfold Configuration.read
  cases h with
  | tooLong h =>
    rw [h]
    exact ⟨_, rfl⟩
  | noText hfile hread h =>
    obtain ⟨fault, hfault⟩ := readText_of_noText hread h
    rw [hfile, hfault]
    exact ⟨_, rfl⟩
  | longNumber htext h =>
    rw [htext.isFile, htext.readText]
    simp only [Except.mapError, bind, Except.bind, Bool.not_true, Bool.false_eq_true, if_false, h]
    exact ⟨_, rfl⟩

theorem reported_read_iff : Reported (read env fs) ↔ ¬ Broken fs (path env) := by
  constructor
  · intro h hbroken
    obtain ⟨fault, hread⟩ := hbroken.read
    exact not_reported_fault fault (hread ▸ h)
  · intro hnot
    unfold read
    rcases found fs (path env) with hfile | hbroken | ⟨text, htext, hparse⟩
    · rw [hfile]
      exact reported_ok _
    · exact absurd hbroken hnot
    · rw [htext.isFile, htext.readText]
      simp only [Except.mapError, bind, Except.bind, Bool.not_true, Bool.false_eq_true, if_false]
      rcases hparse with ⟨t, flaw, left, hparse⟩ | ⟨v, hparse⟩
      · rw [hparse]
        exact reported_configuration _ _
      · rw [hparse]
        cases v with
        | object members => exact reported_ok _
        | _ => exact reported_configuration _ _

/-! ## Loading -/

/-- Why the settings cannot be loaded, **and nobody says so**. -/
inductive Unloadable (env : Environment) (fs : FileSystem) : Prop where
  /-- The path begins with a tilde, and there is no such user. -/
  | noHome (h : expandHome env (path env) = .error .noHome)
  | broken {file : Path} (hpath : expandHome env (path env) = .ok file) (h : Broken fs file)
  /-- The file holds a value that spells no members. -/
  | noMembers {file : Path} {text : List Char} {v : Json.Value}
      (hpath : expandHome env (path env) = .ok file) (htext : HoldsText fs file text)
      (hvalue : parse text = .ok v) (h : ¬ SpellsMembers v)

/-- The file that the settings are loaded from holds **no JSON**. A blank one counts as none. -/
inductive LoadsNoJson (env : Environment) (fs : FileSystem) : Prop where
  | intro {file : Path} {text : List Char} (hpath : expandHome env (path env) = .ok file)
      (htext : HoldsText fs file text) (hblank : text.all Unicode.isBlank = false)
      (h : Malformed text)

theorem members_of_holdsText (hpath : expandHome env (path env) = .ok file)
    (htext : HoldsText fs file text) :
    members env fs = if text.all Unicode.isBlank then .ok [] else parse text >>= membersOf := by
  unfold members
  rw [hpath]
  simp only [bind, Except.bind, htext.isFile, htext.readText, Bool.not_true, Bool.false_eq_true,
    if_false]
  rfl

theorem eq_noHome {p : Path} {fault : Fault} (h : expandHome env p = .error fault) :
    fault = .noHome := by
  unfold expandHome at h
  split at h
  · split at h
    · split at h
      · cases h
        rfl
      · split at h
        · cases h
          rfl
        · cases h
    · cases h
  · cases h

theorem Unloadable.members (h : Unloadable env fs) : ∃ fault,
    Configuration.members env fs = .error fault ∧ unloadable env fault = .fault fault := by
  cases h with
  | noHome h =>
    unfold Configuration.members
    rw [h]
    exact ⟨_, rfl, rfl⟩
  | broken hpath h =>
    cases h with
    | tooLong h =>
      unfold Configuration.members
      rw [hpath]
      simp only [bind, Except.bind, h]
      exact ⟨_, rfl, rfl⟩
    | noText hfile hread h =>
      obtain ⟨fault, hfault⟩ := readText_of_noText hread h
      unfold Configuration.members
      rw [hpath]
      simp only [bind, Except.bind, hfile, hfault]
      exact ⟨_, rfl, rfl⟩
    | @longNumber text t count htext h =>
      have hblank : text.all Unicode.isBlank = false := by
        rw [Bool.eq_false_iff]
        intro hblank
        obtain ⟨t, flaw, left, hparse⟩ := parse_of_blank hblank
        cases h.symm.trans hparse
      rw [members_of_holdsText hpath htext, hblank, h]
      exact ⟨_, rfl, rfl⟩
  | @noMembers file text v hpath htext hvalue h =>
    rw [members_of_holdsText hpath htext, not_blank_of_parse hvalue, hvalue]
    cases hmembers : membersOf v with
    | ok ms => exact absurd (membersOf_eq_ok_iff.1 ⟨ms, hmembers⟩) h
    | error fault =>
      refine ⟨fault, hmembers, ?_⟩
      cases ofForm_of_membersOf hmembers <;> rfl

theorem LoadsNoJson.members (h : LoadsNoJson env fs) : ∃ t flaw left,
    Configuration.members env fs = .error (.json t (.malformed flaw left)) := by
  obtain ⟨hpath, htext, hblank, t, flaw, left, hparse⟩ := h
  refine ⟨t, flaw, left, ?_⟩
  rw [members_of_holdsText hpath htext, hblank, hparse]
  rfl

theorem exists_members (hun : ¬ Unloadable env fs) (hjson : ¬ LoadsNoJson env fs) :
    ∃ ms, members env fs = .ok ms := by
  cases hpath : expandHome env (path env) with
  | error fault =>
    obtain rfl := eq_noHome hpath
    exact absurd (.noHome hpath) hun
  | ok file =>
    rcases found fs file with hfile | hbroken | ⟨text, htext, hparse⟩
    · refine ⟨[], ?_⟩
      unfold members
      rw [hpath]
      simp only [bind, Except.bind, hfile]
      rfl
    · exact absurd (.broken hpath hbroken) hun
    · rw [members_of_holdsText hpath htext]
      cases hblank : text.all Unicode.isBlank with
      | true => exact ⟨[], rfl⟩
      | false =>
        rcases hparse with hmalformed | ⟨v, hvalue⟩
        · exact absurd ⟨hpath, htext, hblank, hmalformed⟩ hjson
        · have hspells : SpellsMembers v :=
            Classical.byContradiction fun h => hun (.noMembers hpath htext hvalue h)
          obtain ⟨ms, hmembers⟩ := membersOf_eq_ok_iff.2 hspells
          exact ⟨ms, by rw [hvalue]; exact hmembers⟩

theorem reported_load_iff (overrides : Json.Members) :
    Reported (load env fs overrides) ↔ ¬ Unloadable env fs := by
  constructor
  · intro h hun
    obtain ⟨fault, hmembers, hfault⟩ := hun.members
    refine not_reported_fault (α := Settings) fault ?_
    unfold load at h
    rw [hmembers] at h
    rwa [Except.mapError, hfault] at h
  · intro hun
    unfold load
    by_cases hjson : LoadsNoJson env fs
    · obtain ⟨t, flaw, left, hmembers⟩ := hjson.members
      rw [hmembers]
      exact reported_configuration _ _
    · obtain ⟨ms, hmembers⟩ := exists_members hun hjson
      rw [hmembers]
      simp only [Except.mapError, bind, Except.bind]
      split
      · exact reported_configuration _ _
      · split
        · exact reported_configuration _ _
        · exact reported_ok _

/-! ## Storing -/

/-- The file can be **given this content**, with the directories for it. -/
def Takes (fs : FileSystem) (file : Path) (content : Bytes) : Prop :=
  ∃ made after, fs.makeDirectories file.parent = (made, .ok ()) ∧
    made.write file content = .ok after

/-- Why a field cannot be stored, **and nobody says so**. -/
inductive Unstorable (env : Environment) (fs : FileSystem) (field text : String) : Prop where
  | broken {f : Field} (hfield : field = f.name) (h : Broken fs (path env))
  /-- The file can be read, and the settings are loaded from another one, which cannot be. -/
  | elsewhere {f : Field} {old : Json.Members} (hfield : field = f.name)
      (hread : read env fs = .ok old) (h : Unloadable env fs ∨ LoadsNoJson env fs)
  /-- The directory refuses. -/
  | refused {new : Json.Members} {v : Json.Value}
      (hupdate : update env fs field (.text text) = .ok (new, v))
      (h : ¬ Takes fs (path env) (content new))

theorem normalized_of_not_members (h : Unloadable env fs ∨ LoadsNoJson env fs) (f : Field)
    (given : Json.Value) : ∃ fault, normalized env fs f given = .error (.fault fault) := by
  unfold normalized
  rcases h with h | h
  · obtain ⟨fault, hmembers, -⟩ := h.members
    rw [hmembers]
    exact ⟨fault, rfl⟩
  · obtain ⟨t, flaw, left, hmembers⟩ := h.members
    rw [hmembers]
    exact ⟨_, rfl⟩

theorem reported_normalized (hun : ¬ (Unloadable env fs ∨ LoadsNoJson env fs)) (f : Field)
    (given : Json.Value) : Reported (normalized env fs f given) := by
  rw [not_or] at hun
  obtain ⟨ms, hmembers⟩ := exists_members hun.1 hun.2
  unfold normalized
  rw [hmembers]
  simp only [Except.mapError, bind, Except.bind]
  split
  · next h => 
    split at h
    · cases h
      exact reported_configuration _ _
    · cases h
  · exact reported_ok _

variable {field given : String}

theorem Unstorable.store (h : Unstorable env fs field given) :
    ∃ fault, (Configuration.store env fs field given).2 = .error (.fault fault) := by
  unfold Configuration.store storeValue
  cases h with
  | @broken f hfield h =>
    obtain ⟨fault, hread⟩ := h.read
    have hupdate : update env fs field (.text given) = .error (.fault fault) := by
      unfold update
      rw [Settings.Field.ofName?_eq_some_iff.2 hfield]
      simp only [hread]
      rfl
    rw [hupdate]
    exact ⟨fault, rfl⟩
  | @elsewhere f old hfield hread h =>
    obtain ⟨fault, hnormalized⟩ := normalized_of_not_members h f (.text given)
    have hupdate : update env fs field (.text given) = .error (.fault fault) := by
      unfold update
      rw [Settings.Field.ofName?_eq_some_iff.2 hfield]
      simp only [hread, bind, Except.bind, hnormalized]
    rw [hupdate]
    exact ⟨fault, rfl⟩
  | @refused new v hupdate h =>
    rw [hupdate]
    simp only
    split
    · exact ⟨_, rfl⟩
    · next made hmade =>
      split
      · exact ⟨_, rfl⟩
      · next after hwrite => exact absurd ⟨made, after, hmade, hwrite⟩ h

theorem reported_store_iff :
    Reported (store env fs field given).2 ↔ ¬ Unstorable env fs field given := by
  constructor
  · intro h hun
    obtain ⟨fault, hstore⟩ := hun.store
    exact not_reported_fault fault (hstore ▸ h)
  · intro hun
    have hupdate : Reported (update env fs field (.text given)) := by
      unfold update
      cases hfield : Field.ofName? field with
      | none => exact reported_configuration _ _
      | some f =>
        have hname := Settings.Field.ofName?_eq_some_iff.1 hfield
        have hread : Reported (read env fs) :=
          reported_read_iff.2 fun h => hun (.broken hname h)
        simp only
        intro failure hfailure
        rcases bind_eq_error_iff.1 hfailure with hfailure | ⟨old, hold, hfailure⟩
        · exact hread failure hfailure
        · have hnormalized := reported_normalized (fun h => hun (.elsewhere hname hold h)) f
            (.text given)
          rcases bind_eq_error_iff.1 hfailure with hfailure | ⟨v, -, hfailure⟩
          · exact hnormalized failure hfailure
          · cases hfailure
    unfold store storeValue
    cases hresult : update env fs field (.text given) with
    | error failure =>
      intro _ heq
      cases heq
      exact hupdate failure hresult
    | ok updated =>
      obtain ⟨new, v⟩ := updated
      obtain ⟨made, after, hmade, hwrite⟩ : Takes fs (path env) (content new) :=
        Classical.byContradiction fun h => hun (.refused hresult h)
      simp only [hmade, hwrite]
      exact reported_ok _

/-- Trouble with the configuration **is reported, unless** the file breaks off whoever reads it, holds
a value that spells no members, or is looked for in the directory of an unknown user; and unless the
directory of a file that is written refuses. -/
theorem reported_unless_broken (env : Environment) (fs : FileSystem) :
    (∀ overrides, Reported (load env fs overrides) ↔ ¬ Unloadable env fs) ∧
      (Reported (read env fs) ↔ ¬ Broken fs (path env)) ∧
      ∀ field given, Reported (store env fs field given).2 ↔ ¬ Unstorable env fs field given :=
  ⟨reported_load_iff, reported_read_iff, fun _ _ => reported_store_iff⟩

/-! ### A byte that begins no character, and a number alone -/

/-- A file system in which the configuration file has these bytes. -/
def sampleOfBytes (bytes : Bytes) : FileSystem :=
  ⟨.directory [("cfg", .directory [("config.json", .file bytes)])], []⟩

theorem broken_sample : Broken (sampleOfBytes [0xFF]) (path sampleEnvironment) := by
  have hfile : (sampleOfBytes [0xFF]).isFile (path sampleEnvironment) = .ok true := rfl
  have hread : (sampleOfBytes [0xFF]).read (path sampleEnvironment) = .ok [0xFF] := rfl
  refine .noText hfile hread fun text heq => ?_
  have hnone : (Utf8.decode [0xFF]).toOption = none := by decide +kernel
  rw [Utf8.decode_eq_ok_iff.2 heq] at hnone
  cases hnone

theorem holdsText_sample : HoldsText (sampleHolding "5") (path sampleEnvironment) ['5'] := ⟨rfl, rfl⟩

theorem parse_five : parse ['5'] = .ok (.int 5) := rfl

theorem read_five : read sampleEnvironment (sampleHolding "5")
    = .error (.issue (notAnObject sampleEnvironment)) := by
  unfold read
  rw [holdsText_sample.isFile, holdsText_sample.readText]
  simp only [Except.mapError, bind, Except.bind, Bool.not_true, Bool.false_eq_true, if_false,
    parse_five]

/-- Nobody says **what is wrong** with a file of one byte that begins no character; and of a file
that holds a number, only who reads it does, and not who loads the settings. -/
theorem unreported_sample :
    ¬ Reported (load sampleEnvironment (sampleOfBytes [0xFF]) []) ∧
      ¬ Reported (read sampleEnvironment (sampleOfBytes [0xFF])) ∧
      ¬ Reported (store sampleEnvironment (sampleOfBytes [0xFF]) "log_level" "info").2 ∧
      ¬ Reported (load sampleEnvironment (sampleHolding "5") []) ∧
      read sampleEnvironment (sampleHolding "5")
        = .error (.issue (notAnObject sampleEnvironment)) := by
  have hpath : expandHome sampleEnvironment (path sampleEnvironment)
      = .ok (path sampleEnvironment) := rfl
  have hfield : "log_level" = Field.logLevel.name := rfl
  obtain ⟨hload, hread, hstore⟩ := reported_unless_broken sampleEnvironment (sampleOfBytes [0xFF])
  obtain ⟨hload', -, -⟩ := reported_unless_broken sampleEnvironment (sampleHolding "5")
  exact ⟨fun h => (hload []).1 h (.broken hpath broken_sample), fun h => hread.1 h broken_sample,
    fun h => (hstore _ _).1 h (.broken hfield broken_sample),
    fun h => (hload' []).1 h (.noMembers hpath holdsText_sample parse_five nofun), read_five⟩

end Drift.Configuration
