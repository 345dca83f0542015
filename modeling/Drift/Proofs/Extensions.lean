import Drift.Proofs.SmallLetters
import Drift.Proofs.Source
import Drift.Proofs.Words

/-!
# Extensions may be grouped freely

* `Extensions.mem_normalize_iff`, `Extensions.pairwise_normalize` — what the arguments name, in
  ascending order and without repetitions; `Extensions.normalize_congr` — nothing else counts.
* `Extensions.ofArgument_join` — arguments between commas name what they name by themselves.
* `Extensions.Plain`, `Extensions.plain_of_mem_ofArgument` — how an extension is written.
* `Discovery.selects_of_candidates`, `Discovery.extension_ne_nil_of_candidates` — files to be read
  have one of the extensions, so files without an extension are not read.
* `Discovery.discover_eq_ok_iff` — sources are read from the files to be read, one from each.
* **`Discovery.discover_of_groups`** — extensions and sources, however the arguments are grouped.
-/

namespace Drift

/-! ## Sets of extensions -/

namespace Extensions

theorem mem_insert_iff {d e : String} {set : List String} :
    d ∈ insert e set ↔ d = e ∨ d ∈ set := by
  induction set with
  | nil => rw [insert, List.mem_singleton]; simp
  | cons x set ih =>
    rw [insert]
    split
    · next h => simp [h]
    split
    · exact List.mem_cons
    · rw [List.mem_cons, ih, List.mem_cons, or_left_comm]

theorem pairwise_insert {e : String} {set : List String} (h : set.Pairwise (· < ·)) :
    (insert e set).Pairwise (· < ·) := by
  induction set with
  | nil => exact List.pairwise_singleton _ _
  | cons x set ih =>
    obtain ⟨hx, hset⟩ := List.pairwise_cons.1 h
    rw [insert]
    split
    · exact h
    next hne =>
    split
    · next hlt =>
      refine List.pairwise_cons.2 ⟨List.forall_mem_cons.2 ⟨hlt, fun d hd => ?_⟩, h⟩
      exact String.lt_trans hlt (hx d hd)
    · next hle =>
      refine List.pairwise_cons.2 ⟨fun d hd => ?_, ih hset⟩
      rcases mem_insert_iff.1 hd with rfl | hd
      · exact Std.lt_of_le_of_ne (String.not_lt.1 hle) (Ne.symm hne)
      · exact hx d hd

theorem foldl_insert (es : List String) {set : List String} (h : set.Pairwise (· < ·)) :
    (es.foldl (fun set e => insert e set) set).Pairwise (· < ·) ∧
      ∀ d, d ∈ es.foldl (fun set e => insert e set) set ↔ d ∈ es ∨ d ∈ set := by
  induction es generalizing set with
  | nil => exact ⟨h, fun d => by simp⟩
  | cons e es ih =>
    obtain ⟨hsorted, hmem⟩ := ih (pairwise_insert (e := e) h)
    refine ⟨hsorted, fun d => ?_⟩
    rw [List.foldl_cons, hmem, mem_insert_iff, List.mem_cons, or_left_comm, or_assoc]

variable {arguments : List String}

theorem pairwise_normalize (arguments : List String) : (normalize arguments).Pairwise (· < ·) :=
  (foldl_insert _ List.Pairwise.nil).1

theorem mem_normalize_iff {e : String} :
    e ∈ normalize arguments ↔ ∃ a ∈ arguments, e ∈ ofArgument a := by
  rw [normalize, (foldl_insert _ List.Pairwise.nil).2, List.mem_flatMap]
  simp

/-- Arguments that name the same extensions **are as good as each other**. -/
theorem normalize_congr {others : List String}
    (h : ∀ e, (∃ a ∈ arguments, e ∈ ofArgument a) ↔ ∃ a ∈ others, e ∈ ofArgument a) :
    normalize arguments = normalize others :=
  Discovery.eq_of_pairwise String.lt_asymm (pairwise_normalize _) (pairwise_normalize _) fun e => by
    rw [mem_normalize_iff, mem_normalize_iff, h]

/-! ## Groups of arguments -/

/-- Some arguments **in one**, between commas. -/
def join (arguments : List String) : String := ",".intercalate arguments

theorem ofArgument_append_comma (a b : List Char) :
    ofArgument (String.ofList (a ++ ',' :: b)) =
      ofArgument (String.ofList a) ++ ofArgument (String.ofList b) := by
  simp only [ofArgument, String.toList_ofList, List.splitOn_append_cons_self, List.map_append,
    List.filter_append]

/-- An argument made of several **names what they name** one by one. -/
theorem ofArgument_join (arguments : List String) :
    ofArgument (join arguments) = arguments.flatMap ofArgument := by
  induction arguments with
  | nil => rfl
  | cons a arguments ih =>
    cases arguments with
    | nil => rw [List.flatMap_singleton]; rfl
    | cons b arguments =>
      have hjoin : join (a :: b :: arguments) =
          String.ofList (a.toList ++ ',' :: (join (b :: arguments)).toList) := by
        rw [← String.toList_inj, String.toList_ofList, join, join, String.toList_intercalate,
          String.toList_intercalate, List.map_cons, List.map_cons, List.intercalate_cons_cons,
          List.append_assoc]
        rfl
      rw [hjoin, ofArgument_append_comma, String.ofList_toList, String.ofList_toList, ih,
        ← List.flatMap_cons]

theorem normalize_groups {groups : List (List String)}
    (h : ∀ a, a ∈ groups.flatten ↔ a ∈ arguments) :
    normalize (groups.map join) = normalize arguments := by
  refine normalize_congr fun e => ⟨?_, ?_⟩
  · rintro ⟨joined, hjoined, he⟩
    obtain ⟨group, hgroup, rfl⟩ := List.mem_map.1 hjoined
    rw [ofArgument_join] at he
    obtain ⟨a, ha, he⟩ := List.mem_flatMap.1 he
    exact ⟨a, (h a).1 (List.mem_flatten.2 ⟨group, hgroup, ha⟩), he⟩
  · rintro ⟨a, ha, he⟩
    obtain ⟨group, hgroup, ha⟩ := List.mem_flatten.1 ((h a).2 ha)
    refine ⟨join group, List.mem_map_of_mem hgroup, ?_⟩
    rw [ofArgument_join]
    exact List.mem_flatMap.2 ⟨a, ha, he⟩

/-! ## The form of an extension -/

/-- How an extension **is written**. -/
structure Plain (e : String) : Prop where
  notEmpty : e ≠ ""
  noComma : ',' ∉ e.toList
  noDot : e.toList.head? ≠ some '.'
  small : Unicode.lower e.toList = e.toList

theorem mem_of_mem_strip {s : List Char} {c : Char} (h : c ∈ Unicode.strip s) : c ∈ s := by
  have hback := (List.dropWhile_sublist _).subset (List.mem_reverse.1 h)
  exact (List.dropWhile_sublist _).subset (List.mem_reverse.1 hback)

/-- What an argument names **is an extension**. -/
theorem plain_of_mem_ofArgument {e argument : String} (h : e ∈ ofArgument argument) : Plain e := by
  obtain ⟨form, hform, rfl⟩ := List.mem_map.1 h
  obtain ⟨hmapped, hne⟩ := List.mem_filter.1 hform
  obtain ⟨part, hpart, rfl⟩ := List.mem_map.1 hmapped
  have hcomma : ',' ∉ part := not_mem_of_mem_splitOn hpart
  refine ⟨?_, ?_, ?_, ?_⟩
  · intro hempty
    rw [← String.toList_inj, String.toList_ofList] at hempty
    simp [hempty] at hne
  · rw [String.toList_ofList]
    intro hmem
    have hin := Unicode.mem_of_mem_lowerAfter hmem (.inl (by decide))
    exact hcomma (mem_of_mem_strip ((List.dropWhile_sublist _).subset hin))
  · rw [String.toList_ofList]
    intro hhead
    have hdot := head?_dropWhile _ _ _ (Unicode.head?_of_head?_lower hhead (.inl (by decide)))
    exact absurd hdot (by decide)
  · rw [String.toList_ofList]
    exact Unicode.lower_lower _

theorem plain_of_mem_normalize {e : String} (h : e ∈ normalize arguments) : Plain e := by
  obtain ⟨a, -, he⟩ := mem_normalize_iff.1 h
  exact plain_of_mem_ofArgument he

end Extensions

/-! ## Sources -/

namespace Discovery

open Extensions (join normalize Plain)

variable {fs : FileSystem} {root : Path} {arguments : List String}

/-- Files to be read **have one of the extensions**. -/
theorem selects_of_candidates {extensions : List String} {files : List Candidate}
    (h : candidates fs root extensions = .ok files) :
    ∀ c ∈ files, selects extensions c.path = true := by
  unfold candidates at h
  split at h
  · cases h
  · cases h
  · obtain rfl := Except.ok.inj h
    intro c hc
    obtain ⟨p, hp, rfl⟩ := List.mem_map.1 hc
    exact (List.mem_filter.1 hp).2
  · obtain rfl := Except.ok.inj h
    exact nofun
  · obtain rfl := Except.ok.inj h
    split
    · next hroot => exact List.forall_mem_singleton.2 hroot
    · exact nofun

theorem extension_ne_nil_of_selects {p : Path} (h : selects (normalize arguments) p = true) :
    p.extension ≠ [] := by
  intro hnone
  rw [selects, hnone, List.contains_iff_mem] at h
  exact (Extensions.plain_of_mem_normalize h).notEmpty rfl

theorem extension_ne_nil_of_candidates {files : List Candidate}
    (h : candidates fs root (normalize arguments) = .ok files) :
    ∀ c ∈ files, c.path.extension ≠ [] := fun c hc =>
  extension_ne_nil_of_selects (selects_of_candidates h c hc)

theorem result_load (fs : FileSystem) (c : Candidate) :
    ((load fs c).bind fun s => .ok [s]).result =
      (Source.ofFile fs c.path Source.defaultEncoding).map fun s => [s] := by
  unfold Logged.bind load
  cases Source.ofFile fs c.path Source.defaultEncoding <;> rfl

theorem result_loads_eq_ok_iff {files : List Candidate} {sources : List Source} :
    (Logged.concat (fun c => (load fs c).bind fun s => .ok [s]) files).result = .ok sources ↔
      files.map (fun c => Source.ofFile fs c.path Source.defaultEncoding) = sources.map .ok := by
  induction files generalizing sources with
  | nil =>
    rw [Logged.concat, List.map_nil, List.nil_eq, List.map_eq_nil_iff]
    exact ⟨fun h => (Except.ok.inj h).symm, fun h => congrArg Except.ok h.symm⟩
  | cons c files ih =>
    rw [Logged.result_concat_cons_eq_ok_iff, result_load, List.map_cons,
      eq_comm (b := sources.map _), List.map_eq_cons_iff]
    constructor
    · rintro ⟨first, others, hc, hothers, rfl⟩
      cases hfile : Source.ofFile fs c.path Source.defaultEncoding with
      | error => rw [hfile] at hc; cases hc
      | ok s =>
        rw [hfile] at hc
        obtain rfl := Except.ok.inj hc
        exact ⟨s, others, rfl, rfl, (ih.1 hothers).symm⟩
    · rintro ⟨s, others, rfl, hs, hothers⟩
      refine ⟨[s], others, ?_, ih.2 hothers.symm, rfl⟩
      rw [← hs]
      rfl

/-- Sources **are read from candidates**, one from each. -/
theorem discover_eq_ok_iff {sources : List Source} :
    (discover fs root arguments).result = .ok sources ↔
      ∃ files, candidates fs root (normalize arguments) = .ok files ∧
        files.map (fun c => Source.ofFile fs c.path Source.defaultEncoding) = sources.map .ok := by
  unfold discover
  cases candidates fs root (normalize arguments) with
  | error => exact iff_of_false nofun fun ⟨_, h, _⟩ => nomatch h
  | ok files => simp only [result_loads_eq_ok_iff, Except.ok.injEq, exists_eq_left']

theorem exists_discover_iff {files : List Candidate}
    (hfiles : candidates fs root (normalize arguments) = .ok files) :
    (∃ sources, (discover fs root arguments).result = .ok sources) ↔
      ∀ c ∈ files, ∃ s, Source.ofFile fs c.path Source.defaultEncoding = .ok s := by
  simp only [discover_eq_ok_iff, hfiles, Except.ok.injEq, exists_eq_left']
  clear hfiles
  induction files with
  | nil => exact iff_of_true ⟨[], rfl⟩ nofun
  | cons c files ih =>
    rw [List.forall_mem_cons, ← ih]
    constructor
    · rintro ⟨sources, hsources⟩
      obtain ⟨s, others, -, hs, hothers⟩ := List.map_eq_cons_iff.1 hsources.symm
      exact ⟨⟨s, hs.symm⟩, others, hothers.symm⟩
    · rintro ⟨⟨s, hs⟩, others, hothers⟩
      exact ⟨s :: others, congrArg₂ List.cons hs hothers⟩

theorem exists_unread_of_discover {files : List Candidate} {f : Failure}
    (hfiles : candidates fs root (normalize arguments) = .ok files)
    (h : (discover fs root arguments).result = .error f) :
    ∃ c ∈ files, Source.ofFile fs c.path Source.defaultEncoding = .error f := by
  unfold discover at h
  rw [hfiles] at h
  obtain ⟨c, hc, hfail⟩ := Logged.exists_error_of_concat h
  rw [result_load] at hfail
  cases hfile : Source.ofFile fs c.path Source.defaultEncoding with
  | error e =>
    rw [hfile] at hfail
    cases hfail
    exact ⟨c, hc, hfile⟩
  | ok s =>
    rw [hfile] at hfail
    cases hfail

theorem exists_source_of_candidate {files : List Candidate} {sources : List Source} {c : Candidate}
    (hfiles : candidates fs root (normalize arguments) = .ok files)
    (h : (discover fs root arguments).result = .ok sources) (hc : c ∈ files) :
    ∃ s ∈ sources, Source.ofFile fs c.path Source.defaultEncoding = .ok s := by
  obtain ⟨files', hfiles', hread⟩ := discover_eq_ok_iff.1 h
  obtain rfl := Except.ok.inj (hfiles.symm.trans hfiles')
  have hmem := List.mem_map_of_mem (f := fun c => Source.ofFile fs c.path Source.defaultEncoding) hc
  rw [hread] at hmem
  obtain ⟨s, hs, hload⟩ := List.mem_map.1 hmem
  exact ⟨s, hs, hload.symm⟩

theorem exists_candidate_of_discover {sources : List Source}
    (h : (discover fs root arguments).result = .ok sources) :
    ∃ files, candidates fs root (normalize arguments) = .ok files ∧
      ∀ s ∈ sources, ∃ c ∈ files, Source.ofFile fs c.path Source.defaultEncoding = .ok s := by
  obtain ⟨files, hfiles, hread⟩ := discover_eq_ok_iff.1 h
  refine ⟨files, hfiles, fun s hs => List.mem_map.1 ?_⟩
  rw [hread]
  exact List.mem_map_of_mem hs

/-- Arguments **may be grouped freely**. Joined by commas they name the same extensions, which are
all that they name one by one, however they are grouped, ordered and repeated. Every extension is
in small letters, holds a character, holds no comma and begins with no dot. So the same sources
are found, and no file is read whose name has no extension. -/
theorem discover_of_groups (arguments : List String) :
    normalize [join arguments] = normalize arguments ∧
      (∀ e, e ∈ normalize arguments ↔ ∃ a ∈ arguments, e ∈ normalize [a]) ∧
      (∀ e ∈ normalize arguments, Plain e) ∧
      (∀ groups : List (List String), (∀ a, a ∈ groups.flatten ↔ a ∈ arguments) →
        normalize (groups.map join) = normalize arguments ∧
          ∀ fs root, discover fs root (groups.map join) = discover fs root arguments) ∧
      ∀ fs root,
        (∀ files, candidates fs root (normalize arguments) = .ok files →
          ∀ c ∈ files, c.path.extension ≠ []) ∧
        ∀ sources, (discover fs root arguments).result = .ok sources →
          ∀ s ∈ sources, ∃ p : Path, Source.ofFile fs p Source.defaultEncoding = .ok s ∧
            s.path = p.text ∧ p.extension ≠ [] := by
  refine ⟨?_, fun e => ?_, fun e => Extensions.plain_of_mem_normalize, fun groups hgroups => ?_,
    fun fs root => ⟨fun files => extension_ne_nil_of_candidates, fun sources hsources s hs => ?_⟩⟩
  · have hone : ∀ a, a ∈ [arguments].flatten ↔ a ∈ arguments := by simp
    exact Extensions.normalize_groups hone
  · simp [Extensions.mem_normalize_iff]
  · have hnormal := Extensions.normalize_groups hgroups
    exact ⟨hnormal, fun fs root => by rw [discover, discover, hnormal]⟩
  · obtain ⟨files, hfiles, hread⟩ := exists_candidate_of_discover hsources
    obtain ⟨c, hc, hs⟩ := hread s hs
    exact ⟨c.path, hs, Source.path_of_ofFile hs, extension_ne_nil_of_candidates hfiles c hc⟩

/-- A file whose name ends in an extension, and one whose name is an extension. -/
def sampleNames : FileSystem where
  tree := .directory [("a.JS", .file (Utf8.encodeString "f();")), ("js", .file [])]
  here := []

/-- Arguments with blanks, dots, capitals and an empty part. -/
def sampleArguments : List String := ["\t.JS ", "mjs,,..ΟΔΟΣ"]

/-- The same ones in another order, one of them twice. -/
def sampleGroups : List (List String) := [["mjs,,..ΟΔΟΣ", "\t.JS "], ["\t.JS "]]

theorem candidates_sampleNames :
    candidates sampleNames (Path.ofString "") ["js", "mjs", "οδος"] =
      .ok [⟨Path.ofString "a.JS", true⟩] := by
  have hentry : sampleNames.entry? (Path.ofString "") = .ok (some sampleNames.tree) := rfl
  have hsorted {α : Type} (x y : α) :
      byName [("a.JS", x), ("js", y)] = [("a.JS", x), ("js", y)] :=
    List.mergeSort_of_pairwise (by simp)
  rw [candidates, hentry]
  simp only [sampleNames, filesBelow, filesIn, filesOfEach, hsorted]
  refine congrArg Except.ok ?_
  rfl

/-- Both ways they name the same extensions, and **only the first file is found**. -/
theorem discover_of_sampleGroups :
    normalize sampleArguments = ["js", "mjs", "οδος"] ∧
      normalize (sampleGroups.map join) = ["js", "mjs", "οδος"] ∧
      (discover sampleNames (Path.ofString "") (sampleGroups.map join)).result =
        .ok [⟨"a.JS", "f();", "utf-8"⟩] ∧
      ∃ p : Path, Source.ofFile sampleNames p "utf-8" = .ok ⟨"a.JS", "f();", "utf-8"⟩ ∧
        "a.JS" = p.text ∧ p.extension ≠ [] := by
  have hnormal : normalize sampleArguments = ["js", "mjs", "οδος"] := rfl
  have hsources : (discover sampleNames (Path.ofString "") sampleArguments).result =
      .ok [⟨"a.JS", "f();", "utf-8"⟩] := by
    rw [discover, hnormal, candidates_sampleNames]
    exact eq_ok_of_toOption (by decide +kernel)
  obtain ⟨-, -, -, hgroups, hfound⟩ := discover_of_groups sampleArguments
  obtain ⟨hsame, hdiscover⟩ := hgroups sampleGroups (by simp [sampleGroups, sampleArguments]; tauto)
  refine ⟨hnormal, hsame.trans hnormal, ?_, ?_⟩
  · rw [hdiscover, hsources]
  · exact (hfound _ _).2 _ hsources _ List.mem_cons_self

end Discovery

end Drift
