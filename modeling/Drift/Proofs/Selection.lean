import Drift.Proofs.Extensions

/-!
# Extensions select their files

* `Path.extensionOf_append`, `Path.dot_not_mem_extensionOf` — the extension of a name is what stands
  behind its last dot.
* `Discovery.EndsIn` — a file whose name ends in a dot and an extension, in any letter case;
  `Discovery.EndsIn.selects` — the extension selects it.
* `Discovery.mem_candidates` — selected files below a root are to be read.
* `Discovery.discover_of_dots` — extensions with dots find nothing.
* **`Discovery.accepted_extension_selects`** — an extension without dots finds every such file whose
  path is not too long, if all files to be read can be read.
-/

namespace Drift

/-! ## The extension of a name -/

namespace Path

variable {stem spelled : List Char}

/-- The extension of a name is **what stands behind its last dot**, when something stands before. -/
theorem extensionOf_append (hstem : stem ≠ []) (hdot : '.' ∉ spelled) :
    extensionOf (stem ++ '.' :: spelled) = spelled := by
  have hrun : ∀ c ∈ spelled.reverse, (c != '.') = true := fun c hc =>
    bne_iff_ne.2 fun h => hdot (h ▸ List.mem_reverse.1 hc)
  have hstop : ∀ c ∈ ('.' :: stem.reverse).head?, (c != '.') = false := by simp
  have hback : (stem ++ '.' :: spelled).reverse = spelled.reverse ++ '.' :: stem.reverse := by simp
  have hpos := List.length_pos_of_ne_nil hstem
  rw [extensionOf, hback, takeWhile_run hrun hstop, List.reverse_reverse, if_pos]
  rw [List.length_append, List.length_cons]
  omega

/-- No extension of a name **holds a dot**. -/
theorem dot_not_mem_extensionOf (name : List Char) : '.' ∉ extensionOf name := by
  simp only [extensionOf]
  split
  · intro h
    have hdot := List.mem_takeWhile_imp (List.mem_reverse.1 h)
    cases hdot
  · exact List.not_mem_nil

theorem name_descend (p : Path) (above : List String) (name : String) :
    (p.descend (above ++ [name])).name = name := by
  have hchild : p.descend (above ++ [name]) = (p.descend above).child name := by
    rw [descend, descend, child, List.append_assoc]
  rw [hchild, name_child]

end Path

/-! ## Selected files -/

namespace Discovery

open Extensions (normalize)

variable {fs : FileSystem} {root : Path} {e : String} {names arguments extensions : List String}
  {below found : Entry}

/-- A file whose name **ends in a dot and the extension**, in any letter case. -/
def EndsIn (e : String) (names : List String) : Prop :=
  ∃ above stem spelled, names = above ++ [stem ++ "." ++ spelled] ∧ stem ≠ "" ∧
    Unicode.lower spelled.toList = e.toList

/-- An extension without dots **selects** what ends in it. -/
theorem EndsIn.selects (h : EndsIn e names) (hdot : '.' ∉ e.toList) (he : e ∈ extensions)
    (p : Path) : selects extensions (p.descend names) = true := by
  obtain ⟨above, stem, spelled, rfl, hstem, hspelled⟩ := h
  have hnone : '.' ∉ spelled.toList := fun hc =>
    hdot (hspelled ▸ Unicode.mem_lowerAfter_of_mem hc (by decide +kernel) false)
  have hstem : stem.toList ≠ [] := fun hempty => hstem (String.toList_inj.1 hempty)
  have hname : (stem ++ "." ++ spelled).toList = stem.toList ++ '.' :: spelled.toList := by simp
  have hextension : (p.descend (above ++ [stem ++ "." ++ spelled])).extension = spelled.toList := by
    rw [Path.extension, Path.name_descend, hname, Path.extensionOf_append hstem hnone]
  rw [Discovery.selects, hextension, hspelled, String.ofList_toList, List.contains_iff_mem]
  exact he

/-- Only an extension without dots **selects anything**. -/
theorem exists_dotless_of_selects {p : Path} (h : selects extensions p = true) :
    ∃ e ∈ extensions, '.' ∉ e.toList := by
  rw [selects, List.contains_iff_mem] at h
  refine ⟨_, h, fun hc => ?_⟩
  rw [String.toList_ofList] at hc
  exact Path.dot_not_mem_extensionOf _ (Unicode.mem_of_mem_lowerAfter hc (.inl (by decide)))

/-- Extensions with dots **find nothing**. -/
theorem discover_of_dots (hroot : fs.entry? root = .ok (some below))
    (hdots : ∀ e ∈ normalize arguments, '.' ∈ e.toList) :
    (discover fs root arguments).result = .ok [] := by
  obtain ⟨files, hfiles⟩ : ∃ files, candidates fs root (normalize arguments) = .ok files := by
    unfold candidates
    simp only [hroot]
    cases below <;> exact ⟨_, rfl⟩
  have hnone : files = [] := by
    refine List.eq_nil_iff_forall_not_mem.2 fun c hc => ?_
    obtain ⟨e, he, hdot⟩ := exists_dotless_of_selects (selects_of_candidates hfiles c hc)
    exact hdot (hdots e he)
  exact discover_eq_ok_iff.2 ⟨[], hnone ▸ hfiles, rfl⟩

/-- What is selected below a root and read as a file **is to be read**, if its path is not too long.
-/
theorem mem_candidates (hroot : fs.entry? root = .ok (some below)) (hne : names ≠ [])
    (hnames : ∀ name ∈ names, name ≠ "") (hfound : below.get? names = some found)
    (hread : isReadable (viewFrom fs root) (root.descend names) found = true)
    (hshort : (root.descend names).byteLength < FileSystem.pathLimit)
    (hselects : selects extensions (root.descend names) = true) :
    ∃ files, candidates fs root extensions = .ok files ∧ ⟨root.descend names, true⟩ ∈ files := by
  obtain ⟨name, rest, rfl⟩ := List.exists_cons_of_ne_nil hne
  obtain ⟨entries, -, rfl, -⟩ := Entry.exists_directory_of_get?_cons hfound
  have hlisted : Listed (viewFrom fs root) root (name :: rest) :=
    listed_of_short hnames (.inl rfl) hshort
  have hmem := mem_filesBelow_of_get? hne hfound hread hlisted
  refine ⟨((filesBelow (viewFrom fs root) root (.directory entries)).filter
    (selects extensions)).map (⟨·, true⟩), ?_, ?_⟩
  · unfold candidates
    simp only [hroot]
  · exact List.mem_map_of_mem (List.mem_filter.2 ⟨hmem, hselects⟩)

theorem unreadable_of_discover {entries : List (String × Entry)} {files : List Candidate}
    {f : Failure} (hroot : fs.entry? root = .ok (some (.directory entries)))
    (hnul : (Entry.directory entries).NulFree)
    (hfiles : candidates fs root (normalize arguments) = .ok files)
    (hf : (discover fs root arguments).result = .error f) :
    ∃ c ∈ files, ∃ reason, f = .issue (.sourceUnreadable c.path.text reason) ∧
      Source.ofFile fs c.path Source.defaultEncoding = .error f := by
  obtain ⟨c, hc, hunread⟩ := exists_unread_of_discover hfiles hf
  obtain ⟨paths, hpaths, hnone⟩ := candidates_of_directory hroot hnul (normalize arguments)
  obtain rfl := Except.ok.inj (hfiles.symm.trans hpaths)
  obtain ⟨p, hp, rfl⟩ := List.mem_map.1 hc
  refine ⟨_, hc, ?_⟩
  rcases Source.ofFile_cases fs (hnone p hp) with ⟨content, hread⟩ | ⟨reason, hreason⟩
  · cases hread.symm.trans hunread
  · obtain rfl := Except.error.inj (hunread.symm.trans hreason)
    exact ⟨reason, rfl, hunread⟩

/-- An accepted extension **selects its files**. Take an extension without dots that is named by the
arguments, and what stands anywhere below the root under a name that ends in a dot and the
extension, in any letter case, and is read as a file. If its path is not too long, it is one of the
files to be read. Sources are found exactly if all these can be read; the file is then one of them,
and if it is a regular one, its text is what its bytes encode. Otherwise one of them is reported as
unreadable, as no name holds NUL. -/
theorem accepted_extension_selects (hroot : fs.entry? root = .ok (some below))
    (he : e ∈ normalize arguments) (hdot : '.' ∉ e.toList) (hends : EndsIn e names)
    (hproper : ∀ name ∈ names, ProperName name) (hfound : below.get? names = some found)
    (hread : isReadable (viewFrom fs root) (root.descend names) found = true)
    (hshort : (root.descend names).byteLength < FileSystem.pathLimit) :
    ∃ files, candidates fs root (normalize arguments) = .ok files ∧
      ⟨root.descend names, true⟩ ∈ files ∧
      ((∃ sources, (discover fs root arguments).result = .ok sources) ↔
        ∀ c ∈ files, ∃ s, Source.ofFile fs c.path Source.defaultEncoding = .ok s) ∧
      (∀ sources, (discover fs root arguments).result = .ok sources →
        ∃ s ∈ sources, Source.ofFile fs (root.descend names) Source.defaultEncoding = .ok s ∧
          ∀ text, found = .file (Utf8.encodeString text) → s = sourceAt root (names, text)) ∧
      (below.NulFree → ∀ f, (discover fs root arguments).result = .error f →
        ∃ c ∈ files, ∃ reason, f = .issue (.sourceUnreadable c.path.text reason) ∧
          Source.ofFile fs c.path Source.defaultEncoding = .error f) := by
  have hne : names ≠ [] := by
    obtain ⟨above, stem, spelled, rfl, -⟩ := hends
    simp
  have hselects := hends.selects hdot he root
  obtain ⟨files, hfiles, hmem⟩ := mem_candidates hroot hne
    (fun name hname => (hproper name hname).notEmpty) hfound hread hshort hselects
  refine ⟨files, hfiles, hmem, exists_discover_iff hfiles, fun sources hsources => ?_,
    fun hnul f hf => ?_⟩
  · obtain ⟨s, hs, hload⟩ := exists_source_of_candidate hfiles hsources hmem
    refine ⟨s, hs, hload, fun text hfile => ?_⟩
    have hself := ofFile_descend hroot hproper (hfound.trans (congrArg some hfile)) hshort
    exact Except.ok.inj (hload.symm.trans hself)
  · obtain ⟨name, rest, rfl⟩ := List.exists_cons_of_ne_nil hne
    obtain ⟨entries, -, rfl, -⟩ := Entry.exists_directory_of_get?_cons hfound
    exact unreadable_of_discover hroot hnul hfiles hf

/-- A directory with a file in another directory, and a link to that one whose name ends in an
extension. -/
def sampleSpelled : Entry :=
  .directory [("d", .directory [("a.b. ΟΔΟς", .file (Utf8.encodeString "f();"))]),
    ("l. οδος", .link "d")]

theorem entry?_sampleSpelled :
    FileSystem.entry? (sampleFiles sampleSpelled) (Path.ofString "p") = .ok (some sampleSpelled) :=
  rfl

theorem candidates_sampleSpelled :
    candidates (sampleFiles sampleSpelled) (Path.ofString "p") [" οδος"] =
      .ok [⟨Path.ofString "p/d/a.b. ΟΔΟς", true⟩] := by
  have hsorted {α : Type} (x y : α) :
      byName [("d", x), ("l. οδος", y)] = [("d", x), ("l. οδος", y)] :=
    List.mergeSort_of_pairwise (by simp)
  rw [candidates, entry?_sampleSpelled]
  simp only [sampleSpelled, filesBelow, filesIn, filesOfEach, hsorted, byName_singleton]
  refine congrArg Except.ok ?_
  rfl

theorem normalize_js : normalize ["js"] = ["js"] := rfl

theorem endsIn_js : EndsIn "js" ["f.js"] := ⟨[], "f", "js", rfl, by decide, rfl⟩

/-- A directory with a file that is no UTF-8. -/
def sampleIllFormed : Entry := .directory [("f.js", .file [0xFF])]

theorem candidates_sampleIllFormed :
    candidates (sampleFiles sampleIllFormed) (Path.ofString "p") ["js"] =
      .ok [⟨Path.ofString "p/f.js", true⟩] := by
  have hroot : FileSystem.entry? (sampleFiles sampleIllFormed) (Path.ofString "p") =
    .ok (some sampleIllFormed) := rfl
  rw [candidates, hroot]
  simp only [sampleIllFormed, filesBelow, filesIn, filesOfEach, byName_singleton]
  refine congrArg Except.ok ?_
  rfl

/-- An extension that begins with a blank finds a file that is spelled **in other letters**; and a
file that is no UTF-8 is reported. -/
theorem accepted_extension_selects_sampleSpelled : normalize [". ΟΔΟΣ"] = [" οδος"] ∧
    (∃ sources, (discover (sampleFiles sampleSpelled) (Path.ofString "p") [". ΟΔΟΣ"]).result
        = .ok sources ∧ ⟨"p/d/a.b. ΟΔΟς", "f();", "utf-8"⟩ ∈ sources) ∧
    ∃ reason, (discover (sampleFiles sampleIllFormed) (Path.ofString "p") ["js"]).result
      = .error (.issue (.sourceUnreadable "p/f.js" reason)) := by
  have hnamed : normalize [". ΟΔΟΣ"] = [" οδος"] := rfl
  have hmem : " οδος" ∈ normalize [". ΟΔΟΣ"] := by rw [hnamed]; exact List.mem_singleton_self _
  have hends : EndsIn " οδος" ["d", "a.b. ΟΔΟς"] :=
    ⟨["d"], "a.b", " ΟΔΟς", rfl, by decide, by decide +kernel⟩
  refine ⟨hnamed, ?_, ?_⟩
  · obtain ⟨files, hfiles, -, hiff, hyields, -⟩ := accepted_extension_selects entry?_sampleSpelled
      hmem (by decide) hends (by decide) rfl rfl (by decide +kernel)
    rw [hnamed, candidates_sampleSpelled] at hfiles
    obtain rfl := Except.ok.inj hfiles
    obtain ⟨sources, hsources⟩ := hiff.2
      (List.forall_mem_singleton.2 (exists_eq_ok (by decide +kernel)))
    obtain ⟨s, hs, -, htext⟩ := hyields sources hsources
    obtain rfl := htext "f();" rfl
    exact ⟨sources, hsources, hs⟩
  · have hroot : FileSystem.entry? (sampleFiles sampleIllFormed) (Path.ofString "p") =
      .ok (some sampleIllFormed) := rfl
    have hnul : sampleIllFormed.NulFree :=
      .directory (by decide) (List.forall_mem_singleton.2 (.file _))
    have hjs : "js" ∈ normalize ["js"] := by rw [normalize_js]; exact List.mem_singleton_self _
    obtain ⟨files, hfiles, -, hiff, -, hreports⟩ := accepted_extension_selects hroot hjs (by decide)
      endsIn_js (by decide) rfl rfl (by decide +kernel)
    rw [normalize_js, candidates_sampleIllFormed] at hfiles
    obtain rfl := Except.ok.inj hfiles
    cases hresult : (discover (sampleFiles sampleIllFormed) (Path.ofString "p") ["js"]).result with
    | ok sources =>
      obtain ⟨s, hs⟩ := hiff.1 ⟨sources, hresult⟩ _ (List.mem_singleton_self _)
      have hunread : (Source.ofFile (sampleFiles sampleIllFormed) (Path.ofString "p/f.js")
        Source.defaultEncoding).isOk = false := by decide +kernel
      rw [hs] at hunread
      cases hunread
    | error f =>
      obtain ⟨c, hc, reason, rfl, -⟩ := hreports hnul f hresult
      obtain rfl := List.mem_singleton.1 hc
      exact ⟨reason, rfl⟩

/-- A directory with a file whose name has two dots. -/
def sampleDotted : Entry := .directory [("a.d.ts", .file (Utf8.encodeString "f();"))]

theorem discover_backAndForth {k : Nat} (hroot : 5 * k + 1 < FileSystem.pathLimit)
    (hlong : FileSystem.pathLimit ≤ 5 * k + 6) (sources : List Source) :
    (discover sampleAround (backAndForth k) ["js"]).result ≠ .ok sources := by
  have hne : (backAndForth k).parts ≠ [] := List.cons_ne_nil _ _
  have hfile : sampleBelow.get? ["f.js"] = some (.file []) := rfl
  have hlisted : Listed (viewFrom sampleAround (backAndForth k)) (backAndForth k) ["f.js"] := by
    refine ⟨decide_eq_true ?_, trivial⟩
    rwa [walkedLength, if_neg fun hbare => hne hbare.2, byteLength_backAndForth]
  have hselects : selects (normalize ["js"]) ((backAndForth k).descend ["f.js"]) = true := by
    rw [normalize_js]
    exact endsIn_js.selects (by decide) (List.mem_singleton_self _) _
  refine discover_of_long (entry?_backAndForth hroot) plain_sampleBelow hfile hlisted hselects ?_ _
  rw [Path.descend_cons, Path.descend_nil, Path.byteLength_child_of_ne hne, byteLength_backAndForth]
  exact hlong

/-- A file is **not found** by an extension with a dot; and where its path is too long, nothing is
found at all. -/
theorem missed_behind_dots_or_far_away :
    (normalize ["d.ts"] = ["d.ts"] ∧ EndsIn "d.ts" ["a.d.ts"] ∧
      sampleDotted.get? ["a.d.ts"] = some (.file (Utf8.encodeString "f();")) ∧
      (discover (sampleFiles sampleDotted) (Path.ofString "p") ["d.ts"]).result = .ok []) ∧
    normalize ["js"] = ["js"] ∧ EndsIn "js" ["f.js"] ∧
      sampleAround.entry? (backAndForth 818) = .ok (some sampleBelow) ∧
      sampleBelow.get? ["f.js"] = some (.file []) ∧
      ∀ sources, (discover sampleAround (backAndForth 818) ["js"]).result ≠ .ok sources := by
  have hdotted : normalize ["d.ts"] = ["d.ts"] := rfl
  have hentry : FileSystem.entry? (sampleFiles sampleDotted) (Path.ofString "p")
      = .ok (some sampleDotted) := rfl
  refine ⟨⟨hdotted, ⟨[], "a", "d.ts", rfl, by decide, rfl⟩, rfl, ?_⟩, normalize_js,
    endsIn_js, entry?_backAndForth (by decide), rfl,
    discover_backAndForth (by decide) (by decide)⟩
  refine discover_of_dots hentry fun e he => ?_
  rw [hdotted, List.mem_singleton] at he
  rw [he]
  decide

end Discovery

end Drift
