import Drift.Proofs.Detection
import Drift.Proofs.Extensions
import Mathlib.Logic.Relation

/-!
# Spellings of a root

* `Path.partsOf_append_slash` — the names of a path are those before and those behind a slash.
* `Path.Canonical`, `Path.ofString_text` — a path whose parts are names is read from its text.
* `Path.Respelled` — texts of relative paths that differ by segments that lead nowhere;
  `Path.ofString_eq_iff_respelled` — these are the texts of one path.
* `Path.Canonical.descend_injective`, `Discovery.exists_places_of_candidates` — files below a root
  stand in places of their own, and are told apart by the texts of their paths.
* `Scan.regions_of_path_eq` — a scan depends on the path of its root alone.
* **`spelling_causes_no_drift`** — regions and paths, however a root is spelled.
-/

namespace Drift

namespace Path

variable {s t : List Char}

/-! ## Names between slashes -/

theorem partsOf_append_slash (front behind : List Char) :
    partsOf (front ++ '/' :: behind) = partsOf front ++ partsOf behind := by
  simp only [partsOf, List.splitOn_append_cons_self, List.filter_append, List.map_append]

/-- The segments that **lead nowhere**. -/
def idleSegments : List (List Char) := [[], ['.']]

theorem partsOf_of_idle {segment : List Char} (h : segment ∈ idleSegments) :
    partsOf segment = [] := by
  rcases List.mem_pair.1 h with rfl | rfl <;> rfl

/-- A segment that **is a name**: it leads somewhere, and holds no slash. -/
structure IsName (segment : List Char) : Prop where
  leads : segment ∉ idleSegments
  noSlash : '/' ∉ segment

theorem partsOf_of_name {segment : List Char} (h : IsName segment) :
    partsOf segment = [String.ofList segment] := by
  have hne : segment ≠ [] ∧ segment ≠ ['.'] := by simpa [idleSegments] using h.leads
  simp [partsOf, List.splitOn_eq_singleton h.noSlash, hne]

/-! ## Anchors -/

/-- The text of a **relative** path: it begins with no slash. -/
def IsRelative (s : List Char) : Prop := s.head? ≠ some '/'

instance : DecidablePred IsRelative := fun s => inferInstanceAs (Decidable (s.head? ≠ some '/'))

theorem isRelative_of_not_mem (h : '/' ∉ s) : IsRelative s := fun hc => h (List.mem_of_head? hc)

theorem isRelative_append_iff (hne : s ≠ []) (t : List Char) :
    IsRelative (s ++ t) ↔ IsRelative s := by
  rw [IsRelative, IsRelative, List.head?_append_of_ne_nil _ hne]

theorem anchorOf_of_relative (h : IsRelative s) : anchorOf s = .here := by
  unfold anchorOf
  split
  all_goals first | rfl | exact absurd rfl h

theorem anchorOf_append (anchor : Anchor) (h : IsRelative s) :
    anchorOf ((anchorText anchor).toList ++ s) = anchor := by
  cases anchor with
  | here => exact anchorOf_of_relative h
  | root | doubleRoot =>
    cases s with
    | nil => rfl
    | cons c rest =>
      have hc : c ≠ '/' := fun hc => h (hc ▸ rfl)
      simp [anchorText, anchorOf, hc]

theorem partsOf_append (anchor : Anchor) (s : List Char) :
    partsOf ((anchorText anchor).toList ++ s) = partsOf s := by
  cases anchor with
  | here => rfl
  | root => exact partsOf_append_slash [] s
  | doubleRoot => exact (partsOf_append_slash ['/'] s).trans rfl

/-! ## Texts of paths -/

/-- The parts of the path **are names**. -/
def Canonical (p : Path) : Prop := ∀ part ∈ p.parts, IsName part.toList

theorem canonical_ofString (s : String) : (ofString s).Canonical := by
  intro part hpart
  obtain ⟨segment, hsegment, rfl⟩ := List.mem_map.1 hpart
  obtain ⟨hmem, hname⟩ := List.mem_filter.1 hsegment
  rw [String.toList_ofList]
  exact ⟨by simpa [idleSegments] using hname, not_mem_of_mem_splitOn hmem⟩

theorem toList_intercalate_cons_cons (part next : String) (parts : List String) :
    ("/".intercalate (part :: next :: parts)).toList
      = part.toList ++ '/' :: ("/".intercalate (next :: parts)).toList := by
  rw [String.intercalate_cons_cons, String.toList_append, String.toList_append]
  simp

theorem partsOf_intercalate {parts : List String} (h : ∀ part ∈ parts, IsName part.toList) :
    partsOf ("/".intercalate parts).toList = parts ∧
      IsRelative ("/".intercalate parts).toList := by
  induction parts with
  | nil => exact ⟨rfl, nofun⟩
  | cons part parts ih =>
    obtain ⟨hname, hparts⟩ := List.forall_mem_cons.1 h
    have hpart := partsOf_of_name hname
    rw [String.ofList_toList] at hpart
    have hrelative := isRelative_of_not_mem hname.noSlash
    cases parts with
    | nil =>
      rw [String.intercalate_singleton]
      exact ⟨hpart, hrelative⟩
    | cons next parts =>
      have hne : part.toList ≠ [] := fun hempty => hname.leads (hempty ▸ List.mem_cons_self)
      rw [toList_intercalate_cons_cons, partsOf_append_slash, hpart, (ih hparts).1,
        isRelative_append_iff hne]
      exact ⟨rfl, hrelative⟩

/-- A path is **read from its text**. -/
theorem ofString_text {p : Path} (h : p.Canonical) : ofString p.text = p := by
  by_cases hbare : p.IsBare
  · obtain ⟨anchor, parts⟩ := p
    obtain ⟨rfl, rfl⟩ := hbare
    rfl
  · obtain ⟨hparts, hrelative⟩ := partsOf_intercalate h
    rw [ofString, text_of_not_bare hbare, String.toList_append, anchorOf_append _ hrelative,
      partsOf_append, hparts]

/-- Different paths **have different texts**. -/
theorem text_injective {p q : Path} (hp : p.Canonical) (hq : q.Canonical) (h : p.text = q.text) :
    p = q := by
  rw [← ofString_text hp, h, ofString_text hq]

/-! ## Spellings of a relative path -/

/-- A text and the same with **one more segment that leads nowhere**. -/
inductive Respells : List Char → List Char → Prop where
  | before {s : List Char} : Respells s ('.' :: '/' :: s)
  | between {front behind segment : List Char} (h : segment ∈ idleSegments) :
      Respells (front ++ '/' :: behind) (front ++ '/' :: (segment ++ '/' :: behind))
  | behind {front segment : List Char} (h : segment ∈ idleSegments) :
      Respells front (front ++ '/' :: segment)

/-- Texts of relative paths that **differ by single dots, repeated slashes and slashes at the end**.
-/
def Respelled : List Char → List Char → Prop :=
  Relation.EqvGen fun s t => IsRelative s ∧ IsRelative t ∧ Respells s t

theorem Respells.partsOf_eq (h : Respells s t) : partsOf t = partsOf s := by
  cases h with
  | before =>
    rw [← List.singleton_append, partsOf_append_slash, partsOf_of_idle (by decide), List.nil_append]
  | between h =>
    rw [partsOf_append_slash, partsOf_append_slash, partsOf_append_slash, partsOf_of_idle h,
      List.nil_append]
  | behind h => rw [partsOf_append_slash, partsOf_of_idle h, List.append_nil]

theorem Respelled.path_eq (h : Respelled s t) :
    (⟨anchorOf s, partsOf s⟩ : Path) = ⟨anchorOf t, partsOf t⟩ := by
  induction h with
  | rel s t h =>
    obtain ⟨hs, ht, h⟩ := h
    rw [anchorOf_of_relative hs, anchorOf_of_relative ht, h.partsOf_eq]
  | refl => rfl
  | symm _ _ _ ih => exact ih.symm
  | trans _ _ _ _ _ ih ih' => exact ih.trans ih'

theorem Respelled.of_respells (hs : IsRelative s) (ht : IsRelative t) (h : Respells s t) :
    Respelled s t := Relation.EqvGen.rel _ _ ⟨hs, ht, h⟩

theorem Respelled.refl (s : List Char) : Respelled s s := Relation.EqvGen.refl s

theorem Respelled.symm (h : Respelled s t) : Respelled t s := Relation.EqvGen.symm _ _ h

theorem Respelled.trans {u : List Char} (h : Respelled s t) (h' : Respelled t u) : Respelled s u :=
  Relation.EqvGen.trans _ _ _ h h'

/-- The text, or a single dot in place of **no text at all**. -/
def orDot (s : List Char) : List Char := if s = [] then ['.'] else s

theorem isRelative_orDot_append (h : IsRelative s) (segment : List Char) :
    IsRelative (orDot s ++ '/' :: segment) := by
  unfold orDot
  split
  · exact nofun
  · next hne => exact (isRelative_append_iff hne _).2 h

theorem Respelled.append (h : Respelled s t) (segment : List Char) :
    Respelled (orDot s ++ '/' :: segment) (orDot t ++ '/' :: segment) := by
  induction h with
  | rel s t h =>
    obtain ⟨hs, ht, h⟩ := h
    refine .of_respells (isRelative_orDot_append hs segment) (isRelative_orDot_append ht segment) ?_
    cases h with
    | before =>
      by_cases hempty : s = []
      · rw [hempty]
        have hdot : Respells (['.'] ++ '/' :: segment) (['.'] ++ '/' :: ([] ++ '/' :: segment)) :=
          .between (by decide)
        exact hdot
      · simp only [orDot, if_neg hempty, List.cons_ne_nil, if_false, List.cons_append]
        exact .before
    | @between front behind idle hidle =>
      have hne (tail : List Char) : front ++ '/' :: tail ≠ [] := by simp
      simp only [orDot, if_neg (hne _), List.append_assoc, List.cons_append]
      exact .between hidle
    | behind hidle =>
      have hne : s ≠ [] := fun hempty => ht (hempty ▸ rfl)
      have hne' (tail : List Char) : s ++ '/' :: tail ≠ [] := by simp
      simp only [orDot, if_neg hne, if_neg (hne' _), List.append_assoc, List.cons_append]
      exact .between hidle
  | refl => exact .refl _
  | symm _ _ _ ih => exact ih.symm
  | trans _ _ _ _ _ ih ih' => exact ih.trans ih'

theorem exists_last_segment (h : '/' ∈ s) :
    ∃ front segment, s = front ++ '/' :: segment ∧ '/' ∉ segment := by
  obtain ⟨back, rest, hsplit, hback⟩ := List.eq_append_cons_of_mem (List.mem_reverse.2 h)
  refine ⟨rest.reverse, back.reverse, ?_, fun hc => hback (List.mem_reverse.1 hc)⟩
  rw [← List.reverse_reverse s, hsplit]
  simp

theorem text_singleton (name : String) : text ⟨.here, [name]⟩ = name := by
  rw [text_of_not_bare fun hbare => List.cons_ne_nil _ _ hbare.2, String.intercalate_singleton]
  simp [anchorText]

theorem text_child_of_ne {p : Path} (h : p.parts ≠ []) (name : String) :
    (p.child name).text = p.text ++ "/" ++ name := by
  rw [text_of_not_bare (p.not_bare_child name), text_of_not_bare fun hbare => h hbare.2, child,
    String.intercalate_append_of_ne_nil h (List.cons_ne_nil _ _), String.intercalate_singleton]
  simp only [String.append_assoc]

theorem canonical_partsOf (anchor : Anchor) (s : List Char) : Canonical ⟨anchor, partsOf s⟩ := by
  have h := canonical_ofString (String.ofList s)
  rwa [Canonical, ofString, String.toList_ofList] at h

theorem text_ne_nil {p : Path} (h : p.Canonical) : p.text.toList ≠ [] := by
  intro hempty
  have htext : p.text = "" := String.toList_inj.1 hempty
  have hpath : ofString "" = p := by rw [← htext, ofString_text h]
  rw [← hpath] at hempty
  cases hempty

theorem respelled_text_child (parts : List String) {segment : List Char} (h : IsName segment) :
    Respelled ((text ⟨.here, parts⟩).toList ++ '/' :: segment)
      (text ⟨.here, parts ++ [String.ofList segment]⟩).toList := by
  by_cases hnone : parts = []
  · have hrelative := isRelative_of_not_mem h.noSlash
    have hdot : IsRelative ('.' :: '/' :: segment) := by simp [IsRelative]
    rw [hnone, List.nil_append, text_singleton, String.toList_ofList]
    exact (Respelled.of_respells hrelative hdot .before).symm
  · have hjoin : (text ⟨.here, parts ++ [String.ofList segment]⟩).toList
        = (text ⟨.here, parts⟩).toList ++ '/' :: segment := by
      have hchild := text_child_of_ne (p := ⟨.here, parts⟩) hnone (String.ofList segment)
      rw [child] at hchild
      simp [hchild]
    rw [hjoin]
    exact .refl _

theorem respelled_dot {segment : List Char} (h : segment ∈ idleSegments) :
    Respelled segment ['.'] := by
  rcases List.mem_pair.1 h with rfl | rfl
  · have hdot : IsRelative ['.', '/'] := by decide
    have hbehind : Respells ['.'] (['.'] ++ '/' :: []) := .behind (by decide)
    exact (Respelled.of_respells (by decide) hdot .before).trans
      (Respelled.of_respells (by decide) hdot hbehind).symm
  · exact .refl _

theorem respelled_text (h : IsRelative s) : Respelled s (text ⟨.here, partsOf s⟩).toList := by
  -- The last segment is left out or kept, and the text before it is respelled.
  induction hn : s.length using Nat.strong_induction_on generalizing s with
  | _ n ih =>
  subst hn
  by_cases hslash : '/' ∈ s
  · obtain ⟨front, segment, rfl, hsegment⟩ := exists_last_segment hslash
    have hne : front ≠ [] := fun hempty => h (hempty ▸ rfl)
    have hfront : IsRelative front := (isRelative_append_iff hne _).1 h
    have hrest := ih front.length (by simp) hfront rfl
    rw [partsOf_append_slash]
    by_cases hidle : segment ∈ idleSegments
    · rw [partsOf_of_idle hidle, List.append_nil]
      exact (Respelled.of_respells hfront h (.behind hidle)).symm.trans hrest
    · have htext := hrest.append segment
      rw [orDot, orDot, if_neg hne, if_neg (text_ne_nil (canonical_partsOf _ _))] at htext
      rw [partsOf_of_name ⟨hidle, hsegment⟩]
      exact htext.trans (respelled_text_child _ ⟨hidle, hsegment⟩)
  · by_cases hidle : s ∈ idleSegments
    · rw [partsOf_of_idle hidle]
      exact respelled_dot hidle
    · rw [partsOf_of_name ⟨hidle, hslash⟩, text_singleton, String.toList_ofList]
      exact .refl _

/-- The texts of a path are its spellings: **no others**, where they are relative. -/
theorem ofString_eq_iff_respelled {s t : String} (hs : IsRelative s.toList)
    (ht : IsRelative t.toList) : ofString s = ofString t ↔ Respelled s.toList t.toList := by
  refine ⟨fun h => ?_, Respelled.path_eq⟩
  have hparts : partsOf s.toList = partsOf t.toList := congrArg Path.parts h
  have htext := respelled_text ht
  rw [← hparts] at htext
  exact (respelled_text hs).trans htext.symm

end Path

/-! ## Files below a root -/

/-- A name that **a file system gives**: a proper one without a slash. -/
structure FileName (name : String) : Prop extends ProperName name where
  noSlash : '/' ∉ name.toList

instance : DecidablePred FileName := fun name =>
  decidable_of_iff (ProperName name ∧ '/' ∉ name.toList)
    ⟨fun h => ⟨h.1, h.2⟩, fun h => ⟨h.toProperName, h.noSlash⟩⟩

namespace Path

variable {p : Path} {names names' : List String}

theorem Canonical.descend (hp : p.Canonical) (h : ∀ name ∈ names, FileName name) :
    (p.descend names).Canonical := by
  intro part hpart
  rcases List.mem_append.1 hpart with hpart | hpart
  · exact hp part hpart
  · have hname := h part hpart
    refine ⟨fun hidle => ?_, hname.noSlash⟩
    rcases List.mem_pair.1 hidle with hempty | hdot
    · exact hname.notEmpty (String.toList_inj.1 hempty)
    · exact hname.notHere (String.toList_inj.1 hdot)

/-- What stands below a root is told apart **by the text of its path**. -/
theorem Canonical.descend_injective (hp : p.Canonical) (h : ∀ name ∈ names, FileName name)
    (h' : ∀ name ∈ names', FileName name)
    (htext : (p.descend names).text = (p.descend names').text) : names = names' :=
  Path.descend_injective (text_injective (hp.descend h) (hp.descend h') htext)

end Path

namespace Discovery

variable {fs : FileSystem} {root : Path} {below : Entry} {P : String → Prop}
  {extensions : List String} {files : List Candidate}

/-- The files to be read stand below the root, **each in a place of its own**. -/
theorem exists_places_of_candidates (hroot : fs.entry? root = .ok (some below))
    (hsound : below.Sound P) (h : candidates fs root extensions = .ok files) :
    ∃ places : List (List String), files.map (·.path) = places.map root.descend ∧ places.Nodup ∧
      ∀ names ∈ places, (below.get? names).isSome = true := by
  unfold candidates at h
  simp only [hroot] at h
  cases below with
  | sink =>
    obtain rfl := Except.ok.inj h
    exact ⟨[], rfl, List.nodup_nil, nofun⟩
  | file | link =>
    obtain rfl := Except.ok.inj h
    split
    · exact ⟨[[]], by simp [Path.descend_nil], List.nodup_singleton _, by simp [Entry.get?]⟩
    · exact ⟨[], rfl, List.nodup_nil, nofun⟩
  | directory entries =>
    obtain rfl := Except.ok.inj h
    have hplace : ∀ q ∈ (filesBelow (viewFrom fs root) root (.directory entries)).filter
        (selects extensions), root.descend (namesFrom root q) = q ∧
          ((Entry.directory entries).get? (namesFrom root q)).isSome = true := by
      intro q hq
      obtain ⟨name, names, found, hget, -, -, rfl⟩ :=
        exists_get?_of_mem_filesBelow hsound (List.mem_filter.1 hq).1
      rw [namesFrom_descend, hget]
      exact ⟨rfl, rfl⟩
    refine ⟨_, ?_, List.pairwise_map.2 (((pairwise_filesBelow hsound root).filter _).imp
      fun {q r} hbefore hsame => ?_), List.forall_mem_map.2 fun q hq => (hplace q hq).2⟩
    · rw [List.map_map, List.map_map]
      exact List.map_congr_left fun q hq => (hplace q hq).1.symm
    · rw [hsame] at hbefore
      exact hbefore.asymm hbefore

theorem map_path_of_read {encoding : String} {sources : List Source}
    (h : files.map (fun c => Source.ofFile fs c.path encoding) = sources.map .ok) :
    sources.map (·.path) = (files.map (·.path)).map Path.text := by
  induction files generalizing sources with
  | nil =>
    rw [List.map_nil, List.nil_eq, List.map_eq_nil_iff] at h
    rw [h]
    rfl
  | cons c files ih =>
    obtain ⟨s, others, rfl, hs, hothers⟩ := List.map_eq_cons_iff.1 h.symm
    exact congrArg₂ List.cons (Source.path_of_ofFile hs.symm) (ih hothers.symm)

end Discovery

namespace Scan

variable {fs : FileSystem} {s t : String}

theorem result_framed (root language : String) (found : Logged (List Region)) :
    (framed root language found).result = found.result := by
  obtain ⟨events, result⟩ := found
  cases result with
  | error => rw [framed_error]
  | ok => rw [framed_ok]

/-- A scan **depends on the path** of its root, and not on how that is spelled. -/
theorem regions_of_path_eq (h : Path.ofString s = Path.ofString t) (grammars : Grammars)
    (r : Registry) (language : String) (extensions : List String) :
    (regions fs grammars r s language extensions).1
        = (regions fs grammars r t language extensions).1 ∧
      (regions fs grammars r s language extensions).2.result
        = (regions fs grammars r t language extensions).2.result := by
  unfold regions byParser run
  rcases r.parser grammars.load language with ⟨r', events, failure | parser⟩
  · exact ⟨rfl, rfl⟩
  · simp only [result_framed, h, and_self]

end Scan

open Discovery (discover)

/-- The spelling of a root **causes no drift**. Below every root that is spelled another way, by
single dots, repeated slashes and slashes at the end, a scan gives the same regions, or fails in the
same way; and what it gives is compared with a snapshot with the same outcome. Whatever stands below
a root is told apart by the texts of paths, when names are such as file systems give; and so each
source that is found there stands in a place of its own and has a path of its own. -/
theorem spelling_causes_no_drift {s t : String} (hspelled : Path.Respelled s.toList t.toList) :
    (∀ fs grammars r language extensions,
      (Scan.regions fs grammars r s language extensions).1
          = (Scan.regions fs grammars r t language extensions).1 ∧
        (Scan.regions fs grammars r s language extensions).2.result
          = (Scan.regions fs grammars r t language extensions).2.result) ∧
    (∀ surroundings name language extensions,
      Command.compare surroundings name s language extensions
        = Command.compare surroundings name t language extensions) ∧
    ∀ (fs : FileSystem) (below : Entry), fs.tree.Sound FileName →
      fs.entry? (Path.ofString s) = .ok (some below) →
      (∀ names names', (below.get? names).isSome = true → (below.get? names').isSome = true →
        ((Path.ofString s).descend names).text = ((Path.ofString s).descend names').text →
        names = names') ∧
      ∀ arguments sources, (discover fs (Path.ofString s) arguments).result = .ok sources →
        ∃ places : List (List String), places.Nodup ∧
          (∀ names ∈ places, (below.get? names).isSome = true) ∧
          sources.map (·.path) = places.map (fun names => ((Path.ofString s).descend names).text) ∧
          (sources.map (·.path)).Nodup := by
  have hpath : Path.ofString s = Path.ofString t := hspelled.path_eq
  refine ⟨fun fs => Scan.regions_of_path_eq hpath, fun surroundings name language extensions => ?_,
    fun fs below hnames hroot => ?_⟩
  · unfold Command.compare Command.scan
    rw [hpath]
  obtain ⟨found, hlocate⟩ := FileSystem.locate_of_entry? hroot
  have hsound : below.Sound FileName := by
    cases FileSystem.in_of_locate hlocate with
    | taken hget => exact (hnames.get? hget).1
  have hapart (names names' : List String) (hin : (below.get? names).isSome = true)
      (hin' : (below.get? names').isSome = true)
      (htext : ((Path.ofString s).descend names).text = ((Path.ofString s).descend names').text) :
      names = names' := by
    obtain ⟨e, he⟩ := Option.isSome_iff_exists.1 hin
    obtain ⟨e', he'⟩ := Option.isSome_iff_exists.1 hin'
    exact (Path.canonical_ofString s).descend_injective (hsound.get? he).2 (hsound.get? he').2 htext
  refine ⟨hapart, fun arguments sources hsources => ?_⟩
  obtain ⟨files, hfiles, hread⟩ := Discovery.discover_eq_ok_iff.1 hsources
  obtain ⟨places, hpaths, hnodup, hin⟩ := Discovery.exists_places_of_candidates hroot hsound hfiles
  have htexts : sources.map (·.path)
      = places.map fun names => ((Path.ofString s).descend names).text := by
    rw [Discovery.map_path_of_read hread, hpaths, List.map_map]
    rfl
  refine ⟨places, hnodup, hin, htexts, ?_⟩
  rw [htexts]
  exact hnodup.map_on fun names hnames names' hnames' =>
    hapart names names' (hin names hnames) (hin names' hnames')

/-! ### One directory, spelled twice -/

/-- A directory with a source, and with another directory that holds it once more. -/
def sampleTwice : Entry :=
  .directory [("a.js", .file sampleSource), ("d", sampleDirectory "a.js")]

theorem candidates_sampleTwice :
    Discovery.candidates (Discovery.sampleFiles sampleTwice) (Path.ofString "p")
      (Extensions.normalize ["js"]) = .ok [⟨Path.ofString "p/a.js", true⟩,
        ⟨Path.ofString "p/d/a.js", true⟩] := by
  have hnamed : Extensions.normalize ["js"] = ["js"] := rfl
  have hroot : FileSystem.entry? (Discovery.sampleFiles sampleTwice) (Path.ofString "p")
      = .ok (some sampleTwice) := rfl
  have hsorted {α : Type} (x y : α) :
      Discovery.byName [("a.js", x), ("d", y)] = [("a.js", x), ("d", y)] :=
    List.mergeSort_of_pairwise (by simp)
  rw [Discovery.candidates, hroot, hnamed]
  simp only [sampleTwice, sampleDirectory, Discovery.filesBelow, Discovery.filesIn,
    Discovery.filesOfEach, hsorted, Discovery.byName_singleton]
  refine congrArg Except.ok ?_
  rfl

theorem regions_sampleTwice : (Scan.regions (Discovery.sampleFiles sampleTwice) sample.grammars
    .fresh "p/." "js" ["js"]).2.result = .ok [sampleRegion "a.js", sampleRegion "d/a.js"] := by
  have hpath : Path.ofString "p/." = Path.ofString "p" := rfl
  unfold Scan.regions Scan.run Scan.regionsBelow
  rw [hpath, candidates_sampleTwice]
  exact eq_ok_of_toOption (by decide +kernel)

theorem discover_sampleTwice :
    (discover (Discovery.sampleFiles sampleTwice) (Path.ofString "./p//") ["js"]).result =
      .ok [⟨"p/a.js", "// control A-1\nf();\n", "utf-8"⟩,
        ⟨"p/d/a.js", "// control A-1\nf();\n", "utf-8"⟩] := by
  have hpath : Path.ofString "./p//" = Path.ofString "p" := rfl
  rw [discover, hpath, candidates_sampleTwice]
  exact eq_ok_of_toOption (by decide +kernel)

theorem sound_sampleTwice : (Discovery.sampleFiles sampleTwice).tree.Sound FileName := by
  have hdirectory : (sampleDirectory "a.js").Sound FileName :=
    .directory (by decide) (by decide) (List.forall_mem_singleton.2 (.leaf rfl))
  have hroot : sampleTwice.Sound FileName :=
    .directory (by decide) (by decide)
      (List.forall_mem_cons.2 ⟨.leaf rfl, List.forall_mem_singleton.2 hdirectory⟩)
  exact .directory (by decide) (by decide) (List.forall_mem_singleton.2 hroot)

/-- Both spellings give the regions of **two files in two places**. -/
theorem spelling_causes_no_drift_sampleTwice : Path.Respelled "./p//".toList "p/.".toList ∧
    (Scan.regions (Discovery.sampleFiles sampleTwice) sample.grammars .fresh "./p//" "js"
      ["js"]).2.result = .ok [sampleRegion "a.js", sampleRegion "d/a.js"] ∧
    ∃ places : List (List String), places.Nodup ∧
      (∀ names ∈ places, (sampleTwice.get? names).isSome = true) ∧
      places.map (fun names => ((Path.ofString "./p//").descend names).text)
        = ["p/a.js", "p/d/a.js"] := by
  have hspelled : Path.Respelled "./p//".toList "p/.".toList :=
    (Path.ofString_eq_iff_respelled (by decide) (by decide)).1 rfl
  obtain ⟨hregions, -, hapart⟩ := spelling_causes_no_drift hspelled
  have hroot : FileSystem.entry? (Discovery.sampleFiles sampleTwice) (Path.ofString "./p//")
      = .ok (some sampleTwice) := rfl
  obtain ⟨places, hnodup, hin, htexts, -⟩ :=
    (hapart _ _ sound_sampleTwice hroot).2 _ _ discover_sampleTwice
  refine ⟨hspelled, ?_, places, hnodup, hin, htexts.symm⟩
  rw [(hregions _ _ _ _ _).2, regions_sampleTwice]

end Drift
