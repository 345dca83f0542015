import Drift.Proofs.Scan
import Drift.Proofs.Siblings
import Mathlib.Data.List.Perm.Subperm

/-!
# Comments and what they mark

* `Extraction.MarksAt` — a comment marks a region by its target, the first named sibling behind it.
* `Extraction.Traced` — a list of regions with the comment and the target of each;
  `exists_traced` finds them for every extraction that succeeds.
* **`Extraction.no_target_twice`** — no node is the target of two regions.
* `Extraction.Annotated` — a comment is a control annotation; `annotated_iff` says that it then
  marks a region or stands alone.
* **`Extraction.annotations_accounted`** — every annotation is recorded or noted, and not both.
-/

namespace Drift

namespace Extraction

/-! ## Comments and targets -/

section

variable (kinds : List String) (path : String) (bytes : Bytes)

/-- A comment marks a region **by its target**. -/
structure MarksAt (c t : Location Int) (r : Region) : Prop where
  annotates : Annotates kinds bytes c r.comment
  path_eq : r.path = path
  next : c.FirstNamed t
  reads : t.tree.Reads bytes r.content
  covers : t.tree.span.Covers r.start r.stop

/-- Regions **with their comments and targets**; the comments stand in pre-order, each of them
once. -/
structure Traced (t : Tree Int) (pairs : List (Location Int × Location Int))
    (regions : List Region) : Prop where
  marks : List.Forall₂ (fun p r => MarksAt kinds path bytes p.1 p.2 r) pairs regions
  inOrder : (pairs.map Prod.fst).Sublist (Location.root t).descendants

end

variable {kinds : List String} {path : String} {bytes : Bytes}

theorem marks_iff_exists {c : Location Int} {r : Region} :
    Marks kinds path bytes c r ↔ ∃ t, MarksAt kinds path bytes c t r := by
  constructor
  · rintro ⟨hannotates, hpath, t, hnext, hreads, hcovers⟩
    exact ⟨t, hannotates, hpath, hnext, hreads, hcovers⟩
  · rintro ⟨t, hannotates, hpath, hnext, hreads, hcovers⟩
    exact ⟨hannotates, hpath, t, hnext, hreads, hcovers⟩

theorem exists_pairs {α β τ : Type} {part? : α → Option β} {R : α → τ → β → Prop}
    (h : ∀ a b, part? a = some b → ∃ t, R a t b) (as : List α) :
    ∃ pairs : List (α × τ), List.Forall₂ (fun p b => R p.1 p.2 b) pairs (as.filterMap part?) ∧
      (pairs.map Prod.fst).Sublist as := by
  induction as with
  | nil => exact ⟨[], .nil, .slnil⟩
  | cons a as ih =>
    obtain ⟨pairs, hpairs, hsublist⟩ := ih
    cases ha : part? a with
    | none => exact ⟨pairs, by rwa [List.filterMap_cons_none ha], hsublist.cons a⟩
    | some b =>
      obtain ⟨t, ht⟩ := h a b ha
      exact ⟨(a, t) :: pairs, by rw [List.filterMap_cons_some ha]; exact .cons ht hpairs,
        hsublist.cons_cons a⟩

theorem judge_eq_ok_of_extractFrom {t : Tree Int} {regions : List Region}
    (h : (extractFrom kinds path bytes t).result = .ok regions) :
    ∀ c ∈ comments kinds t, ∃ f : Finding Region, judge path bytes c = .ok f := by
  intro c hc
  cases hjudge : (judge path bytes c : Except Fault (Finding Region)) with
  | ok f => exact ⟨f, rfl⟩
  | error fault =>
    obtain ⟨_, -, _, -, findings, hrun⟩ := judgeOnto_of_error path [] ⟨c, hc, fault, hjudge⟩
    rw [result_extractFrom, hrun] at h
    cases h

theorem eq_marked_of_extractFrom {t : Tree Int} {regions : List Region}
    (h : (extractFrom kinds path bytes t).result = .ok regions) :
    regions = (Location.root t).descendants.filterMap (marked? kinds path bytes) :=
  Except.ok.inj (h.symm.trans (result_extractFrom_of_judged (judge_eq_ok_of_extractFrom h)))

/-- All extracted regions have their **comments and targets**. -/
theorem exists_traced {s : Source} {parse : Parse Int} {t : Tree Int} {regions : List Region}
    (hbytes : s.bytes = .ok bytes) (hparse : parse bytes = some t)
    (h : (extract kinds parse s).result = .ok regions) :
    ∃ pairs, Traced kinds s.path bytes t pairs regions := by
  rw [extract_of_some hbytes hparse] at h
  rw [eq_marked_of_extractFrom h]
  have hmarked (c : Location Int) (r : Region) (hr : marked? kinds s.path bytes c = some r) :
      ∃ target, MarksAt kinds s.path bytes c target r :=
    marks_iff_exists.1 (marked?_eq_some_iff.1 hr)
  obtain ⟨pairs, hpairs, hsublist⟩ := exists_pairs hmarked (Location.root t).descendants
  exact ⟨pairs, hpairs, hsublist⟩

theorem Traced.pair {t : Tree Int} {pairs : List (Location Int × Location Int)}
    {regions : List Region} (h : Traced kinds path bytes t pairs regions)
    {p : Location Int × Location Int} (hp : p ∈ pairs) :
    (Location.root t).Below p.1 ∧ p.1.tree.kind ∈ kinds ∧ p.1.FirstNamed p.2 := by
  refine ⟨Location.mem_descendants.1 (h.inOrder.subset (List.mem_map_of_mem hp)), ?_⟩
  have hpairs : ∀ q ∈ pairs, q.1.tree.kind ∈ kinds ∧ q.1.FirstNamed q.2 :=
    ((List.forall₂_and_left pairs regions).1
      (h.marks.imp fun _ _ hq => ⟨⟨hq.annotates.kind, hq.next⟩, hq⟩)).1
  exact hpairs p hp

/-! ## Targets -/

/-- The node is named and has **a named sibling in front**. -/
def isTarget (l : Location Int) : Bool := l.tree.named && l.preceding.any (·.named)

theorem Traced.nodup_targets {t : Tree Int} {pairs : List (Location Int × Location Int)}
    {regions : List Region} (h : Traced kinds path bytes t pairs regions)
    (hnamed : ∀ c, (Location.root t).Below c → c.tree.kind ∈ kinds → c.tree.named = true) :
    (pairs.map Prod.snd).Nodup := by
  have hcomments : (pairs.map Prod.fst).Nodup :=
    h.inOrder.nodup (Location.root t).nodup_descendants
  refine List.Nodup.map_on (fun p hp q hq hpq => ?_) (List.Nodup.of_map Prod.fst hcomments)
  obtain ⟨hbelow, hkind, hnext⟩ := h.pair hp
  obtain ⟨hbelow', hkind', hnext'⟩ := h.pair hq
  have hnearest := hnext.nearestBefore (hnamed p.1 hbelow hkind)
  have hnearest' := hnext'.nearestBefore (hnamed q.1 hbelow' hkind')
  rw [← hpq] at hnearest'
  exact Prod.ext (hnearest.unique hbelow hbelow' hnearest') hpq

/-- **No node is recorded twice.** Where comments are named, the target of a region determines its
comment, which is the nearest named sibling in front of it; so the regions have different targets,
and there are no more of them than named nodes with a named sibling in front. -/
theorem no_target_twice {s : Source} {parse : Parse Int} {t : Tree Int} {regions : List Region}
    (hbytes : s.bytes = .ok bytes) (hparse : parse bytes = some t)
    (hnamed : ∀ c, (Location.root t).Below c → c.tree.kind ∈ kinds → c.tree.named = true)
    (hregions : (extract kinds parse s).result = .ok regions) :
    ∃ pairs, Traced kinds s.path bytes t pairs regions ∧ (pairs.map Prod.snd).Nodup ∧
      (∀ p ∈ pairs, ∀ c, (Location.root t).Below c → (c.NearestBefore p.2 ↔ c = p.1)) ∧
      regions.length ≤ (Location.root t).descendants.countP isTarget := by
  obtain ⟨pairs, htraced⟩ := exists_traced hbytes hparse hregions
  have hnodup := htraced.nodup_targets hnamed
  refine ⟨pairs, htraced, hnodup, fun p hp c hc => ?_, ?_⟩
  · obtain ⟨hbelow, hkind, hnext⟩ := htraced.pair hp
    have hnearest := hnext.nearestBefore (hnamed p.1 hbelow hkind)
    exact ⟨fun h => h.unique hc hbelow hnearest, fun h => h ▸ hnearest⟩
  · have hsubset : pairs.map Prod.snd ⊆ (Location.root t).descendants.filter isTarget := by
      intro target htarget
      obtain ⟨p, hp, rfl⟩ := List.mem_map.1 htarget
      obtain ⟨hbelow, hkind, hnext⟩ := htraced.pair hp
      obtain ⟨parent, hparent, -⟩ := hbelow.exists_parent
      have hfront : p.2.preceding.any (·.named) = true :=
        List.any_eq_true.2 ⟨p.1.tree, hnext.follows.mem_preceding hparent,
          hnamed p.1 hbelow hkind⟩
      refine List.mem_filter.2 ⟨Location.mem_descendants.2 (hnext.below hbelow), ?_⟩
      rw [isTarget, hfront, hnext.2.1]
      rfl
    calc regions.length = (pairs.map Prod.snd).length := by
          rw [List.length_map, htraced.marks.length_eq]
      _ ≤ ((Location.root t).descendants.filter isTarget).length :=
          (List.subperm_of_subset hnodup hsubset).length_le
      _ = (Location.root t).descendants.countP isTarget := List.countP_eq_length_filter.symm

/-! ### An annotation within what another one marks -/

/-- A call with an annotation between its brackets, between two more annotations. -/
def nestedText : Source := ⟨"a.py", "# control A\nf(\n# control B\nx)\n# control C\n", "utf-8"⟩

/-- The tree of that source. -/
def nestedTree : Tree Int :=
  .node "module" true ⟨0, 42, (0, 0), (5, 0)⟩
    [.node "comment" true ⟨0, 11, (0, 0), (0, 11)⟩ [],
     .node "expression_statement" true ⟨12, 29, (1, 0), (3, 2)⟩
       [.node "call" true ⟨12, 29, (1, 0), (3, 2)⟩
         [.node "identifier" true ⟨12, 13, (1, 0), (1, 1)⟩ [],
          .node "argument_list" true ⟨13, 29, (1, 1), (3, 2)⟩
            [.node "(" false ⟨13, 14, (1, 1), (1, 2)⟩ [],
             .node "comment" true ⟨15, 26, (2, 0), (2, 11)⟩ [],
             .node "identifier" true ⟨27, 28, (3, 0), (3, 1)⟩ [],
             .node ")" false ⟨28, 29, (3, 1), (3, 2)⟩ []]]],
     .node "comment" true ⟨30, 41, (4, 0), (4, 11)⟩ []]

/-- The call, and what is marked in it. -/
def nestedRegions : List Region :=
  [⟨"a.py", "# control A", "f(\n# control B\nx)", ⟨1, 0⟩, ⟨3, 2⟩⟩,
   ⟨"a.py", "# control B", "x", ⟨3, 0⟩, ⟨3, 1⟩⟩]

theorem bytes_nestedText : nestedText.bytes = .ok (Utf8.encodeString nestedText.content) := rfl

theorem result_nestedText :
    (extract ["comment"] (fun _ => some nestedTree) nestedText).result = .ok nestedRegions :=
  eq_ok_of_toOption (by decide +kernel)

/-- The call and the name in it are two targets, of three named nodes behind a named one. -/
theorem no_target_twice_nested :
    ∃ pairs, Traced ["comment"] "a.py" (Utf8.encodeString nestedText.content) nestedTree pairs
        nestedRegions ∧
      (pairs.map Prod.snd).Nodup ∧
      nestedRegions.length ≤ (Location.root nestedTree).descendants.countP isTarget := by
  have hnamed : ∀ c ∈ (Location.root nestedTree).descendants,
      c.tree.kind ∈ ["comment"] → c.tree.named = true := by
    decide +kernel
  obtain ⟨pairs, htraced, hnodup, -, hlength⟩ := no_target_twice bytes_nestedText rfl
    (fun c hc => hnamed c (Location.mem_descendants.2 hc)) result_nestedText
  exact ⟨pairs, htraced, hnodup, hlength⟩

/-! ## Annotations -/

variable (kinds bytes) in
/-- A comment is **a control annotation**. -/
def Annotated (c : Location Int) : Prop := ∃ text, Annotates kinds bytes c text

instance (c : Location Int) : Decidable (Annotated kinds bytes c) :=
  decidable_of_iff (c.tree.kind ∈ kinds ∧
      (nodeText bytes c.tree).toOption.any ControlComment.isControl = true) <| by
    constructor
    · rintro ⟨hkind, hcontrol⟩
      cases htext : nodeText bytes c.tree with
      | error => rw [htext] at hcontrol; cases hcontrol
      | ok text =>
        rw [htext] at hcontrol
        exact ⟨text, hkind, nodeText_eq_ok_iff.1 htext, hcontrol⟩
    · rintro ⟨text, hkind, hreads, hcontrol⟩
      rw [nodeText_eq_ok_iff.2 hreads]
      exact ⟨hkind, hcontrol⟩

/-- In a tree that can be read, an annotation **marks a region or stands alone**. -/
theorem Legible.annotated_iff {t : Tree Int} (h : Legible kinds bytes t) (path : String)
    {c : Location Int} (hc : (Location.root t).Below c) :
    Annotated kinds bytes c ↔
      (∃ n, Alone kinds bytes c n) ∨ ∃ r, Marks kinds path bytes c r := by
  constructor
  · rintro ⟨text, hannotates⟩
    by_cases htarget : ∃ target, c.FirstNamed target
    · obtain ⟨target, hnext⟩ := htarget
      obtain ⟨content, hreads⟩ : ∃ content, target.tree.Reads bytes content := by
        by_contra hnone
        exact h.texts ⟨c, hc, hannotates.kind, .inr ⟨text, target, hannotates, hnext, hnone⟩⟩
      obtain ⟨start, stop, hcovers⟩ := (h.points target (hnext.below hc)).covers
      refine .inr ⟨⟨path, text, content, start, stop⟩, hannotates, rfl, target, hnext, ?_⟩
      exact ⟨hreads, hcovers⟩
    · exact .inl ⟨_, ⟨text, hannotates⟩, htarget, rfl⟩
  · rintro (⟨n, halone⟩ | ⟨r, hmarks⟩)
    · exact halone.annotates
    · exact ⟨_, hmarks.annotates⟩

theorem Alone.not_marks {c : Location Int} {n : Int} (h : Alone kinds bytes c n) (r : Region) :
    ¬ Marks kinds path bytes c r := by
  rintro ⟨-, -, target, hnext, -⟩
  exact h.noTarget ⟨target, hnext⟩

theorem length_filterMap_add {α β γ : Type} {f : α → Option β} {g : α → Option γ} {p : α → Bool}
    {as : List α} (hor : ∀ a ∈ as, p a = true ↔ (∃ b, f a = some b) ∨ ∃ c, g a = some c)
    (hnot : ∀ a b c, f a = some b → g a ≠ some c) :
    (as.filterMap f).length + (as.filterMap g).length = (as.filter p).length := by
  induction as with
  | nil => rfl
  | cons a as ih =>
    rw [List.forall_mem_cons] at hor
    have hrest := ih hor.2
    rcases hf : f a with _ | b <;> rcases hg : g a with _ | c
    · have hp : p a = false := by simpa [hf, hg] using hor.1
      rwa [List.filterMap_cons_none hf, List.filterMap_cons_none hg,
        List.filter_cons_of_neg (by simp [hp])]
    · rw [List.filterMap_cons_none hf, List.filterMap_cons_some hg,
        List.filter_cons_of_pos (hor.1.2 (.inr ⟨c, hg⟩)), List.length_cons, List.length_cons]
      omega
    · rw [List.filterMap_cons_some hf, List.filterMap_cons_none hg,
        List.filter_cons_of_pos (hor.1.2 (.inl ⟨b, hf⟩)), List.length_cons, List.length_cons]
      omega
    · exact absurd hg (hnot a b c hf)

/-- **No annotation is lost.** From a tree that can be read, the comments that are control
annotations are as many as the regions and the notes of an annotation without sibling together. The
notes are those of the annotations with no named sibling behind them, in pre-order, each with the
line of its comment; the closing note tells the number of regions. -/
theorem annotations_accounted {s : Source} {t : Tree Int} (hbytes : s.bytes = .ok bytes)
    (parse : Parse Int) (hparse : parse bytes = some t) (h : Legible kinds bytes t) :
    ∃ (lines : List Int) (regions : List Region),
      extract kinds parse s =
        ⟨lines.map (fun n => .annotationWithoutSibling s.path (.int n))
          ++ [.fileExtracted s.path regions.length], .ok regions⟩ ∧
      Gathered (Alone kinds bytes) t lines ∧ Gathered (Marks kinds s.path bytes) t regions ∧
      lines.length + regions.length =
        ((Location.root t).descendants.filter (Annotated kinds bytes)).length := by
  obtain ⟨lines, regions, hextract, hlines, hregions⟩ := extractFrom_eq h s.path
  refine ⟨lines, regions, by rw [extract_of_some hbytes hparse, hextract], hlines, hregions, ?_⟩
  obtain ⟨line?, hline, rfl⟩ := hlines
  obtain ⟨region?, hregion, rfl⟩ := hregions
  refine length_filterMap_add (fun c hc => ?_) fun c n r hn hr => ?_
  · rw [decide_eq_true_iff, h.annotated_iff s.path (Location.mem_descendants.1 hc)]
    simp only [hline, hregion]
  · exact ((hline c n).1 hn).not_marks r ((hregion c r).1 hr)

/-- Of the three annotations two mark a region, and the one in the last line is noted. -/
theorem annotations_accounted_nested :
    ∃ (lines : List Int) (regions : List Region),
      extract ["comment"] (fun _ => some nestedTree) nestedText =
        ⟨lines.map (fun n => .annotationWithoutSibling "a.py" (.int n))
          ++ [.fileExtracted "a.py" regions.length], .ok regions⟩ ∧
      lines.length = 1 ∧ regions.length = 2 := by
  have hjudged : ∀ c ∈ (Location.root nestedTree).descendants, c.tree.span.NonNegative ∧
      (judge "a.py" (Utf8.encodeString nestedText.content) c :
        Except Fault (Finding Region)).isOk = true := by
    decide +kernel
  have hlegible : Legible ["comment"] (Utf8.encodeString nestedText.content) nestedTree :=
    legible_of_judged hjudged
  obtain ⟨lines, regions, hextract, -, -, hlength⟩ :=
    annotations_accounted bytes_nestedText (fun _ => some nestedTree) rfl hlegible
  have hregions : regions = nestedRegions := by
    have hresult := result_nestedText
    rw [hextract] at hresult
    exact Except.ok.inj hresult
  have hannotated : ((Location.root nestedTree).descendants.filter
      (Annotated ["comment"] (Utf8.encodeString nestedText.content))).length = 3 := by
    decide +kernel
  rw [hannotated, hregions] at hlength
  exact ⟨lines, regions, hextract, Nat.add_right_cancel hlength, by rw [hregions]; rfl⟩

end Extraction

end Drift
