import Drift.Extraction
import Drift.Proofs.Result
import Drift.Proofs.Utf8
import Drift.Proofs.Walk

/-!
# What is extracted from a source

* `Tree.Reads` — the bytes of a node are those of a text.
* `Location.FirstNamed` — the first named sibling that follows a node.
* `Extraction.Marks` — a comment marks a region, said without the way it is found;
  `judge_eq_region_iff` is the agreement with the judgement of a comment.
* `Extraction.Unreadable` — bytes of a comment, or of what it annotates, are no text;
  `exists_judge_eq_error_iff` says that nothing else makes a judgement fail.
* `judgeOnto_of_ok`, `judgeOnto_of_error` — the run over all comments.
* **`extract_exactly_marked`** — a source has the regions that its comments mark, in pre-order, and
  extraction fails exactly where bytes are no text.
-/

namespace Drift

variable {ν : Type}

/-! ## Texts, siblings and points -/

/-- The bytes of a node **are those of a text**. -/
def Tree.Reads (bytes : Bytes) (t : Tree Int) (text : String) : Prop :=
  bytes.slice t.span.startByte t.span.stopByte = Utf8.encodeString text

/-- `t` is the **first named sibling** that follows `c`. -/
def Location.FirstNamed (c t : Location ν) : Prop :=
  (∃ skipped, c.following = skipped ++ t.tree :: t.following ∧ ∀ s ∈ skipped, s.named = false) ∧
    t.tree.named = true ∧ t.above = c.above

/-- The points of a node are at these positions. -/
def Span.Covers (s : Span Int) (start stop : Position) : Prop :=
  s.startPoint = (↑start.row, ↑start.column) ∧ s.stopPoint = (↑stop.row, ↑stop.column)

/-- No point of a node is negative. -/
def Span.NonNegative (s : Span Int) : Prop :=
  (0 ≤ s.startPoint.1 ∧ 0 ≤ s.startPoint.2) ∧ 0 ≤ s.stopPoint.1 ∧ 0 ≤ s.stopPoint.2

instance (s : Span Int) : Decidable s.NonNegative :=
  inferInstanceAs (Decidable ((_ ∧ _) ∧ _ ∧ _))

theorem Location.nextNamedSibling?_eq_some_iff {c t : Location ν} :
    c.nextNamedSibling? = some t ↔ c.FirstNamed t := by
  obtain ⟨tree, following, above⟩ := c
  unfold nextNamedSibling? FirstNamed
  induction following with
  | nil => simp
  | cons s ss ih =>
    cases hs : s.named with
    | true =>
      rw [List.dropWhile_cons_of_neg (by simp [hs])]
      constructor
      · intro h
        cases h
        exact ⟨⟨[], rfl, nofun⟩, hs, rfl⟩
      · rintro ⟨⟨skipped, heq, hskipped⟩, -, habove⟩
        cases skipped with
        | nil =>
          obtain ⟨rfl, rfl⟩ := List.cons.inj heq
          rw [← habove]
        | cons x skipped =>
          obtain ⟨rfl, -⟩ := List.cons.inj heq
          rw [hskipped s List.mem_cons_self] at hs
          cases hs
    | false =>
      rw [List.dropWhile_cons_of_pos (by simp [hs])]
      refine ih.trans ⟨?_, ?_⟩
      · rintro ⟨⟨skipped, rfl, hskipped⟩, hnamed⟩
        exact ⟨⟨s :: skipped, rfl, List.forall_mem_cons.2 ⟨hs, hskipped⟩⟩, hnamed⟩
      · rintro ⟨⟨skipped, heq, hskipped⟩, hnamed, habove⟩
        cases skipped with
        | nil =>
          obtain ⟨rfl, -⟩ := List.cons.inj heq
          rw [hs] at hnamed
          cases hnamed
        | cons x skipped =>
          obtain ⟨-, rfl⟩ := List.cons.inj heq
          exact ⟨⟨skipped, rfl, (List.forall_mem_cons.1 hskipped).2⟩, hnamed, habove⟩

theorem Location.FirstNamed.follows {c t : Location ν} (h : c.FirstNamed t) : Follows c t :=
  ⟨⟨h.1.choose, h.1.choose_spec.1⟩, h.2.2⟩

theorem Location.FirstNamed.below {l c t : Location ν} (h : c.FirstNamed t) (hc : Below l c) :
    Below l t :=
  h.follows.below hc

theorem Position.ofPair_eq_ok_iff {point : Int × Int} {p : Position} :
    ofPair point = .ok p ↔ point = (↑p.row, ↑p.column) := by
  rw [ofPair, Prod.ext_iff, ← ofCoordinates_eq_ok_iff]
  cases ofCoordinates point.1 point.2 <;> simp [Except.mapError]

theorem Span.NonNegative.covers {s : Span Int} (h : s.NonNegative) :
    ∃ start stop, s.Covers start stop := by
  obtain ⟨⟨hrow, hcolumn⟩, hrow', hcolumn'⟩ := h
  refine ⟨⟨s.startPoint.1.toNat, s.startPoint.2.toNat⟩,
    ⟨s.stopPoint.1.toNat, s.stopPoint.2.toNat⟩, ?_, ?_⟩
  · exact Prod.ext (Int.toNat_of_nonneg hrow).symm (Int.toNat_of_nonneg hcolumn).symm
  · exact Prod.ext (Int.toNat_of_nonneg hrow').symm (Int.toNat_of_nonneg hcolumn').symm

namespace Extraction

/-! ## What a comment marks -/

variable (kinds : List String) (path : String) (bytes : Bytes)

/-- A node of one of the kinds that are comments, whose text is a **control annotation**. -/
structure Annotates (c : Location Int) (text : String) : Prop where
  kind : c.tree.kind ∈ kinds
  reads : c.tree.Reads bytes text
  control : ControlComment.isControl text = true

/-- A comment **marks a region**: the comment is a control annotation, and the region is the first
named sibling that follows it. -/
structure Marks (c : Location Int) (r : Region) : Prop where
  annotates : Annotates kinds bytes c r.comment
  path_eq : r.path = path
  target : ∃ t, c.FirstNamed t ∧ t.tree.Reads bytes r.content ∧ t.tree.span.Covers r.start r.stop

/-- The bytes of a comment, or of the first named sibling behind a control annotation, are
**no text**. -/
def Unreadable (c : Location Int) : Prop :=
  c.tree.kind ∈ kinds ∧
    ((¬ ∃ text, c.tree.Reads bytes text) ∨
      ∃ text t, Annotates kinds bytes c text ∧ c.FirstNamed t ∧
        ¬ ∃ content, t.tree.Reads bytes content)

variable {kinds path bytes}

/-! ## One comment -/

theorem nodeText_eq_ok_iff {t : Tree Int} {text : String} :
    nodeText bytes t = .ok text ↔ t.Reads bytes text := by
  rw [Tree.Reads, ← Utf8.decodeString_eq_ok_iff]
  change (Utf8.decodeString _).mapError _ = _ ↔ _
  cases Utf8.decodeString (bytes.slice t.span.startByte t.span.stopByte) <;>
    simp [Except.mapError]

theorem nodeText_eq_error {t : Tree Int} (h : ¬ ∃ text, t.Reads bytes text) :
    ∃ fault, nodeText bytes t = .error (.undecodable fault) := by
  change ∃ fault, (Utf8.decodeString _).mapError _ = _
  cases hd : Utf8.decodeString (bytes.slice t.span.startByte t.span.stopByte) with
  | error => exact ⟨_, rfl⟩
  | ok text => exact absurd ⟨text, Utf8.decodeString_eq_ok_iff.1 hd⟩ h

theorem regionOf_eq_ok_iff {comment : String} {t : Tree Int} {r : Region} :
    regionOf path comment bytes t = .ok r ↔
      r.path = path ∧ r.comment = comment ∧ t.Reads bytes r.content ∧
        t.span.Covers r.start r.stop := by
  unfold regionOf
  simp only [bind_eq_ok_iff, nodeText_eq_ok_iff]
  constructor
  · rintro ⟨content, hcontent, h⟩
    obtain ⟨start, hstart, h⟩ := bind_eq_ok_iff.1 h
    obtain ⟨stop, hstop, h⟩ := bind_eq_ok_iff.1 h
    cases h
    exact ⟨rfl, rfl, hcontent, Position.ofPair_eq_ok_iff.1 hstart,
      Position.ofPair_eq_ok_iff.1 hstop⟩
  · rintro ⟨rfl, rfl, hcontent, hstart, hstop⟩
    refine ⟨r.content, hcontent, bind_eq_ok_iff.2 ⟨r.start, Position.ofPair_eq_ok_iff.2 hstart, ?_⟩⟩
    exact bind_eq_ok_iff.2 ⟨r.stop, Position.ofPair_eq_ok_iff.2 hstop, rfl⟩

theorem judge_of_reads {c : Location Int} {text : String} (h : c.tree.Reads bytes text) :
    judge path bytes c =
      if ControlComment.isControl text = false then .ok .remark
      else match c.nextNamedSibling? with
        | none => .ok (.alone (.int (c.tree.span.startPoint.1 + 1)))
        | some t => (regionOf path text bytes t.tree).map .region := by
  unfold judge
  rw [nodeText_eq_ok_iff.2 h]
  change (if (!ControlComment.isControl text) = true then _ else _) = _
  refine ite_congr (Bool.not_eq_true' _) (fun _ => rfl) fun _ => ?_
  cases c.nextNamedSibling? with
  | none => rfl
  | some t => cases regionOf path text bytes t.tree <;> rfl

/-- A judgement gives a region exactly when the comment marks it. -/
theorem judge_eq_region_iff {c : Location Int} {r : Region} (hkind : c.tree.kind ∈ kinds) :
    judge path bytes c = .ok (.region r) ↔ Marks kinds path bytes c r := by
  constructor
  · intro h
    obtain ⟨text, htext, -⟩ := bind_eq_ok_iff.1 h
    have hreads := nodeText_eq_ok_iff.1 htext
    rw [judge_of_reads hreads] at h
    split at h
    · cases h
    next hcontrol =>
    split at h
    · cases h
    next t ht =>
    cases hr : regionOf path text bytes t.tree with
    | error => rw [hr] at h; cases h
    | ok r' =>
      rw [hr] at h
      cases h
      obtain ⟨hpath, rfl, hcontent, hcovers⟩ := regionOf_eq_ok_iff.1 hr
      exact ⟨⟨hkind, hreads, eq_true_of_ne_false hcontrol⟩, hpath, t,
        Location.nextNamedSibling?_eq_some_iff.1 ht, hcontent, hcovers⟩
  · rintro ⟨⟨-, hreads, hcontrol⟩, hpath, t, ht, hcontent, hcovers⟩
    have hr : regionOf path r.comment bytes t.tree = .ok r :=
      regionOf_eq_ok_iff.2 ⟨hpath, rfl, hcontent, hcovers⟩
    rw [judge_of_reads hreads, if_neg (by simp [hcontrol])]
    simp only [Location.nextNamedSibling?_eq_some_iff.2 ht, hr]
    rfl

variable (path) in
theorem judge_eq_error_of_unreadable {c : Location Int} (h : Unreadable kinds bytes c) :
    ∃ fault, (judge path bytes c : Except Fault (Finding Region)) =
      .error (.undecodable fault) := by
  obtain ⟨-, hcomment | ⟨text, t, ⟨-, hreads, hcontrol⟩, ht, htarget⟩⟩ := h
  · obtain ⟨fault, hfault⟩ := nodeText_eq_error hcomment
    exact ⟨fault, by unfold judge; rw [hfault]; rfl⟩
  · obtain ⟨fault, hfault⟩ := nodeText_eq_error htarget
    refine ⟨fault, ?_⟩
    rw [judge_of_reads hreads, if_neg (by simp [hcontrol])]
    simp only [Location.nextNamedSibling?_eq_some_iff.2 ht, regionOf, hfault]
    rfl

variable (path) in
theorem exists_judge_eq_ok {c : Location Int} (hkind : c.tree.kind ∈ kinds)
    (hpoints : ∀ t, c.FirstNamed t → t.tree.span.NonNegative) (h : ¬ Unreadable kinds bytes c) :
    ∃ f : Finding Region, judge path bytes c = .ok f := by
  obtain ⟨text, hreads⟩ : ∃ text, c.tree.Reads bytes text := by
    by_contra hnone
    exact h ⟨hkind, .inl hnone⟩
  rw [judge_of_reads hreads]
  split
  · exact ⟨_, rfl⟩
  next hcontrol =>
  split
  · exact ⟨_, rfl⟩
  next t ht =>
  have ht := Location.nextNamedSibling?_eq_some_iff.1 ht
  obtain ⟨content, hcontent⟩ : ∃ content, t.tree.Reads bytes content := by
    by_contra hnone
    exact h ⟨hkind, .inr ⟨text, t, ⟨hkind, hreads, eq_true_of_ne_false hcontrol⟩, ht,
      hnone⟩⟩
  obtain ⟨start, stop, hcovers⟩ := (hpoints t ht).covers
  have hr : regionOf path text bytes t.tree = .ok ⟨path, text, content, start, stop⟩ :=
    regionOf_eq_ok_iff.2 ⟨rfl, rfl, hcontent, hcovers⟩
  rw [hr]
  exact ⟨_, rfl⟩

/-! ## All comments -/

/-- The region that a comment marks, if it is a comment and marks one. -/
def marked? (kinds : List String) (path : String) (bytes : Bytes) (c : Location Int) :
    Option Region :=
  if c.tree.kind ∈ kinds then (judge path bytes c).toOption.bind regionOf? else none

theorem marked?_eq_some_iff {c : Location Int} {r : Region} :
    marked? kinds path bytes c = some r ↔ Marks kinds path bytes c r := by
  unfold marked?
  split
  · next hkind =>
    rw [← judge_eq_region_iff hkind]
    cases judge path bytes c with
    | error => simp [Except.toOption]
    | ok f => cases f <;> simp [Except.toOption, regionOf?]
  · next hkind => exact ⟨nofun, fun h => absurd h.annotates.kind hkind⟩

theorem comments_eq (t : Tree Int) :
    comments kinds t = (Location.root t).descendants.filter (·.tree.kind ∈ kinds) := by
  rw [comments, walk_eq_filterMap, ← List.filterMap_eq_filter]
  refine List.filterMap_congr fun l _ => ?_
  simp [ControlComment.isComment, Option.guard]

/-- Comments that can all be judged are all judged, in their order. -/
theorem judgeOnto_of_ok (done : List (Finding Region)) {ls : List (Location Int)}
    (h : ∀ l ∈ ls, ∃ f : Finding Region, judge path bytes l = .ok f) :
    ∃ findings, judgeOnto path bytes done ls = (done.reverse ++ findings, none) ∧
      ∀ {α : Type} (part? : Finding Region → Option α), findings.filterMap part? =
        ls.filterMap fun l => (judge path bytes l).toOption.bind part? := by
  induction ls generalizing done with
  | nil => exact ⟨[], by rw [judgeOnto, List.append_nil], fun _ => rfl⟩
  | cons l ls ih =>
    rw [List.forall_mem_cons] at h
    obtain ⟨f, hf⟩ := h.1
    obtain ⟨findings, hall, hparts⟩ := ih (f :: done) h.2
    refine ⟨f :: findings, ?_, fun part? => ?_⟩
    · simp only [judgeOnto, hf, hall, List.reverse_cons, List.append_assoc, List.singleton_append]
    · rw [List.filterMap_cons, List.filterMap_cons, hparts, hf]
      rfl

variable (path) in
/-- The first comment that cannot be judged ends the run. -/
theorem judgeOnto_of_error (done : List (Finding Region)) {ls : List (Location Int)}
    (h : ∃ l ∈ ls, ∃ fault, (judge path bytes l : Except Fault (Finding Region)) = .error fault) :
    ∃ l ∈ ls, ∃ fault, (judge path bytes l : Except Fault (Finding Region)) = .error fault ∧
      ∃ findings, judgeOnto path bytes done ls = (findings, some fault) := by
  induction ls generalizing done with
  | nil => exact absurd h.choose_spec.1 List.not_mem_nil
  | cons l ls ih =>
    cases hl : (judge path bytes l : Except Fault (Finding Region)) with
    | error fault =>
      exact ⟨l, List.mem_cons_self, fault, hl, done.reverse, by simp only [judgeOnto, hl]⟩
    | ok f =>
      obtain ⟨l', hl', fault, hfault⟩ := h
      rcases List.mem_cons.1 hl' with rfl | hl'
      · rw [hl] at hfault
        cases hfault
      obtain ⟨k, hk, fault, hfault, findings, hall⟩ :=
        ih (f :: done) ⟨l', hl', fault, hfault⟩
      exact ⟨k, List.mem_cons_of_mem _ hk, fault, hfault, findings, by
        simp only [judgeOnto, hl, hall]⟩

/-! ## Sources -/

theorem result_extractFrom (kinds : List String) (path : String) (bytes : Bytes) (t : Tree Int) :
    (extractFrom kinds path bytes t : Logged (List Region)).result =
      match judgeOnto path bytes [] (comments kinds t) with
      | (_, some fault) => .error (.fault fault)
      | (findings, none) => .ok (findings.filterMap regionOf?) := by
  unfold extractFrom
  rcases judgeOnto path bytes [] (comments kinds t) with ⟨findings, _ | fault⟩ <;> rfl

theorem mem_comments {t : Tree Int} {l : Location Int} :
    l ∈ comments kinds t ↔ (Location.root t).Below l ∧ l.tree.kind ∈ kinds := by
  rw [comments_eq, List.mem_filter, Location.mem_descendants, decide_eq_true_eq]

/-- The comments of a tree whose points are positions are judged **unless one is unreadable**. -/
theorem exists_judge_eq_error_iff {t : Tree Int} {l : Location Int}
    (hpoints : ∀ l, (Location.root t).Below l → l.tree.span.NonNegative)
    (hl : l ∈ comments kinds t) :
    (∃ fault, (judge path bytes l : Except Fault (Finding Region)) = .error fault) ↔
      Unreadable kinds bytes l := by
  obtain ⟨hbelow, hkind⟩ := mem_comments.1 hl
  constructor
  · rintro ⟨fault, hfault⟩
    by_contra h
    obtain ⟨f, hf⟩ := exists_judge_eq_ok path hkind
      (fun t' ht' => hpoints t' (ht'.below hbelow)) h
    rw [hf] at hfault
    cases hfault
  · intro h
    obtain ⟨fault, hfault⟩ := judge_eq_error_of_unreadable path h
    exact ⟨_, hfault⟩

theorem extractFrom_eq_error {t : Tree Int}
    (hpoints : ∀ l, (Location.root t).Below l → l.tree.span.NonNegative)
    (h : ∃ l, (Location.root t).Below l ∧ Unreadable kinds bytes l) :
    ∃ fault, (extractFrom kinds path bytes t : Logged (List Region)).result =
      .error (.fault (.undecodable fault)) := by
  obtain ⟨l, hbelow, hl⟩ := h
  have hmem : l ∈ comments kinds t := mem_comments.2 ⟨hbelow, hl.1⟩
  obtain ⟨k, hk, fault, hfault, findings, hrun⟩ := judgeOnto_of_error path []
    ⟨l, hmem, (exists_judge_eq_error_iff hpoints hmem).2 hl⟩
  obtain ⟨flaw, hflaw⟩ := judge_eq_error_of_unreadable path
    ((exists_judge_eq_error_iff hpoints hk).1 ⟨fault, hfault⟩)
  obtain rfl := Except.error.inj (hfault.symm.trans hflaw)
  exact ⟨flaw, by simp only [result_extractFrom, hrun]⟩

variable (path) in
theorem judge_comments_eq_ok {t : Tree Int}
    (hpoints : ∀ l, (Location.root t).Below l → l.tree.span.NonNegative)
    (h : ¬ ∃ l, (Location.root t).Below l ∧ Unreadable kinds bytes l) :
    ∀ l ∈ comments kinds t, ∃ f : Finding Region, judge path bytes l = .ok f := by
  intro l hl
  cases hj : (judge path bytes l : Except Fault (Finding Region)) with
  | ok f => exact ⟨f, rfl⟩
  | error fault =>
    exact absurd ⟨l, (mem_comments.1 hl).1,
      (exists_judge_eq_error_iff hpoints hl).1 ⟨fault, hj⟩⟩ h

theorem result_extractFrom_of_judged {t : Tree Int}
    (h : ∀ l ∈ comments kinds t, ∃ f : Finding Region, judge path bytes l = .ok f) :
    (extractFrom kinds path bytes t).result =
      .ok ((Location.root t).descendants.filterMap (marked? kinds path bytes)) := by
  obtain ⟨findings, hrun, hparts⟩ := judgeOnto_of_ok [] h
  rw [List.reverse_nil, List.nil_append] at hrun
  have hmarked : findings.filterMap regionOf? =
      (Location.root t).descendants.filterMap (marked? kinds path bytes) := by
    rw [hparts, comments_eq, List.filterMap_filter]
    simp only [decide_eq_true_eq]
    rfl
  simp only [result_extractFrom, hrun, hmarked]

theorem extractFrom_eq_ok {t : Tree Int}
    (hpoints : ∀ l, (Location.root t).Below l → l.tree.span.NonNegative)
    (h : ¬ ∃ l, (Location.root t).Below l ∧ Unreadable kinds bytes l) :
    (extractFrom kinds path bytes t).result =
      .ok ((Location.root t).descendants.filterMap (marked? kinds path bytes)) :=
  result_extractFrom_of_judged (judge_comments_eq_ok path hpoints h)

/-- A source **has exactly the regions that its comments mark**, one for each of them and in
pre-order. Without a tree it has none. Extraction fails exactly when the bytes of a comment, or
those of what a control annotation marks, are no text. -/
theorem extract_exactly_marked {s : Source} {bytes : Bytes} (hbytes : s.bytes = .ok bytes)
    (kinds : List String) (parse : Parse Int) :
    (parse bytes = none → (extract kinds parse s).result = .ok ([] : List Region)) ∧
    ∀ t, parse bytes = some t →
      (∀ l, (Location.root t).Below l → l.tree.span.NonNegative) →
      ((∃ fault, (extract kinds parse s : Logged (List Region)).result =
          .error (.fault (.undecodable fault))) ↔
        ∃ l, (Location.root t).Below l ∧ Unreadable kinds bytes l) ∧
      ((¬ ∃ l, (Location.root t).Below l ∧ Unreadable kinds bytes l) →
        ∃ region? : Location Int → Option Region,
          (∀ l r, region? l = some r ↔ Marks kinds s.path bytes l r) ∧
            (extract kinds parse s).result =
              .ok ((Location.root t).descendants.filterMap region?)) := by
  have hextract {t : Tree Int} (ht : parse bytes = some t) :
      (extract kinds parse s : Logged (List Region)) = extractFrom kinds s.path bytes t := by
    simp only [extract, hbytes, ht]
  refine ⟨fun hnone => ?_, fun t ht hpoints => ⟨⟨?_, fun h => ?_⟩, fun h => ?_⟩⟩
  · simp only [extract, hbytes, hnone]
  · rintro ⟨fault, hfault⟩
    by_contra h
    rw [hextract ht, extractFrom_eq_ok hpoints h] at hfault
    cases hfault
  · rw [hextract ht]
    exact extractFrom_eq_error hpoints h
  · refine ⟨marked? kinds s.path bytes, fun l r => marked?_eq_some_iff, ?_⟩
    rw [hextract ht]
    exact extractFrom_eq_ok hpoints h

/-! ### An annotation with an unnamed node behind it -/

/-- Two annotations, the second of which has nothing behind it. -/
def sampleText : Source := ⟨"a.py", "# control A\n;x\n# control B\n", "utf-8"⟩

/-- The tree of that source. -/
def sampleNodes : Tree Int :=
  .node "module" true ⟨0, 27, (0, 0), (3, 0)⟩
    [.node "comment" true ⟨0, 11, (0, 0), (0, 11)⟩ [],
     .node ";" false ⟨12, 13, (1, 0), (1, 1)⟩ [],
     .node "identifier" true ⟨13, 14, (1, 1), (1, 2)⟩ [],
     .node "comment" true ⟨15, 26, (2, 0), (2, 11)⟩ []]

/-- What the first annotation marks. -/
def sampleMarked : Region := ⟨"a.py", "# control A", "x", ⟨1, 1⟩, ⟨1, 2⟩⟩

/-- The unnamed node is passed over, and the second annotation marks nothing. -/
theorem extract_behind_unnamed_node :
    ∃ region? : Location Int → Option Region,
      (∀ l r, region? l = some r ↔
        Marks ["comment"] "a.py" (Utf8.encodeString sampleText.content) l r) ∧
      (Location.root sampleNodes).descendants.filterMap region? = [sampleMarked] := by
  have hbytes : sampleText.bytes = .ok (Utf8.encodeString sampleText.content) := rfl
  have hpoints : ∀ l ∈ (Location.root sampleNodes).descendants, l.tree.span.NonNegative := by
    decide +kernel
  have hjudged : ∀ l ∈ (Location.root sampleNodes).descendants,
      (judge "a.py" (Utf8.encodeString sampleText.content) l : Except Fault (Finding Region)).isOk
        = true := by
    decide +kernel
  have hreadable : ¬ ∃ l, (Location.root sampleNodes).Below l ∧
      Unreadable ["comment"] (Utf8.encodeString sampleText.content) l := by
    rintro ⟨l, hl, h⟩
    obtain ⟨fault, hfault⟩ := judge_eq_error_of_unreadable "a.py" h
    have := hjudged l (Location.mem_descendants.2 hl)
    rw [hfault] at this
    cases this
  have hresult : (extract ["comment"] (fun _ => some sampleNodes) sampleText).result
      = .ok [sampleMarked] := eq_ok_of_toOption (by decide +kernel)
  obtain ⟨region?, hregion, h⟩ := ((extract_exactly_marked hbytes ["comment"]
    fun _ => some sampleNodes).2 sampleNodes rfl
      fun l hl => hpoints l (Location.mem_descendants.2 hl)).2 hreadable
  exact ⟨region?, hregion, Except.ok.inj (h.symm.trans hresult)⟩

end Extraction

end Drift
