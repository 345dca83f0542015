import Drift.Proofs.Notes
import Drift.Proofs.Scan
import Drift.Proofs.Snapshot.Encoding

/-!
# Trees on the boundaries of characters

* `Utf8.Boundary` — an offset in the bytes of a text that stands between two of its characters.
* `Span.Fits` — a node lies between such offsets and its points are numbers that can be written.
* `Logged.Ends` — how a computation ends, said of its result and of its failure apart.
* `Extraction.legible_of_fits` — a tree of such nodes can be read throughout.
* **`Scan.ends_run`** — a scan by trees of such nodes gives regions that can be written, or a report.
-/

namespace Drift

/-! ## Boundaries -/

namespace Utf8

/-- The offset stands **between two characters** of the text, or at one of its ends. -/
def Boundary (text : String) (offset : Int) : Prop :=
  ∃ before after, text.toList = before ++ after ∧ offset = (encode before).length

instance (text : String) (offset : Int) : Decidable (Boundary text offset) :=
  decidable_of_iff (∃ k ≤ text.toList.length, offset = (encode (text.toList.take k)).length) <| by
    constructor
    · rintro ⟨k, -, rfl⟩
      exact ⟨_, text.toList.drop k, (List.take_append_drop k _).symm, rfl⟩
    · rintro ⟨before, after, htext, rfl⟩
      refine ⟨before.length, ?_, ?_⟩
      · rw [htext, List.length_append]
        exact Nat.le_add_right _ _
      · rw [htext, List.take_left]

theorem encode_append (s t : List Char) : encode (s ++ t) = encode s ++ encode t := by
  simp only [encode_eq_flatMap, List.flatMap_append]

/-- The bytes between two boundaries are **those of a text**. -/
theorem slice_boundaries {text : String} {start stop : Int} (hstart : Boundary text start)
    (hstop : Boundary text stop) :
    ∃ part, (encodeString text : Bytes).slice start stop = encodeString part := by
  obtain ⟨before, rest, htext, rfl⟩ := hstart
  obtain ⟨upTo, after, htext', rfl⟩ := hstop
  rcases List.prefix_or_prefix_of_prefix (htext ▸ List.prefix_append before rest)
    (htext' ▸ List.prefix_append upTo after) with ⟨middle, rfl⟩ | ⟨middle, rfl⟩
  · refine ⟨String.ofList middle, ?_⟩
    rw [encodeString, htext', encode_append, encode_append before, Bytes.slice_append, encodeString,
      String.toList_ofList]
  · -- The second boundary stands before the first: there is nothing between them.
    refine ⟨"", ?_⟩
    rw [encode_append, List.length_append, Bytes.slice_of_le (Nat.le_add_right _ _)]
    rfl

end Utf8

/-- A number of a point that is not negative and **can be written**. -/
def Span.Bounded (n : Int) : Prop := 0 ≤ n ∧ n ≤ MessagePack.maxNumber

/-- A node lies **between characters** of a text, and its points can be written. -/
structure Span.Fits (text : String) (s : Span Int) : Prop where
  startByte : Utf8.Boundary text s.startByte
  stopByte : Utf8.Boundary text s.stopByte
  startPoint : Bounded s.startPoint.1 ∧ Bounded s.startPoint.2
  stopPoint : Bounded s.stopPoint.1 ∧ Bounded s.stopPoint.2

instance (n : Int) : Decidable (Span.Bounded n) := inferInstanceAs (Decidable (_ ∧ _))

instance (text : String) (s : Span Int) : Decidable (s.Fits text) :=
  decidable_of_iff ((Utf8.Boundary text s.startByte ∧ Utf8.Boundary text s.stopByte) ∧
      (Span.Bounded s.startPoint.1 ∧ Span.Bounded s.startPoint.2) ∧
        Span.Bounded s.stopPoint.1 ∧ Span.Bounded s.stopPoint.2)
    ⟨fun ⟨⟨hstart, hstop⟩, hpoint, hpoint'⟩ => ⟨hstart, hstop, hpoint, hpoint'⟩,
      fun h => ⟨⟨h.startByte, h.stopByte⟩, h.startPoint, h.stopPoint⟩⟩

namespace Span.Fits

variable {text : String} {s : Span Int}

theorem nonNegative (h : s.Fits text) : s.NonNegative :=
  ⟨⟨h.startPoint.1.1, h.startPoint.2.1⟩, h.stopPoint.1.1, h.stopPoint.2.1⟩

theorem reads {t : Tree Int} (h : t.span.Fits text) :
    ∃ part, t.Reads (Utf8.encodeString text) part :=
  Utf8.slice_boundaries h.startByte h.stopByte

theorem storable {r : Region} (h : s.Fits text) (hcovers : s.Covers r.start r.stop) :
    r.Storable := by
  obtain ⟨⟨-, hrow⟩, -, hcolumn⟩ := h.startPoint
  obtain ⟨⟨-, hrow'⟩, -, hcolumn'⟩ := h.stopPoint
  rw [hcovers.1] at hrow hcolumn
  rw [hcovers.2] at hrow' hcolumn'
  exact Snapshot.storable_iff.2
    ⟨⟨Int.ofNat_le.1 hrow, Int.ofNat_le.1 hcolumn⟩, Int.ofNat_le.1 hrow', Int.ofNat_le.1 hcolumn'⟩

end Span.Fits

/-- All nodes below the root of a tree lie between characters of a text. -/
def Tree.Fits (text : String) (t : Tree Int) : Prop :=
  ∀ c, (Location.root t).Below c → c.tree.span.Fits text

/-! ## Computations -/

namespace Logged

variable {α β : Type} {m : Logged α} {P P' : α → Prop} {Q Q' : Failure → Prop}

/-- How a computation **ends**: with a result of one kind, or with a failure of another. -/
structure Ends (m : Logged α) (P : α → Prop) (Q : Failure → Prop) : Prop where
  ok : ∀ a, m.result = .ok a → P a
  error : ∀ f, m.result = .error f → Q f

theorem ends_of_ok {a : α} (hm : m.result = .ok a) (h : P a) : m.Ends P Q where
  ok _ ha := Except.ok.inj (hm.symm.trans ha) ▸ h
  error _ hf := by cases hm.symm.trans hf

theorem ends_of_error {f : Failure} (hm : m.result = .error f) (h : Q f) : m.Ends P Q where
  ok _ ha := by cases hm.symm.trans ha
  error _ hf := Except.error.inj (hm.symm.trans hf) ▸ h

theorem Ends.mono (h : m.Ends P Q) (hP : ∀ a, P a → P' a) (hQ : ∀ f, Q f → Q' f) :
    m.Ends P' Q' where
  ok a ha := hP a (h.ok a ha)
  error f hf := hQ f (h.error f hf)

theorem Ends.bind {f : α → Logged β} {R : β → Prop} (hm : m.Ends P Q)
    (hf : ∀ a, m.result = .ok a → P a → (f a).Ends R Q) : (m.bind f).Ends R Q := by
  unfold Logged.bind
  cases hresult : m.result with
  | error e => exact ends_of_error rfl (hm.error e hresult)
  | ok a =>
    have hfa := hf a hresult (hm.ok a hresult)
    exact ⟨fun b hb => hfa.ok b hb, fun e he => hfa.error e he⟩

theorem ends_concat {f : α → Logged (List β)} {R : β → Prop} {as : List α}
    (h : ∀ a ∈ as, (f a).Ends (∀ b ∈ ·, R b) Q) : (concat f as).Ends (∀ b ∈ ·, R b) Q := by
  induction as with
  | nil => exact ends_of_ok rfl nofun
  | cons a as ih =>
    rw [List.forall_mem_cons] at h
    refine h.1.bind fun first _ hfirst => (ih h.2).bind fun others _ hothers => ends_of_ok rfl ?_
    exact List.forall_mem_append.2 ⟨hfirst, hothers⟩

end Logged

/-! ## Scanning -/

/-- A failure is a **report** whose note can be written. -/
def Failure.IsReport (f : Failure) : Prop := ∃ i, f = .issue i ∧ (Event.commandFailed i).Writable

namespace Extraction

variable {kinds : List String} {text : String}

/-- A tree whose nodes lie between characters **can be read** throughout. -/
theorem legible_of_fits {t : Tree Int} (h : t.Fits text) :
    Legible kinds (Utf8.encodeString text) t where
  points c hc := (h c hc).nonNegative
  texts := by
    rintro ⟨c, hc, -, hnone | ⟨_, t', -, hnext, hnone⟩⟩
    · exact hnone (h c hc).reads
    · exact hnone (h t' (hnext.below hc)).reads

theorem ends_extract {s : Source} {parse : Parse Int} {Q : Failure → Prop}
    (hbytes : s.bytes = .ok (Utf8.encodeString text))
    (htrees : ∀ t, parse (Utf8.encodeString text) = some t → t.Fits text) :
    (extract kinds parse s).Ends (∀ r ∈ ·, Region.Storable r) Q := by
  cases hparse : parse (Utf8.encodeString text) with
  | none =>
    rw [extract_of_none hbytes hparse]
    exact Logged.ends_of_ok rfl nofun
  | some t =>
    have hfits := htrees t hparse
    have hlegible : Legible kinds (Utf8.encodeString text) t := legible_of_fits hfits
    rw [extract_of_some hbytes hparse]
    refine Logged.ends_of_ok (extractFrom_eq_ok hlegible.points hlegible.texts) fun r hr => ?_
    obtain ⟨c, hc, hmarked⟩ := List.mem_filterMap.1 hr
    obtain ⟨-, -, t', hnext, -, hcovers⟩ := marked?_eq_some_iff.1 hmarked
    exact (hfits t' (hnext.below (Location.mem_descendants.1 hc))).storable hcovers

end Extraction

namespace Scan

variable {fs : FileSystem} {parse : Parse Int}

theorem ends_regionsIn (htrees : ∀ text t, parse (Utf8.encodeString text) = some t → t.Fits text)
    {c : Candidate} (hnul : '\x00' ∉ c.path.text.toList) :
    (regionsIn fs parse c).Ends (∀ r ∈ ·, r.Storable) Failure.IsReport := by
  refine Logged.Ends.bind (P := fun s => ∃ content, s.bytes = .ok (Utf8.encodeString content)) ?_
    fun s _ hs => ?_
  · rcases Source.ofFile_cases fs hnul with ⟨content, hread⟩ | ⟨reason, hunread⟩
    · exact Logged.ends_of_ok hread ⟨content, Source.bytes_default _ _⟩
    · exact Logged.ends_of_error hunread ⟨_, rfl, rfl⟩
  · obtain ⟨content, hbytes⟩ := hs
    exact Extraction.ends_extract hbytes (htrees content)

end Scan

/-! ## Finding files -/

theorem Entry.NulFree.get? {e below : Entry} {names : List String} (h : e.NulFree)
    (hbelow : e.get? names = some below) : below.NulFree := by
  induction names generalizing e with
  | nil => exact Option.some.inj hbelow ▸ h
  | cons name names ih =>
    rw [Entry.get?] at hbelow
    split at hbelow
    · next child hchild =>
      cases h with
      | directory _ hentries => exact ih (hentries _ (Keyed.mem_of_get? hchild)) hbelow
      | file | link | sink => cases hchild
    · cases hbelow

theorem FileSystem.nulFree_of_entry? {fs : FileSystem} {p : Path} {e : Entry}
    (h : fs.tree.NulFree) (he : fs.entry? p = .ok (some e)) : e.NulFree := by
  obtain ⟨names, hlocate⟩ := locate_of_entry? he
  cases in_of_locate hlocate with
  | taken hget => exact h.get? hget

theorem Discovery.candidates_cases {fs : FileSystem} {root : Path} (hnames : fs.tree.NulFree)
    (hroot : '\x00' ∉ root.text.toList) (extensions : List String) :
    (∃ fault, fs.entry? root = .error fault ∧
      candidates fs root extensions = .error (.fault fault)) ∨
    candidates fs root extensions = .error (.issue (.sourceNotFound root.text)) ∨
    ∃ files, candidates fs root extensions = .ok files ∧
      ∀ c ∈ files, '\x00' ∉ c.path.text.toList := by
  cases hentry : fs.entry? root with
  | error fault => exact .inl ⟨fault, rfl, by unfold candidates; simp only [hentry]⟩
  | ok found =>
    right
    cases found with
    | none => left; unfold candidates; simp only [hentry]
    | some e =>
      right
      cases e with
      | directory entries =>
        obtain ⟨files, hfiles, hnul⟩ := candidates_of_directory hentry
          (FileSystem.nulFree_of_entry? hnames hentry) extensions
        exact ⟨_, hfiles, List.forall_mem_map.2 hnul⟩
      | sink => exact ⟨[], by unfold candidates; simp only [hentry], nofun⟩
      | file | link =>
        refine ⟨if selects extensions root then [⟨root, false⟩] else [], ?_, fun c hc => ?_⟩
        · unfold candidates
          simp only [hentry]
        · split at hc
          · rw [List.mem_singleton.1 hc]
            exact hroot
          · cases hc

theorem Registry.isReport_of_parser {loader : Loader} {r r' : Registry} {name : String}
    {events : List Event} {failure : Failure}
    (h : r.parser loader name = (r', ⟨events, .error failure⟩)) : failure.IsReport := by
  have hgiven := parser_given loader r name
  rw [h] at hgiven
  cases hgiven with
  | unknown | refused => exact ⟨_, rfl, rfl⟩

namespace Scan

variable {fs : FileSystem} {root language : String}

theorem ends_framed {m : Logged (List Region)} {P : List Region → Prop} {Q : Failure → Prop}
    (h : m.Ends P Q) : (framed root language m).Ends P Q := by
  obtain ⟨events, result⟩ := m
  cases result with
  | ok regions =>
    rw [framed_ok]
    exact Logged.ends_of_ok rfl (h.ok regions rfl)
  | error failure =>
    rw [framed_error]
    exact Logged.ends_of_error rfl (h.error failure rfl)

/-- How a scan **ends** by trees whose nodes lie between characters: with regions that can be
written, with a report, or with the system's refusal to look at the root. -/
theorem ends_regions {grammars : Grammars} (r : Registry) (language : String)
    (extensions : List String) (hnames : fs.tree.NulFree)
    (hroot : '\x00' ∉ (Path.ofString root).text.toList)
    (htrees : ∀ l text t, grammars.parse l (Utf8.encodeString text) = some t → t.Fits text) :
    (regions fs grammars r root language extensions).2.Ends (∀ r ∈ ·, r.Storable) fun f =>
      f.IsReport ∨ ∃ fault, fs.entry? (Path.ofString root) = .error fault ∧ f = .fault fault := by
  unfold regions byParser
  rcases hparser : r.parser grammars.load language with ⟨r', events, failure | parser⟩
  · exact Logged.ends_of_error rfl (.inl (Registry.isReport_of_parser hparser))
  · have hbelow : (regionsBelow fs (grammars.parse parser.language) (Path.ofString root)
        extensions).Ends (∀ r ∈ ·, r.Storable) fun f => f.IsReport ∨
          ∃ fault, fs.entry? (Path.ofString root) = .error fault ∧ f = .fault fault := by
      unfold regionsBelow
      rcases Discovery.candidates_cases hnames hroot (Extensions.normalize extensions) with
        ⟨fault, hfault, hfiles⟩ | hfiles | ⟨files, hfiles, hnul⟩
      · rw [hfiles]
        exact Logged.ends_of_error rfl (.inr ⟨fault, hfault, rfl⟩)
      · rw [hfiles]
        exact Logged.ends_of_error rfl (.inl ⟨_, rfl, rfl⟩)
      · rw [hfiles]
        exact (Logged.ends_concat fun c hc => ends_regionsIn (htrees _) (hnul c hc)).mono
          (fun _ h => h) fun _ => .inl
    exact ⟨(ends_framed hbelow).ok, (ends_framed hbelow).error⟩

end Scan

end Drift
