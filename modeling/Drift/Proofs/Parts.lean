import Drift.Proofs.Encoding
import Drift.Proofs.Pairing

/-!
# Parts of a source

* `Source.EndsAt`, `Source.Holds` — where in the bytes of a source the parts of its text stand.
* `Source.Holds.slice_eq` — in an encoding that lays texts down character by character, the bytes of
  a span are those of the part in it.
* `Extraction.Consulted` — the nodes whose text is asked for; `exists_unreadable_iff` says that only
  these can be unreadable.
* **`Extraction.extract_reads_parts_as_utf8`** — the parts of a source are what is extracted, where
  their bytes are their UTF-8; in UTF-8 and ASCII all of them are, in Latin-1 the ASCII ones, and in
  UTF-16 none but the empty one.
-/

namespace Drift

variable {kinds : List String} {bytes : Bytes}

/-! ## Parts -/

/-- The beginning of a source's text **ends at an offset** of its bytes. -/
structure Source.EndsAt (s : Source) (before : String) (offset : Int) : Prop where
  content_eq : ∃ after, s.content = before ++ after
  offset_eq : before = "" ∧ offset = 0 ∨
    ∃ front back, Source.bytes { s with content := before } = .ok front ∧
      s.bytes = .ok (front ++ back) ∧ offset = front.length

/-- The bytes of a span are those that a part of the source's text **occupies**. -/
def Source.Holds (s : Source) (span : Span Int) (part : String) : Prop :=
  ∃ before, s.EndsAt before span.startByte ∧ s.EndsAt (before ++ part) span.stopByte

namespace Source

variable {s : Source} {e : Encoding} {f : Char → Bytes}

theorem encode_of_bytes (hencoding : encodingOf .encoding s.encoding = .ok e)
    (hbytes : s.bytes = .ok bytes) : e.encode s.content.toList = .ok bytes := by
  unfold Source.bytes at hbytes
  rw [hencoding] at hbytes
  exact eq_ok_of_mapError hbytes

theorem EndsAt.offset_of_charwise {before : String} {offset : Int}
    (hencoding : encodingOf .encoding s.encoding = .ok e) (he : e.Charwise f)
    (h : s.EndsAt before offset) : offset = (before.toList.flatMap f).length := by
  rcases h.offset_eq with ⟨rfl, rfl⟩ | ⟨front, back, hfront, -, rfl⟩
  · rfl
  · rw [he _ _ (encode_of_bytes (s := { s with content := before }) hencoding hfront)]

/-- The bytes of a span **are those of the part** that it holds. -/
theorem Holds.slice_eq {span : Span Int} {part : String}
    (hencoding : encodingOf .encoding s.encoding = .ok e) (hbytes : s.bytes = .ok bytes)
    (he : e.Charwise f) (h : s.Holds span part) :
    bytes.slice span.startByte span.stopByte = part.toList.flatMap f := by
  obtain ⟨before, hstart, hstop⟩ := h
  obtain ⟨after, hcontent⟩ := hstop.content_eq
  rw [hstart.offset_of_charwise hencoding he, hstop.offset_of_charwise hencoding he,
    he _ _ (encode_of_bytes hencoding hbytes), hcontent, String.toList_append, String.toList_append,
    List.flatMap_append, List.flatMap_append, Bytes.slice_append]

end Source

theorem Tree.reads_iff {t : Tree Int} {text : String} :
    t.Reads bytes text ↔ bytes.slice t.span.startByte t.span.stopByte =
      text.toList.flatMap String.utf8EncodeChar := by
  rw [Tree.Reads, Utf8.encodeString, Utf8.encode_eq_flatMap]

namespace Extraction

/-! ## Nodes that are read -/

variable (kinds bytes) in
/-- The text of a node is **asked for**: it is a comment, or what an annotation marks. -/
inductive Consulted (t : Tree Int) : Location Int → Prop where
  | comment {c : Location Int} (hc : (Location.root t).Below c) (hkind : c.tree.kind ∈ kinds) :
    Consulted t c
  | target {c l : Location Int} (hc : (Location.root t).Below c)
    (hannotated : Annotated kinds bytes c) (hnext : c.FirstNamed l) : Consulted t l

theorem Consulted.below {t : Tree Int} {l : Location Int} (h : Consulted kinds bytes t l) :
    (Location.root t).Below l := by
  cases h with
  | comment hc => exact hc
  | target hc _ hnext => exact hnext.below hc

/-- A tree is unreadable where **a node that is asked for** has no text. -/
theorem exists_unreadable_iff {t : Tree Int} :
    (∃ c, (Location.root t).Below c ∧ Unreadable kinds bytes c) ↔
      ∃ l, Consulted kinds bytes t l ∧ ¬ ∃ text, l.tree.Reads bytes text := by
  constructor
  · rintro ⟨c, hc, hkind, hnone | ⟨text, target, hannotates, hnext, hnone⟩⟩
    · exact ⟨c, .comment hc hkind, hnone⟩
    · exact ⟨target, .target hc ⟨text, hannotates⟩ hnext, hnone⟩
  · rintro ⟨l, hl, hnone⟩
    cases hl with
    | comment hc hkind => exact ⟨l, hc, hkind, .inl hnone⟩
    | target hc hannotated hnext =>
      obtain ⟨text, hannotates⟩ := hannotated
      exact ⟨_, hc, hannotates.kind, .inr ⟨text, l, hannotates, hnext, hnone⟩⟩

/-! ## What is extracted -/

theorem exists_marksAt {path : String} {t : Tree Int} {regions : List Region} {r : Region}
    (h : (extractFrom kinds path bytes t).result = .ok regions) (hr : r ∈ regions) :
    ∃ c target, (Location.root t).Below c ∧ MarksAt kinds path bytes c target r := by
  rw [eq_marked_of_extractFrom h] at hr
  obtain ⟨c, hc, hmarked⟩ := List.mem_filterMap.1 hr
  obtain ⟨target, hmarks⟩ := marks_iff_exists.1 (marked?_eq_some_iff.1 hmarked)
  exact ⟨c, target, Location.mem_descendants.1 hc, hmarks⟩

/-- Regions whose texts are **parts of a source**: those that their comments and targets hold. -/
def FromParts (kinds : List String) (s : Source) (bytes : Bytes) (regions : List Region) : Prop :=
  ∀ r ∈ regions, ∃ c target, MarksAt kinds s.path bytes c target r ∧
    s.Holds c.tree.span r.comment ∧ s.Holds target.tree.span r.content

/-- Where the bytes of parts are their UTF-8, a tree of parts **gives regions of parts**. -/
theorem fromParts_of_reads {s : Source} {t : Tree Int}
    (hpoints : ∀ l, (Location.root t).Below l → l.tree.span.NonNegative)
    (hparts : ∀ l, (Location.root t).Below l → ∃ part, s.Holds l.tree.span part)
    (hreads : ∀ l part, Consulted kinds bytes t l → s.Holds l.tree.span part →
      l.tree.Reads bytes part) :
    ∃ regions, (extractFrom kinds s.path bytes t).result = .ok regions ∧
      FromParts kinds s bytes regions := by
  have hholds : ∀ {l text}, Consulted kinds bytes t l → l.tree.Reads bytes text →
      s.Holds l.tree.span text := by
    intro l text hl htext
    obtain ⟨part, hpart⟩ := hparts l hl.below
    have heq := (nodeText_eq_ok_iff.2 htext).symm.trans
      (nodeText_eq_ok_iff.2 (hreads l part hl hpart))
    rwa [Except.ok.inj heq]
  have hreadable : ¬ ∃ c, (Location.root t).Below c ∧ Unreadable kinds bytes c := by
    rw [exists_unreadable_iff]
    rintro ⟨l, hl, hnone⟩
    obtain ⟨part, hpart⟩ := hparts l hl.below
    exact hnone ⟨part, hreads l part hl hpart⟩
  refine ⟨_, extractFrom_eq_ok hpoints hreadable, fun r hr => ?_⟩
  obtain ⟨c, target, hc, hmarks⟩ := exists_marksAt (extractFrom_eq_ok hpoints hreadable) hr
  exact ⟨c, target, hmarks, hholds (.comment hc hmarks.annotates.kind) hmarks.annotates.reads,
    hholds (.target hc ⟨_, hmarks.annotates⟩ hmarks.next) hmarks.reads⟩

/-- **Texts are read as UTF-8, whatever the encoding of their source.** By a tree whose nodes hold
parts of the source, extraction gives regions with these parts when the bytes of the parts that are
asked for are their UTF-8. Otherwise regions have what the bytes are in UTF-8, and extraction fails
exactly where bytes that are asked for are nothing in UTF-8. All parts are read as themselves in
UTF-8 and ASCII; in Latin-1 only those are that are ASCII, and in UTF-16 only the empty one is. -/
theorem extract_reads_parts_as_utf8 {s : Source} {e : Encoding} {parse : Parse Int} {t : Tree Int}
    (hencoding : Source.encodingOf .encoding s.encoding = .ok e) (hbytes : s.bytes = .ok bytes)
    (hparse : parse bytes = some t)
    (hpoints : ∀ l, (Location.root t).Below l → l.tree.span.NonNegative)
    (hparts : ∀ l, (Location.root t).Below l → ∃ part, s.Holds l.tree.span part) :
    ((∀ l part, Consulted kinds bytes t l → s.Holds l.tree.span part → l.tree.Reads bytes part) →
      ∃ regions, (extract kinds parse s).result = .ok regions ∧ FromParts kinds s bytes regions) ∧
    (∀ regions, (extract kinds parse s).result = .ok regions → ∀ r ∈ regions,
      ∃ c target, (Location.root t).Below c ∧ MarksAt kinds s.path bytes c target r) ∧
    ((∃ fault, (extract kinds parse s : Logged (List Region)).result =
        .error (.fault (.undecodable fault))) ↔
      ∃ l, Consulted kinds bytes t l ∧ ¬ ∃ text, l.tree.Reads bytes text) ∧
    ∀ (l : Location Int) (part : String), s.Holds l.tree.span part →
      (e = .utf8 ∨ e = .ascii → l.tree.Reads bytes part) ∧
      (e = .latin1 → (l.tree.Reads bytes part ↔ ∀ c ∈ part.toList, c.toNat < 0x80)) ∧
      ∀ order, e = .utf16 (some order) → (l.tree.Reads bytes part ↔ part = "") := by
  rw [extract_of_some hbytes hparse]
  refine ⟨fromParts_of_reads hpoints hparts, fun _ hregions _ hr => exists_marksAt hregions hr, ?_,
    fun l part hpart => ⟨?_, ?_, fun order horder => ?_⟩⟩
  · rw [← exists_unreadable_iff]
    constructor
    · rintro ⟨fault, hfault⟩
      by_contra hreadable
      rw [extractFrom_eq_ok hpoints hreadable] at hfault
      cases hfault
    · exact extractFrom_eq_error hpoints
  · rintro (rfl | rfl)
    · exact Tree.reads_iff.2 (hpart.slice_eq hencoding hbytes Encoding.charwise_utf8)
    · exact Tree.reads_iff.2 (hpart.slice_eq hencoding hbytes Encoding.charwise_ascii)
  · rintro rfl
    rw [Tree.reads_iff, hpart.slice_eq hencoding hbytes Encoding.charwise_latin1]
    exact Encoding.flatMap_latin1_eq_iff
  · subst horder
    rw [Tree.reads_iff, hpart.slice_eq hencoding hbytes (Encoding.charwise_utf16 order),
      Encoding.flatMap_utf16_eq_iff, String.toList_eq_nil_iff]

/-! ### An accent in Latin-1 -/

/-- An annotation with a letter that is not ASCII, in a source whose encoding has it. -/
def accentText : Source := ⟨"a.py", "# control é\nx\n", "latin-1"⟩

/-- The bytes of that source. -/
def accentBytes : Bytes := accentText.content.toList.map fun c => UInt8.ofNat c.toNat

/-- The tree of that source. -/
def accentTree : Tree Int :=
  .node "module" true ⟨0, 14, (0, 0), (2, 0)⟩
    [.node "comment" true ⟨0, 11, (0, 0), (0, 11)⟩ [],
     .node "identifier" true ⟨12, 13, (1, 0), (1, 1)⟩ []]

theorem bytes_accentText : accentText.bytes = .ok accentBytes := rfl

theorem endsAt_accentText (before after : String) (h : accentText.content = before ++ after ∧
    (Source.bytes { accentText with content := before }).toOption =
      some (accentBytes.take before.length) ∧ before.length ≤ accentBytes.length) :
    accentText.EndsAt before before.length := by
  obtain ⟨hcontent, hbytes, hlength⟩ := h
  refine ⟨⟨after, hcontent⟩,
    .inr ⟨_, accentBytes.drop before.length, eq_ok_of_toOption hbytes, ?_, ?_⟩⟩
  · rw [List.take_append_drop, bytes_accentText]
  · rw [List.length_take_of_le hlength]

/-- The nodes hold parts of the text, and still nothing is extracted: the letter is no UTF-8. -/
theorem extract_reads_parts_as_utf8_accent :
    (∀ l, (Location.root accentTree).Below l → ∃ part, accentText.Holds l.tree.span part) ∧
    ∃ fault, (extract ["comment"] (fun _ => some accentTree) accentText :
      Logged (List Region)).result = .error (.fault (.undecodable fault)) := by
  have hnodes : ∀ l ∈ (Location.root accentTree).descendants, l.tree.span.NonNegative ∧
      (l.tree.span.startByte = 0 ∧ l.tree.span.stopByte = 11 ∨
        l.tree.span.startByte = 12 ∧ l.tree.span.stopByte = 13) := by
    decide +kernel
  have hparts : ∀ l, (Location.root accentTree).Below l →
      ∃ part, accentText.Holds l.tree.span part := by
    intro l hl
    rcases (hnodes l (Location.mem_descendants.2 hl)).2 with ⟨hstart, hstop⟩ | ⟨hstart, hstop⟩
    · refine ⟨"# control é", "", ?_, ?_⟩
      · rw [hstart]
        exact endsAt_accentText "" "# control é\nx\n" (by decide +kernel)
      · rw [hstop]
        exact endsAt_accentText "# control é" "\nx\n" (by decide +kernel)
    · refine ⟨"x", "# control é\n", ?_, ?_⟩
      · rw [hstart]
        exact endsAt_accentText "# control é\n" "x\n" (by decide +kernel)
      · rw [hstop]
        exact endsAt_accentText "# control é\nx" "\n" (by decide +kernel)
  have hcomment : ∃ l ∈ (Location.root accentTree).descendants, l.tree.kind ∈ ["comment"] ∧
      (nodeText accentBytes l.tree).isOk = false := by
    decide +kernel
  obtain ⟨l, hl, hkind, hflaw⟩ := hcomment
  refine ⟨hparts, (extract_reads_parts_as_utf8 (rfl :
    Source.encodingOf .encoding accentText.encoding = .ok .latin1) bytes_accentText rfl
      (fun l hl => (hnodes l (Location.mem_descendants.2 hl)).1) hparts).2.2.1.2
        ⟨l, .comment (Location.mem_descendants.1 hl) hkind, fun ⟨text, htext⟩ => ?_⟩⟩
  rw [nodeText_eq_ok_iff.2 htext] at hflaw
  cases hflaw

end Extraction

end Drift
