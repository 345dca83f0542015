import Drift.Proofs.ControlComment
import Drift.Proofs.Words

/-!
# The identifiers of an annotation

* `ControlComment.Identifier`, `ControlComment.Ends` — a text is an identifier, and none goes on or
  begins where a text begins.
* `ControlComment.Names` — a text names identifiers, each behind one blank, and no more of them
  follow; `Names.words_leadingRun` — they are the words of its leading run, and so the only ones.
* **`ControlComment.identifiers_are_named`** — the identifiers of an annotation are those that the
  text names behind the keyword, and they are always found.
-/

namespace Drift.ControlComment

open Unicode (isBlank isWord words)

/-! ## What a text names -/

/-- An **identifier**: a word character, and then word characters and hyphens. -/
def Identifier (id : List Char) : Prop :=
  ∃ c more, id = c :: more ∧ isWord c = true ∧ ∀ d ∈ more, isWord d = true ∨ d = '-'

/-- **No identifier goes on** where the text begins, and none begins behind a blank there. -/
structure Ends (text : List Char) : Prop where
  stops : ∀ c ∈ text.head?, isWord c = false ∧ c ≠ '-'
  last : ∀ blank c more, text = blank :: c :: more → isBlank blank = true → isWord c = false

/-- The text **names identifiers**, each of them behind one blank, and no more of them follow. -/
inductive Names : List Char → List (List Char) → Prop where
  | done {text : List Char} (hends : Ends text) : Names text []
  | next {blank : Char} {id rest : List Char} {ids : List (List Char)}
      (hblank : isBlank blank = true) (hid : Identifier id) (hrest : Names rest ids) :
      Names (blank :: (id ++ rest)) (id :: ids)

variable {text rest id : List Char} {ids : List (List Char)}

theorem isIdentifierChar_iff {c : Char} :
    isIdentifierChar c = true ↔ isWord c = true ∨ c = '-' := by
  rw [isIdentifierChar, Bool.or_eq_true, beq_iff_eq]

theorem isIdentifierChar_eq_false_iff {c : Char} :
    isIdentifierChar c = false ↔ isWord c = false ∧ c ≠ '-' := by
  rw [isIdentifierChar, Bool.or_eq_false_iff, beq_eq_false_iff_ne]

theorem isIdentifierChar_of_isBlank {c : Char} (h : isBlank c = true) :
    isIdentifierChar c = false := by
  refine isIdentifierChar_eq_false_iff.2 ⟨Unicode.not_isWord_of_isBlank h, ?_⟩
  rintro rfl
  exact absurd h (by decide)

theorem isBlank_of_isIdentifierChar {c : Char} (h : isIdentifierChar c = true) :
    isBlank c = false := by
  rw [Bool.eq_false_iff]
  intro hblank
  rw [isIdentifierChar_of_isBlank hblank] at h
  cases h

theorem Identifier.ne_nil (h : Identifier id) : id ≠ [] := by
  obtain ⟨c, more, rfl, -, -⟩ := h
  exact List.cons_ne_nil _ _

theorem Identifier.chars (h : Identifier id) : ∀ d ∈ id, isIdentifierChar d = true := by
  obtain ⟨c, more, rfl, hc, hmore⟩ := h
  intro d hd
  rcases List.mem_cons.1 hd with rfl | hd
  · exact isIdentifierChar_iff.2 (.inl hc)
  · exact isIdentifierChar_iff.2 (hmore d hd)

theorem ends_iff : Ends text ↔
    (∀ c ∈ text.head?, isIdentifierChar c = false) ∧ startsIdentifier text = false := by
  simp only [isIdentifierChar_eq_false_iff]
  constructor
  · rintro ⟨hstops, hlast⟩
    refine ⟨hstops, ?_⟩
    rcases text with _ | ⟨blank, _ | ⟨c, more⟩⟩
    · rfl
    · rfl
    · rw [startsIdentifier, Bool.and_eq_false_imp]
      exact hlast blank c more rfl
  · rintro ⟨hstops, hstarts⟩
    refine ⟨hstops, ?_⟩
    rintro blank c more rfl
    rwa [startsIdentifier, Bool.and_eq_false_imp] at hstarts

theorem Names.stops (h : Names text ids) : ∀ c ∈ text.head?, isIdentifierChar c = false := by
  cases h with
  | done hends => exact (ends_iff.1 hends).1
  | next hblank hid hrest =>
    rintro c ⟨⟩
    exact isIdentifierChar_of_isBlank hblank

/-! ## The leading run -/

theorem leadingRun_of_ends (h : startsIdentifier text = false) : leadingRun text = [] := by
  rcases text with _ | ⟨blank, _ | ⟨c, more⟩⟩
  · simp [leadingRun]
  · simp [leadingRun]
  · rw [leadingRun, if_neg (by rw [← startsIdentifier, h]; exact Bool.false_ne_true)]

theorem head?_leadingRun (text : List Char) : ∀ c ∈ (leadingRun text).head?, isBlank c = true := by
  intro d hd
  unfold leadingRun at hd
  split at hd
  · split at hd
    · next h =>
      cases hd
      exact (Bool.and_eq_true _ _ ▸ h).1
    · cases hd
  · cases hd

theorem leadingRun_append {blank : Char} (hblank : isBlank blank = true) (hid : Identifier id)
    (hrest : ∀ c ∈ rest.head?, isIdentifierChar c = false) :
    leadingRun (blank :: (id ++ rest)) = blank :: (id ++ leadingRun rest) := by
  have hchars := hid.chars
  obtain ⟨c, more, rfl, hc, -⟩ := hid
  have hrun : ∀ d ∈ more, isIdentifierChar d = true :=
    fun d hd => hchars d (List.mem_cons_of_mem _ hd)
  rw [List.cons_append, leadingRun, if_pos (by rw [hblank, hc]; rfl), takeWhile_run hrun hrest,
    dropWhile_run hrun hrest]
  rfl

/-- The identifiers that a text names are **the words of its leading run**. -/
theorem Names.words_leadingRun (h : Names text ids) : words (leadingRun text) = ids := by
  induction h with
  | done hends => rw [leadingRun_of_ends (ends_iff.1 hends).2, Unicode.words_nil]
  | @next blank id rest ids hblank hid hrest ih =>
    have hword : ∀ d ∈ id, isBlank d = false :=
      fun d hd => isBlank_of_isIdentifierChar (hid.chars d hd)
    rw [leadingRun_append hblank hid hrest.stops, Unicode.words_blank hblank,
      Unicode.words_append hid.ne_nil hword (head?_leadingRun rest), ih]

theorem exists_names (text : List Char) (h : ∀ c ∈ text.head?, isIdentifierChar c = false) :
    ∃ ids, Names text ids := by
  -- Where the reader goes on, no identifier does: it has taken all of the last one.
  fun_induction leadingRun text with
  | case1 blank c rest hstarts ih =>
    obtain ⟨ids, hrest⟩ := ih (head?_dropWhile isIdentifierChar rest)
    obtain ⟨hblank, hc⟩ := Bool.and_eq_true _ _ ▸ hstarts
    have hid : Identifier (c :: rest.takeWhile isIdentifierChar) :=
      ⟨c, _, rfl, hc, fun d hd => isIdentifierChar_iff.1 (List.mem_takeWhile_imp hd)⟩
    have hnext := Names.next hblank hid hrest
    rw [List.cons_append, List.takeWhile_append_dropWhile] at hnext
    exact ⟨_, hnext⟩
  | case2 blank c rest hstarts =>
    exact ⟨[], .done (ends_iff.2 ⟨h, Bool.eq_false_iff.2 hstarts⟩)⟩
  | case3 text hshort =>
    refine ⟨[], .done (ends_iff.2 ⟨h, ?_⟩)⟩
    rcases text with _ | ⟨blank, _ | ⟨c, more⟩⟩
    · rfl
    · rfl
    · exact absurd rfl (hshort blank c more)

/-! ## Identifiers -/

theorem startsIdentifier_of_find (h : find text = some rest) : startsIdentifier rest = true := by
  rw [find_eq] at h
  obtain ⟨s, -, hs⟩ := List.exists_of_findSome?_eq_some h
  exact (afterKeyword?_eq_some_iff.1 hs).1

theorem identifiers?_of_find {text : String} (h : find text.toList = some rest) :
    ∃ ids, Names rest ids ∧ ids ≠ [] ∧ identifiers? text = some (ids.map String.ofList) := by
  have hstarts := startsIdentifier_of_find h
  have hstops : ∀ c ∈ rest.head?, isIdentifierChar c = false := by
    intro c hc
    obtain ⟨⟨blank, hhead, hblank⟩, -⟩ := startsIdentifier_iff.1 hstarts
    rw [← List.head?_eq_getElem?, Option.mem_def.1 hc] at hhead
    cases hhead
    exact isIdentifierChar_of_isBlank hblank
  obtain ⟨ids, hnames⟩ := exists_names rest hstops
  have hne : ids ≠ [] := by
    rintro rfl
    cases hnames with
    | done hends => cases hstarts.symm.trans (ends_iff.1 hends).2
  have hwords := hnames.words_leadingRun
  have hrun : run? rest = some (leadingRun rest) := by
    unfold run?
    split
    · next hnil =>
      rw [hnil, Unicode.words_nil] at hwords
      exact absurd hwords.symm hne
    · rfl
  refine ⟨ids, hnames, hne, ?_⟩
  rw [identifiers?, h]
  simp only [hrun, Option.map_some, hwords]

/-- The identifiers of a text are always found. There are some exactly when it is an annotation, and
then they are **the only ones that the text names** behind the keyword on the first line that it
opens. -/
theorem identifiers_are_named (text : String) :
    identifiers? text = some (identifiers text) ∧
    (identifiers text = [] ↔ isControl text = false) ∧
    (isControl text = true → ∃ i j, OpensFirst text.toList i j) ∧
    ∀ i j, OpensFirst text.toList i j → ∀ ids : List String,
      Names (text.toList.drop (j + 7)) (ids.map String.toList) ↔ ids = identifiers text := by
  cases hfind : find text.toList with
  | none =>
    have hread : identifiers? text = some [] := by rw [identifiers?, hfind]
    have hcontrol : isControl text = false := by rw [isControl, hfind]; rfl
    have hids : identifiers text = [] := by rw [identifiers, hread]; rfl
    refine ⟨by rw [hids, hread], iff_of_true hids hcontrol, fun h => ?_, fun i j hopens => ?_⟩
    · cases hcontrol.symm.trans h
    · cases hfind.symm.trans (find_eq_some_iff.2 ⟨i, j, hopens, rfl⟩)
  | some rest =>
    obtain ⟨named, hnames, hne, hread⟩ := identifiers?_of_find hfind
    have hids : identifiers text = named.map String.ofList := by rw [identifiers, hread]; rfl
    have hcontrol : isControl text = true := by rw [isControl, hfind]; rfl
    refine ⟨by rw [hids, hread], iff_of_false ?_ ?_, fun _ => ?_, fun i j hopens ids => ?_⟩
    · rw [hids]
      exact mt List.map_eq_nil_iff.1 hne
    · rw [hcontrol]
      exact Bool.false_ne_true.symm
    · obtain ⟨i, j, hopens, -⟩ := find_eq_some_iff.1 hfind
      exact ⟨i, j, hopens⟩
    · obtain rfl := Option.some.inj (hfind.symm.trans (find_eq_some_iff.2 ⟨i, j, hopens, rfl⟩))
      rw [hids]
      constructor
      · intro h
        rw [← hnames.words_leadingRun, h.words_leadingRun]
        simp [Function.comp_def]
      · rintro rfl
        simpa [Function.comp_def] using hnames

/-- Two identifiers are named on the second line, where the keyword is not the beginning of a longer
word. -/
theorem identifiers_are_named_below : ∃ i j,
    OpensFirst "/* controls\n * control HE-110 _1: a */".toList i j ∧
    Names ("/* controls\n * control HE-110 _1: a */".toList.drop (j + 7))
      ["HE-110".toList, "_1".toList] := by
  obtain ⟨-, -, hopens, hnames⟩ := identifiers_are_named "/* controls\n * control HE-110 _1: a */"
  obtain ⟨i, j, hfirst⟩ := hopens (by decide +kernel)
  exact ⟨i, j, hfirst, (hnames i j hfirst ["HE-110", "_1"]).2 (by decide +kernel)⟩

end Drift.ControlComment
