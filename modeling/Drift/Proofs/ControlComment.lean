import Drift.ControlComment
import Mathlib.Data.List.DropRight

/-!
# Lines that the keyword opens

* `ControlComment.Opens` — the keyword opens the line of a text that begins at some place.
* `ControlComment.lineStarts` — a text from each of its lines on; `find_eq` — the search goes
  through them and takes the first one that the keyword opens.
* **`ControlComment.isControl_iff_opens`** — a text is a control annotation exactly when the keyword
  opens one of its lines.
* `ControlComment.OpensFirst` — it opens no earlier line; `find_eq_some_iff` — what is found is what
  follows it there.
* `ControlComment.lastLine` — what follows the last line feed of a text; `ends_with_keyword_iff` —
  of all lines, only this one can make an annotation with the text below.
* **`ControlComment.isControl_of_lines`** — lines are annotations apart from that, and delimiters in
  front change nothing.
-/

namespace Drift.ControlComment

variable {text rest s : List Char} {i j : Nat}

/-! ## Places of the keyword -/

/-- The keyword stands at `j` and **opens the line that begins at `i`**: nothing but delimiters
stands between them, and a blank and a word character follow. -/
structure Opens (text : List Char) (i j : Nat) : Prop where
  le : i ≤ j
  lineStart : i = 0 ∨ text[i - 1]? = some '\n'
  delimiters : ∀ k c, i ≤ k → k < j → text[k]? = some c → c ≠ '\n' ∧ Unicode.isWord c = false
  spells : (text.drop j).take 7 = keyword
  blank : ∃ c, text[j + 7]? = some c ∧ Unicode.isBlank c = true
  word : ∃ c, text[j + 8]? = some c ∧ Unicode.isWord c = true

theorem isDelimiter_iff {c : Char} :
    isDelimiter c = true ↔ c ≠ '\n' ∧ Unicode.isWord c = false := by
  unfold isDelimiter
  rw [Bool.and_eq_true, Bool.not_eq_true', bne_iff_ne, and_comm]

theorem startsIdentifier_iff : startsIdentifier s = true ↔
    (∃ c, s[0]? = some c ∧ Unicode.isBlank c = true) ∧
      ∃ c, s[1]? = some c ∧ Unicode.isWord c = true := by
  rcases s with _ | ⟨blank, _ | ⟨c, s⟩⟩ <;> simp [startsIdentifier]

theorem afterKeyword?_eq_some_iff : afterKeyword? text = some rest ↔
    startsIdentifier rest = true ∧
      ∃ delimiters, (∀ c ∈ delimiters, isDelimiter c = true) ∧
        text = delimiters ++ (keyword ++ rest) := by
  constructor
  · intro h
    simp only [afterKeyword?, Option.ite_none_right_eq_some, Bool.and_eq_true,
      Option.some.injEq] at h
    obtain ⟨⟨hkeyword, hstarts⟩, rfl⟩ := h
    obtain ⟨more, hmore⟩ := List.isPrefixOf_iff_prefix.1 hkeyword
    refine ⟨hstarts, text.takeWhile isDelimiter, fun c hc => List.mem_takeWhile_imp hc, ?_⟩
    rw [← hmore, List.drop_left, hmore, List.takeWhile_append_dropWhile]
  · rintro ⟨hstarts, delimiters, hall, rfl⟩
    have hdrop : (delimiters ++ (keyword ++ rest)).dropWhile isDelimiter = keyword ++ rest := by
      rw [List.dropWhile_append_of_pos hall]
      exact List.dropWhile_cons_of_neg (by decide)
    simp only [afterKeyword?, hdrop, List.drop_left, hstarts, Bool.and_true,
      List.isPrefixOf_iff_prefix, List.prefix_append, if_true]

theorem Opens.lt_length (h : Opens text i j) : j + 8 < text.length := by
  obtain ⟨_, hword, -⟩ := h.word
  exact (List.getElem?_eq_some_iff.1 hword).1

theorem Opens.afterKeyword? (h : Opens text i j) :
    afterKeyword? (text.drop i) = some (text.drop (j + 7)) := by
  have hle := h.le
  refine afterKeyword?_eq_some_iff.2 ⟨?_, (text.drop i).take (j - i), fun c hc => ?_, ?_⟩
  · rw [startsIdentifier_iff, List.getElem?_drop, List.getElem?_drop]
    exact ⟨h.blank, h.word⟩
  · obtain ⟨k, hk⟩ := List.mem_iff_getElem?.1 hc
    rw [List.getElem?_take, Option.ite_none_right_eq_some, List.getElem?_drop] at hk
    exact isDelimiter_iff.2 (h.delimiters (i + k) c (by omega) (by omega) hk.2)
  · have hkeyword : text.drop j = keyword ++ text.drop (j + 7) := by
      rw [← h.spells, ← List.drop_drop, List.take_append_drop]
    have hdrop : (text.drop i).drop (j - i) = text.drop j := by
      rw [List.drop_drop, Nat.add_sub_cancel' hle]
    rw [← hkeyword, ← hdrop, List.take_append_drop]

theorem exists_opens (hstart : i = 0 ∨ text[i - 1]? = some '\n')
    (h : afterKeyword? (text.drop i) = some rest) :
    ∃ j, Opens text i j ∧ rest = text.drop (j + 7) := by
  obtain ⟨hstarts, delimiters, hall, hsplit⟩ := afterKeyword?_eq_some_iff.1 h
  have hkeyword : text.drop (i + delimiters.length) = keyword ++ rest := by
    rw [← List.drop_drop, hsplit, List.drop_left]
  have hrest : text.drop (i + delimiters.length + 7) = rest := by
    rw [← List.drop_drop, hkeyword]
    rfl
  rw [← hrest, startsIdentifier_iff, List.getElem?_drop, List.getElem?_drop] at hstarts
  refine ⟨i + delimiters.length, ?_, hrest.symm⟩
  refine ⟨Nat.le_add_right .., hstart, fun k c hik hkj hk => ?_, ?_, hstarts.1, hstarts.2⟩
  · have hget : delimiters[k - i]? = some c := by
      rw [← hk, ← Nat.add_sub_cancel' hik, ← List.getElem?_drop, hsplit, Nat.add_sub_cancel_left,
        List.getElem?_append_left (by omega)]
    exact isDelimiter_iff.1 (hall c (List.mem_of_getElem? hget))
  · rw [hkeyword]
    rfl

theorem Opens.unique {j' : Nat} (h : Opens text i j) (h' : Opens text i j') : j = j' := by
  have heq := Option.some.inj (h.afterKeyword?.symm.trans h'.afterKeyword?)
  have hlt := h.lt_length
  have hlt' := h'.lt_length
  have hlength := congrArg List.length heq
  simp only [List.length_drop] at hlength
  omega

/-! ## Line by line -/

/-- A text behind each of its line feeds. -/
def behindLines : List Char → List (List Char)
  | [] => []
  | c :: rest => if c = '\n' then rest :: behindLines rest else behindLines rest

/-- A text **from each of its lines on**. -/
def lineStarts (text : List Char) : List (List Char) := text :: behindLines text

theorem behindLines_eq (text : List Char) :
    behindLines text = (nextLine? text).elim [] lineStarts := by
  induction text with
  | nil => rfl
  | cons c text ih =>
    unfold behindLines nextLine?
    by_cases hc : c = '\n'
    · rw [if_pos hc, if_pos hc]
      rfl
    · rw [if_neg hc, if_neg hc, ih]

/-- The search takes **the first line that the keyword opens**. -/
theorem find_eq (text : List Char) : find text = (lineStarts text).findSome? afterKeyword? := by
  fun_induction find text with
  | case1 text rest hfound => rw [lineStarts, List.findSome?_cons, hfound]
  | case2 text hnone hlast =>
    rw [lineStarts, List.findSome?_cons, hnone, behindLines_eq, hlast]
    rfl
  | case3 text hnone rest hnext ih =>
    rw [lineStarts, List.findSome?_cons, hnone, behindLines_eq, hnext]
    exact ih

theorem isControl_iff (text : String) : isControl text = true ↔
    ∃ s ∈ lineStarts text.toList, (afterKeyword? s).isSome = true := by
  rw [isControl, find_eq, List.findSome?_isSome_iff]

theorem mem_behindLines_iff : s ∈ behindLines text ↔ ∃ before, text = before ++ '\n' :: s := by
  induction text with
  | nil => simp [behindLines]
  | cons c text ih =>
    unfold behindLines
    constructor
    · intro h
      split at h
      · next hc =>
        subst hc
        rcases List.mem_cons.1 h with rfl | h
        · exact ⟨[], rfl⟩
        · obtain ⟨before, rfl⟩ := ih.1 h
          exact ⟨'\n' :: before, rfl⟩
      · obtain ⟨before, rfl⟩ := ih.1 h
        exact ⟨c :: before, rfl⟩
    · rintro ⟨before, hsplit⟩
      cases before with
      | nil =>
        obtain ⟨rfl, rfl⟩ := List.cons.inj hsplit
        rw [if_pos rfl]
        exact List.mem_cons_self
      | cons d before =>
        have hmem := ih.2 ⟨before, (List.cons.inj hsplit).2⟩
        split
        · exact List.mem_cons_of_mem _ hmem
        · exact hmem

theorem mem_lineStarts_iff : s ∈ lineStarts text ↔
    ∃ i ≤ text.length, (i = 0 ∨ text[i - 1]? = some '\n') ∧ s = text.drop i := by
  rw [lineStarts, List.mem_cons, mem_behindLines_iff]
  constructor
  · rintro (rfl | ⟨before, rfl⟩)
    · exact ⟨0, Nat.zero_le _, .inl rfl, rfl⟩
    · refine ⟨before.length + 1, ?_, .inr ?_, ?_⟩
      · simp
      · simp
      · rw [← List.drop_drop, List.drop_left]
        rfl
  · rintro ⟨i, hle, hstart, rfl⟩
    cases i with
    | zero => exact .inl rfl
    | succ i =>
      refine .inr ⟨text.take i, ?_⟩
      obtain ⟨hi, hget⟩ := List.getElem?_eq_some_iff.1 (hstart.resolve_left (Nat.succ_ne_zero i))
      rw [← hget]
      exact ((congrArg (text.take i ++ ·) (List.drop_eq_getElem_cons hi)).symm.trans
        (List.take_append_drop i text)).symm

theorem Opens.mem_lineStarts (h : Opens text i j) : text.drop i ∈ lineStarts text := by
  have hle := h.le
  have hlt := h.lt_length
  exact mem_lineStarts_iff.2 ⟨i, by omega, h.lineStart, rfl⟩

theorem pairwise_lineStarts (text : List Char) :
    (lineStarts text).Pairwise fun s t => t.length < s.length := by
  have hbehind (text : List Char) (s : List Char) (hs : s ∈ behindLines text) :
      s.length < text.length := by
    obtain ⟨before, rfl⟩ := mem_behindLines_iff.1 hs
    simp only [List.length_append, List.length_cons]
    omega
  refine List.pairwise_cons.2 ⟨hbehind text, ?_⟩
  induction text with
  | nil => exact .nil
  | cons c text ih =>
    unfold behindLines
    split
    · exact List.pairwise_cons.2 ⟨hbehind text, ih⟩
    · exact ih

/-! ## Annotations -/

/-- A text is a control annotation exactly when **the keyword opens one of its lines**, wherever
that line begins and whatever delimiters stand in front of the keyword. -/
theorem isControl_iff_opens (text : String) :
    isControl text = true ↔ ∃ i j, Opens text.toList i j := by
  rw [isControl_iff]
  constructor
  · rintro ⟨s, hs, hfound⟩
    obtain ⟨i, -, hstart, rfl⟩ := mem_lineStarts_iff.1 hs
    obtain ⟨rest, hrest⟩ := Option.isSome_iff_exists.1 hfound
    obtain ⟨j, hopens, -⟩ := exists_opens hstart hrest
    exact ⟨i, j, hopens⟩
  · rintro ⟨i, j, hopens⟩
    exact ⟨_, hopens.mem_lineStarts, by rw [hopens.afterKeyword?]; rfl⟩

/-- **No earlier line** is opened by the keyword. -/
structure OpensFirst (text : List Char) (i j : Nat) : Prop where
  opens : Opens text i j
  first : ∀ i' j', Opens text i' j' → i ≤ i'

/-- What is found stands behind the keyword **on the first line that it opens**. -/
theorem find_eq_some_iff :
    find text = some rest ↔ ∃ i j, OpensFirst text i j ∧ rest = text.drop (j + 7) := by
  have hfirst (rest : List Char) (h : find text = some rest) :
      ∃ i j, OpensFirst text i j ∧ rest = text.drop (j + 7) := by
    rw [find_eq, List.findSome?_eq_some_iff] at h
    obtain ⟨before, s, behind, hsplit, hfound, hnone⟩ := h
    have hmem : s ∈ lineStarts text := by
      rw [hsplit]
      exact List.mem_append_right _ List.mem_cons_self
    obtain ⟨i, -, hstart, rfl⟩ := mem_lineStarts_iff.1 hmem
    obtain ⟨j, hopens, hrest⟩ := exists_opens hstart hfound
    refine ⟨i, j, ⟨hopens, fun i' j' hopens' => ?_⟩, hrest⟩
    -- An earlier line would be a longer text, and so stand before the one that is found.
    have hpairwise := pairwise_lineStarts text
    have hmem := hopens'.mem_lineStarts
    rw [hsplit] at hpairwise hmem
    rcases List.mem_append.1 hmem with hmem | hmem
    · cases (hnone _ hmem).symm.trans hopens'.afterKeyword?
    · rcases List.mem_cons.1 hmem with heq | hmem
      · have hlength := congrArg List.length heq
        have hle' := hopens'.le
        have hlt' := hopens'.lt_length
        simp only [List.length_drop] at hlength
        omega
      · have hlt := List.rel_of_pairwise_cons (List.pairwise_append.1 hpairwise).2.1 hmem
        simp only [List.length_drop] at hlt
        omega
  constructor
  · exact hfirst rest
  · rintro ⟨i, j, ⟨hopens, hle⟩, rfl⟩
    have hsome : (find text).isSome = true := by
      rw [find_eq, List.findSome?_isSome_iff]
      exact ⟨_, hopens.mem_lineStarts, by rw [hopens.afterKeyword?]; rfl⟩
    obtain ⟨rest, hfound⟩ := Option.isSome_iff_exists.1 hsome
    obtain ⟨i', j', hfirst', rfl⟩ := hfirst rest hfound
    obtain rfl := Nat.le_antisymm (hfirst'.first i j hopens) (hle i' j' hfirst'.opens)
    rw [hfound, hfirst'.opens.unique hopens]

/-! ## Two texts, one below the other -/

theorem behindLines_append (a b : List Char) :
    behindLines (a ++ '\n' :: b) = (behindLines a).map (· ++ '\n' :: b) ++ lineStarts b := by
  induction a with
  | nil => rfl
  | cons c a ih =>
    rw [List.cons_append, behindLines, behindLines, ih]
    split
    · rfl
    · rfl

theorem lineStarts_append (a b : List Char) :
    lineStarts (a ++ '\n' :: b) = (lineStarts a).map (· ++ '\n' :: b) ++ lineStarts b := by
  rw [lineStarts, behindLines_append]
  rfl

theorem startsIdentifier_lineFeed (b : List Char) :
    startsIdentifier ('\n' :: b) = true ↔ ∃ c, b.head? = some c ∧ Unicode.isWord c = true := by
  have hblank : Unicode.isBlank '\n' = true := by decide
  cases b with
  | nil => simp [startsIdentifier]
  | cons c b => simp [startsIdentifier, hblank]

theorem startsIdentifier_append (s b : List Char) :
    startsIdentifier (s ++ '\n' :: b) = true ↔
      startsIdentifier s = true ∨ s = [] ∧ startsIdentifier ('\n' :: b) = true := by
  have hword : Unicode.isWord '\n' = false := by decide
  rcases s with _ | ⟨blank, _ | ⟨c, s⟩⟩
  · simp [startsIdentifier]
  · simp [startsIdentifier, hword]
  · simp [startsIdentifier]

/-- With a line behind it, the keyword opens a line when it did before, **or ends it** and a word
character begins the next one. -/
theorem isSome_afterKeyword?_append (s b : List Char) :
    (afterKeyword? (s ++ '\n' :: b)).isSome = true ↔ (afterKeyword? s).isSome = true ∨
      (∃ delimiters, (∀ c ∈ delimiters, isDelimiter c = true) ∧ s = delimiters ++ keyword) ∧
        startsIdentifier ('\n' :: b) = true := by
  simp only [Option.isSome_iff_exists, afterKeyword?_eq_some_iff]
  -- The line feed is behind the blank, or it is the blank.
  constructor
  · rintro ⟨rest, hstarts, delimiters, hall, hsplit⟩
    rw [← List.append_assoc, List.append_eq_append_iff] at hsplit
    rcases hsplit with ⟨more, hkeyword, hmore⟩ | ⟨more, rfl, rfl⟩
    · cases more with
      | nil =>
        rw [List.append_nil] at hkeyword
        rw [List.nil_append] at hmore
        exact .inr ⟨⟨delimiters, hall, hkeyword.symm⟩, hmore ▸ hstarts⟩
      | cons d more =>
        -- No line feed stands among the delimiters or in the keyword.
        obtain rfl : '\n' = d := (List.cons.inj hmore).1
        have hmem : '\n' ∈ delimiters ++ keyword := by
          rw [hkeyword]
          exact List.mem_append_right _ List.mem_cons_self
        rcases List.mem_append.1 hmem with hmem | hmem
        · exact absurd rfl (isDelimiter_iff.1 (hall _ hmem)).1
        · exact absurd hmem (by decide)
    · rcases (startsIdentifier_append more b).1 hstarts with hstarts | ⟨rfl, hstarts⟩
      · exact .inl ⟨more, hstarts, delimiters, hall, List.append_assoc ..⟩
      · exact .inr ⟨⟨delimiters, hall, List.append_nil _⟩, hstarts⟩
  · rintro (⟨rest, hstarts, delimiters, hall, rfl⟩ | ⟨⟨delimiters, hall, rfl⟩, hstarts⟩)
    · have hstarts' := (startsIdentifier_append rest b).2 (.inl hstarts)
      refine ⟨rest ++ '\n' :: b, hstarts', delimiters, hall, ?_⟩
      simp only [List.append_assoc]
    · exact ⟨'\n' :: b, hstarts, delimiters, hall, List.append_assoc ..⟩

/-- The **last line** of a text: what follows its last line feed. -/
def lastLine (text : List Char) : List Char := text.rtakeWhile (· != '\n')

theorem forall_bne_of_not_mem (h : '\n' ∉ s) : ∀ c ∈ s.reverse, (c != '\n') = true := by
  intro c hc
  rw [bne_iff_ne]
  rintro rfl
  exact h (List.mem_reverse.1 hc)

theorem lastLine_self (h : '\n' ∉ s) : lastLine s = s := by
  rw [lastLine, List.rtakeWhile, List.takeWhile_eq_self_iff.2 (forall_bne_of_not_mem h),
    List.reverse_reverse]

theorem lastLine_append (before : List Char) (h : '\n' ∉ s) :
    lastLine (before ++ '\n' :: s) = s := by
  simp [lastLine, List.rtakeWhile, List.takeWhile_append_of_pos (forall_bne_of_not_mem h)]

theorem eq_lastLine_iff : s = lastLine text ↔ s ∈ lineStarts text ∧ '\n' ∉ s := by
  constructor
  · rintro rfl
    by_cases h : '\n' ∈ text
    · obtain ⟨behind, before, hsplit, hnot⟩ := List.eq_append_cons_of_mem (List.mem_reverse.2 h)
      have htext : text = before.reverse ++ '\n' :: behind.reverse := by
        rw [← List.reverse_reverse text, hsplit]
        simp
      have hnot : '\n' ∉ behind.reverse := mt List.mem_reverse.1 hnot
      rw [htext, lastLine_append _ hnot]
      exact ⟨List.mem_cons_of_mem _ (mem_behindLines_iff.2 ⟨_, rfl⟩), hnot⟩
    · rw [lastLine_self h]
      exact ⟨List.mem_cons_self, h⟩
  · rintro ⟨hmem, h⟩
    rcases List.mem_cons.1 hmem with rfl | hmem
    · exact (lastLine_self h).symm
    · obtain ⟨before, rfl⟩ := mem_behindLines_iff.1 hmem
      exact (lastLine_append before h).symm

/-- A line that the keyword ends, behind delimiters, is **the last one**. -/
theorem ends_with_keyword_iff : (∃ s ∈ lineStarts text, ∃ delimiters,
      (∀ c ∈ delimiters, isDelimiter c = true) ∧ s = delimiters ++ keyword) ↔
    ∃ front, lastLine text = front ++ keyword ∧ ∀ c ∈ front, Unicode.isWord c = false := by
  constructor
  · rintro ⟨s, hs, delimiters, hall, rfl⟩
    have hnot : '\n' ∉ delimiters ++ keyword := by
      intro hmem
      rcases List.mem_append.1 hmem with hmem | hmem
      · exact (isDelimiter_iff.1 (hall _ hmem)).1 rfl
      · exact absurd hmem (by decide)
    exact ⟨delimiters, (eq_lastLine_iff.2 ⟨hs, hnot⟩).symm,
      fun c hc => (isDelimiter_iff.1 (hall c hc)).2⟩
  · rintro ⟨front, hlast, hall⟩
    obtain ⟨hmem, hnot⟩ := eq_lastLine_iff.1 hlast.symm
    refine ⟨_, hmem, front, fun c hc => isDelimiter_iff.2 ⟨?_, hall c hc⟩, rfl⟩
    rintro rfl
    exact hnot (List.mem_append_left _ hc)

theorem find_append {d : List Char} (h : ∀ c ∈ d, isDelimiter c = true) (a : List Char) :
    find (d ++ a) = find a := by
  have hfirst : afterKeyword? (d ++ a) = afterKeyword? a := by
    simp only [afterKeyword?, List.dropWhile_append_of_pos h]
  have hbehind : behindLines (d ++ a) = behindLines a := by
    clear hfirst
    induction d with
    | nil => rfl
    | cons c d ih =>
      obtain ⟨hc, hd⟩ := List.forall_mem_cons.1 h
      rw [List.cons_append, behindLines, if_neg (isDelimiter_iff.1 hc).1, ih hd]
  rw [find_eq, find_eq, lineStarts, lineStarts, List.findSome?_cons, List.findSome?_cons, hfirst,
    hbehind]

/-- A text with another one below it is an annotation when one of them is, **or when the keyword
ends the last line of the first** and a word character begins the second. Delimiters in front of a
text change nothing. -/
theorem isControl_of_lines :
    (∀ a b : String, isControl (a ++ "\n" ++ b) = true ↔
      isControl a = true ∨ isControl b = true ∨
        (∃ front, lastLine a.toList = front ++ keyword ∧ ∀ c ∈ front, Unicode.isWord c = false) ∧
          ∃ c, b.toList.head? = some c ∧ Unicode.isWord c = true) ∧
    ∀ d a : String, (∀ c ∈ d.toList, Unicode.isWord c = false ∧ c ≠ '\n') →
      isControl (d ++ a) = isControl a ∧ identifiers (d ++ a) = identifiers a := by
  constructor
  · intro a b
    have htext : (a ++ "\n" ++ b).toList = a.toList ++ '\n' :: b.toList := by simp
    have hlines : isControl (a ++ "\n" ++ b) = true ↔
        (∃ s ∈ lineStarts a.toList, (afterKeyword? (s ++ '\n' :: b.toList)).isSome = true) ∨
          isControl b = true := by
      rw [isControl_iff, isControl_iff, htext, lineStarts_append]
      simp only [List.mem_append, List.mem_map, or_and_right, exists_or, exists_exists_and_eq_and]
    have hlast : (∃ s ∈ lineStarts a.toList,
          (afterKeyword? (s ++ '\n' :: b.toList)).isSome = true) ↔
        isControl a = true ∨
          (∃ front, lastLine a.toList = front ++ keyword ∧
              ∀ c ∈ front, Unicode.isWord c = false) ∧
            ∃ c, b.toList.head? = some c ∧ Unicode.isWord c = true := by
      rw [isControl_iff, ← ends_with_keyword_iff, ← startsIdentifier_lineFeed]
      simp only [isSome_afterKeyword?_append, and_or_left, exists_or, ← and_assoc,
        exists_and_right]
    rw [hlines, hlast, or_assoc, or_comm (b := isControl b = true)]
  · intro d a hd
    have hfind : find (d ++ a).toList = find a.toList := by
      rw [String.toList_append]
      exact find_append (fun c hc => isDelimiter_iff.2 (hd c hc).symm) a.toList
    rw [isControl, isControl, identifiers, identifiers, identifiers?, identifiers?, hfind]
    exact ⟨rfl, rfl⟩

/-- An annotation may end in the line below, and its decoration does not count. -/
theorem isControl_of_lines_split :
    isControl ("/*\n * control" ++ "\n" ++ "T84 */") = true ∧
    identifiers ("/* # " ++ "control A-1") = identifiers "control A-1" := by
  obtain ⟨hlines, hdelimiters⟩ := isControl_of_lines
  have hfront : " * ".toList.all isDelimiter = true := rfl
  have hlast : lastLine "/*\n * control".toList = " * ".toList ++ keyword := rfl
  have hdecoration : "/* # ".toList.all isDelimiter = true := rfl
  refine ⟨(hlines "/*\n * control" "T84 */").2 (.inr (.inr ⟨⟨_, hlast, ?_⟩, 'T', rfl, ?_⟩)), ?_⟩
  · exact fun c hc => (isDelimiter_iff.1 (List.all_eq_true.1 hfront c hc)).2
  · decide
  · refine (hdelimiters "/* # " "control A-1" fun c hc => ?_).2
    exact (isDelimiter_iff.1 (List.all_eq_true.1 hdecoration c hc)).symm

end Drift.ControlComment
