import Drift.Proofs.Extensions
import Mathlib.Data.Finset.Max
import Mathlib.Data.List.DropRight

/-!
# Extensions in normal form

* `Unicode.exists_strip`, `Unicode.strip_eq` — the blanks around a text, and what is between them.
* `Extensions.Settled` — an extension in normal form; `Extensions.normalize_singleton_iff` — it
  names itself, and no other extension does.
* `Extensions.HidesBlank` — a part of an argument whose leading dots stand before a blank;
  `Extensions.beginsBlank_normalForm_iff` — the blank is left over.
* `Extensions.settled_of_normalize_normalize` — extensions that name themselves all together do so
  one by one.
* **`Extensions.settles_unless_hidden`** — extensions are in normal form exactly when no part of an
  argument hides a blank.
-/

namespace Drift

/-! ## Blanks around a text -/

namespace Unicode

variable {s body : List Char}

theorem strip_eq_rdropWhile (s : List Char) :
    strip s = (s.dropWhile isBlank).rdropWhile isBlank := rfl

/-- A text is what is left of it **between blanks**. -/
theorem exists_strip (s : List Char) : ∃ front behind, s = front ++ strip s ++ behind ∧
    (∀ c ∈ front, isBlank c = true) ∧ ∀ c ∈ behind, isBlank c = true := by
  refine ⟨s.takeWhile isBlank, (s.dropWhile isBlank).rtakeWhile isBlank, ?_,
    fun c hc => List.mem_takeWhile_imp hc, fun c hc => List.mem_rtakeWhile_imp hc⟩
  rw [strip_eq_rdropWhile, List.append_assoc, List.rdropWhile_append_rtakeWhile,
    List.takeWhile_append_dropWhile]

theorem isBlank_of_mem_getLast?_strip : ∀ c ∈ (strip s).getLast?, isBlank c = false := by
  rw [strip_eq_rdropWhile]
  intro c hc
  obtain ⟨hne, rfl⟩ := List.mem_getLast?_eq_getLast hc
  exact Bool.eq_false_iff.2 (List.rdropWhile_last_not isBlank _ hne)

theorem isBlank_of_mem_head?_strip : ∀ c ∈ (strip s).head?, isBlank c = false := by
  intro c hc
  refine head?_dropWhile isBlank s c ?_
  obtain ⟨rest, hrest⟩ := List.rdropWhile_prefix isBlank (s.dropWhile isBlank)
  rw [← strip_eq_rdropWhile] at hrest
  rw [← hrest]
  exact List.mem_head?_append_of_mem_head? hc

/-- What begins and ends with no blank is **left over** from between blanks. -/
theorem strip_eq {front behind : List Char} (hfront : ∀ c ∈ front, isBlank c = true)
    (hbehind : ∀ c ∈ behind, isBlank c = true) (hne : body ≠ [])
    (hhead : ∀ c ∈ body.head?, isBlank c = false)
    (hlast : ∀ c ∈ body.getLast?, isBlank c = false) : strip (front ++ body ++ behind) = body := by
  have hstart : ∀ c ∈ (body ++ behind).head?, isBlank c = false := by
    rwa [List.head?_append_of_ne_nil _ hne]
  have hend : ∀ c ∈ body.reverse.head?, isBlank c = false := by
    rwa [List.head?_reverse]
  have hback : ∀ c ∈ behind.reverse, isBlank c = true := fun c hc =>
    hbehind c (List.mem_reverse.1 hc)
  rw [strip, List.append_assoc, dropWhile_run hfront hstart, List.reverse_append,
    dropWhile_run hback hend, List.reverse_reverse]

theorem strip_append {front rest : List Char} (hfront : ∀ c ∈ front, isBlank c = true)
    (hne : body ≠ []) (hhead : ∀ c ∈ body.head?, isBlank c = false)
    (hrest : ∃ c ∈ rest, isBlank c = false) :
    strip (front ++ body ++ rest) = body ++ rest.rdropWhile isBlank := by
  have hstop : rest.rdropWhile isBlank ≠ [] := by
    rw [ne_eq, List.rdropWhile_eq_nil_iff]
    intro hall
    obtain ⟨c, hc, hblank⟩ := hrest
    rw [hall c hc] at hblank
    cases hblank
  have hsplit : front ++ body ++ rest
      = front ++ (body ++ rest.rdropWhile isBlank) ++ rest.rtakeWhile isBlank := by
    simp [List.rdropWhile_append_rtakeWhile]
  rw [hsplit]
  refine strip_eq hfront (fun c hc => List.mem_rtakeWhile_imp hc)
    (List.append_ne_nil_of_left_ne_nil hne _) ?_ ?_
  · rwa [List.head?_append_of_ne_nil _ hne]
  · rw [List.getLast?_append_of_ne_nil _ hstop]
    intro c hc
    obtain ⟨hstop, rfl⟩ := List.mem_getLast?_eq_getLast hc
    exact Bool.eq_false_iff.2 (List.rdropWhile_last_not isBlank _ hstop)

end Unicode

namespace Extensions

variable {e : String} {part : List Char} {arguments : List String}

/-! ## Normal form -/

/-- The text begins with a blank. -/
def BeginsBlank (s : List Char) : Prop := ∃ c ∈ s.head?, Unicode.isBlank c = true

/-- An extension **in normal form**: besides how it is written, there are no blanks around it. -/
structure Settled (e : String) : Prop extends Plain e where
  noBlankBefore : ¬ BeginsBlank e.toList
  noBlankBehind : ∀ c ∈ e.toList.getLast?, Unicode.isBlank c = false

theorem mem_ofArgument_iff {argument : String} : e ∈ ofArgument argument ↔
    ∃ part ∈ argument.toList.splitOn ',', normalForm part ≠ [] ∧ e = String.ofList (normalForm part)
    := by
  simp only [ofArgument, List.mem_map, List.mem_filter, Bool.not_eq_true',
    List.isEmpty_eq_false_iff]
  constructor
  · rintro ⟨_, ⟨⟨part, hpart, rfl⟩, hne⟩, rfl⟩
    exact ⟨part, hpart, hne, rfl⟩
  · rintro ⟨part, hpart, hne, rfl⟩
    exact ⟨_, ⟨⟨part, hpart, rfl⟩, hne⟩, rfl⟩

theorem noBlankBehind_of_mem_ofArgument {argument : String} (h : e ∈ ofArgument argument) :
    ∀ c ∈ e.toList.getLast?, Unicode.isBlank c = false := by
  obtain ⟨part, -, hne, rfl⟩ := mem_ofArgument_iff.1 h
  rw [String.toList_ofList]
  intro c hc
  rw [Bool.eq_false_iff]
  intro hblank
  -- The last character comes from behind the dots, and so from the end of the part between blanks.
  have hlast := Unicode.getLast?_of_getLast?_lowerAfter hc (.inr hblank)
  have hsuffix := List.dropWhile_suffix (l := Unicode.strip part) (· == '.')
  have hbody : c ∈ (Unicode.strip part).getLast? := by
    obtain ⟨dots, hdots⟩ := hsuffix
    rw [← hdots]
    exact List.mem_getLast?_append_of_mem_getLast? hlast
  rw [Unicode.isBlank_of_mem_getLast?_strip c hbody] at hblank
  cases hblank

theorem noBlankBehind_of_mem_normalize (h : e ∈ normalize arguments) :
    ∀ c ∈ e.toList.getLast?, Unicode.isBlank c = false := by
  obtain ⟨a, -, he⟩ := mem_normalize_iff.1 h
  exact noBlankBehind_of_mem_ofArgument he

/-! ## Extensions as arguments -/

theorem Plain.mem_ofArgument_iff (h : Plain e) {d : String} :
    d ∈ ofArgument e ↔ d ≠ "" ∧ d.toList = normalForm e.toList := by
  rw [Extensions.mem_ofArgument_iff, List.splitOn_eq_singleton h.noComma]
  simp only [List.mem_singleton, exists_eq_left]
  constructor
  · rintro ⟨hne, rfl⟩
    rw [String.toList_ofList]
    exact ⟨fun hempty => hne (by rw [← String.toList_ofList (l := normalForm _), hempty]; rfl), rfl⟩
  · rintro ⟨hne, hd⟩
    rw [← hd, String.ofList_toList]
    exact ⟨fun hempty => hne (String.toList_inj.1 hempty), rfl⟩

theorem Plain.lower_of_subset (h : Plain e) {s : List Char} (hs : s ⊆ e.toList) :
    Unicode.lower s = s := by
  refine Unicode.lowerAfter_of_small (fun c hc => ?_) _
  have hmem := hs hc
  rw [← h.small] at hmem
  exact Unicode.isSmall_of_mem_lowerAfter c hmem

theorem Settled.normalForm_eq (h : Settled e) : normalForm e.toList = e.toList := by
  have hne : e.toList ≠ [] := fun hempty => h.notEmpty (String.toList_inj.1 hempty)
  have hhead : ∀ c ∈ e.toList.head?, Unicode.isBlank c = false := fun c hc =>
    Bool.eq_false_iff.2 fun hblank => h.noBlankBefore ⟨c, hc, hblank⟩
  have hstrip : Unicode.strip e.toList = e.toList := by
    have hbare : Unicode.strip ([] ++ e.toList ++ []) = e.toList :=
      Unicode.strip_eq nofun nofun hne hhead h.noBlankBehind
    rwa [List.nil_append, List.append_nil] at hbare
  have hdots : e.toList.dropWhile (· == '.') = e.toList := by
    obtain ⟨c, rest, hcs⟩ := List.exists_cons_of_ne_nil hne
    have hdot := h.noDot
    rw [hcs] at hdot ⊢
    exact List.dropWhile_cons_of_neg (by simpa using hdot)
  rw [normalForm, hstrip, hdots, h.small]

/-- Naming an extension again takes a **blank at its beginning** away. -/
theorem Plain.length_normalForm_lt (h : Plain e) (hblank : BeginsBlank e.toList) :
    (normalForm e.toList).length < e.toList.length := by
  obtain ⟨c, hc, hblank⟩ := hblank
  obtain ⟨rest, hrest⟩ := List.head?_eq_some_iff.1 hc
  have hdrop : e.toList.dropWhile Unicode.isBlank = rest.dropWhile Unicode.isBlank := by
    rw [hrest, List.dropWhile_cons_of_pos hblank]
  have hstrip : (Unicode.strip e.toList).length ≤ rest.length := by
    rw [Unicode.strip_eq_rdropWhile, hdrop]
    exact (List.rdropWhile_prefix _ _).length_le.trans (List.dropWhile_sublist _).length_le
  have hform : normalForm e.toList = (Unicode.strip e.toList).dropWhile (· == '.') :=
    h.lower_of_subset fun d hd => mem_of_mem_strip ((List.dropWhile_sublist _).subset hd)
  have hdots := (List.dropWhile_sublist (· == '.') (l := Unicode.strip e.toList)).length_le
  have hlength : e.toList.length = rest.length + 1 := by rw [hrest, List.length_cons]
  rw [hform]
  omega

/-- An extension names **itself alone** exactly when it is in normal form. -/
theorem normalize_singleton_iff (h : e ∈ normalize arguments) :
    normalize [e] = [e] ↔ Settled e := by
  have hplain := plain_of_mem_normalize h
  constructor
  · intro heq
    refine ⟨hplain, fun hblank => ?_, noBlankBehind_of_mem_normalize h⟩
    have hself : e ∈ normalize [e] := by rw [heq]; exact List.mem_singleton_self e
    obtain ⟨a, ha, he⟩ := mem_normalize_iff.1 hself
    obtain rfl := List.mem_singleton.1 ha
    have hform := (hplain.mem_ofArgument_iff.1 he).2
    have hlt := hplain.length_normalForm_lt hblank
    rw [← hform] at hlt
    exact Nat.lt_irrefl _ hlt
  · intro hsettled
    refine Discovery.eq_of_pairwise String.lt_asymm (pairwise_normalize _)
      (List.pairwise_singleton _ _) fun d => ?_
    simp only [mem_normalize_iff, List.mem_singleton, exists_eq_left, hplain.mem_ofArgument_iff,
      hsettled.normalForm_eq, String.toList_inj]
    exact ⟨And.right, fun hd => ⟨hd ▸ hplain.notEmpty, hd⟩⟩

theorem normalize_of_settled (h : ∀ e ∈ normalize arguments, Settled e) :
    normalize (normalize arguments) = normalize arguments := by
  refine Discovery.eq_of_pairwise String.lt_asymm (pairwise_normalize _) (pairwise_normalize _)
    fun d => ?_
  rw [mem_normalize_iff]
  constructor
  · rintro ⟨e, he, hd⟩
    obtain ⟨-, hform⟩ := (plain_of_mem_normalize he).mem_ofArgument_iff.1 hd
    rw [(h e he).normalForm_eq, String.toList_inj] at hform
    exact hform ▸ he
  · intro hd
    have hplain := plain_of_mem_normalize hd
    exact ⟨d, hd, hplain.mem_ofArgument_iff.2 ⟨hplain.notEmpty, (h d hd).normalForm_eq.symm⟩⟩

/-- Extensions that stay as they are **are in normal form**: one that begins with a blank could only
come from a longer one of them. -/
theorem settled_of_normalize_normalize
    (h : normalize (normalize arguments) = normalize arguments) :
    ∀ e ∈ normalize arguments, Settled e := by
  intro e he
  refine ⟨plain_of_mem_normalize he, fun hblank => ?_, noBlankBehind_of_mem_normalize he⟩
  classical
  -- The longest extension that begins with a blank.
  obtain ⟨longest, hlongest, hmax⟩ := Finset.exists_max_image
    ((normalize arguments).toFinset.filter fun e => BeginsBlank e.toList) (·.toList.length)
    ⟨e, by simp [he, hblank]⟩
  rw [Finset.mem_filter, List.mem_toFinset] at hlongest
  obtain ⟨hmem, hbegins⟩ := hlongest
  -- It is named by one of them, which begins with a blank as well, and so is longer.
  rw [← h] at hmem
  obtain ⟨source, hsource, hnamed⟩ := mem_normalize_iff.1 hmem
  have hplain := plain_of_mem_normalize hsource
  obtain ⟨-, hform⟩ := hplain.mem_ofArgument_iff.1 hnamed
  have hsourceBlank : BeginsBlank source.toList := by
    by_contra hnot
    have hsettled : Settled source := ⟨hplain, hnot, noBlankBehind_of_mem_normalize hsource⟩
    rw [hsettled.normalForm_eq] at hform
    exact hnot (hform ▸ hbegins)
  have hlonger := hplain.length_normalForm_lt hsourceBlank
  have hle := hmax source (by simp [hsource, hsourceBlank])
  rw [← hform] at hlonger
  omega

/-! ## Hidden blanks -/

/-- The dots at the beginning of a part **hide a blank**: they stand before it, so that it is not
taken away with the blanks around the part. -/
def HidesBlank (part : List Char) : Prop :=
  ∃ blanks dots blank rest, part = blanks ++ dots ++ blank :: rest ∧
    (∀ c ∈ blanks, Unicode.isBlank c = true) ∧ dots ≠ [] ∧ (∀ c ∈ dots, c = '.') ∧
    Unicode.isBlank blank = true ∧ ∃ c ∈ rest, Unicode.isBlank c = false

theorem HidesBlank.beginsBlank (h : HidesBlank part) : BeginsBlank (normalForm part) := by
  obtain ⟨blanks, dots, blank, rest, rfl, hblanks, hdots, hdot, hblank, hrest⟩ := h
  have hhead : ∀ c ∈ (dots ++ [blank]).head?, Unicode.isBlank c = false := by
    rw [List.head?_append_of_ne_nil _ hdots]
    intro c hc
    rw [hdot c (List.mem_of_mem_head? hc)]
    decide
  have hbody : Unicode.strip (blanks ++ dots ++ blank :: rest)
      = dots ++ blank :: rest.rdropWhile Unicode.isBlank := by
    have hstrip := Unicode.strip_append hblanks (List.append_ne_nil_of_left_ne_nil hdots [blank])
      hhead hrest
    simpa using hstrip
  have hrun : ∀ c ∈ dots, (c == '.') = true := fun c hc => beq_iff_eq.2 (hdot c hc)
  have hstop : ∀ c ∈ (blank :: rest.rdropWhile Unicode.isBlank).head?, (c == '.') = false := by
    simp only [List.head?_cons, Option.mem_some_iff, forall_eq']
    rw [beq_eq_false_iff_ne]
    rintro rfl
    exact absurd hblank (by decide)
  refine ⟨blank, ?_, hblank⟩
  rw [normalForm, hbody, dropWhile_run hrun hstop]
  exact Unicode.head?_lower rfl (Unicode.isSmall_of_isBlank hblank)

theorem hidesBlank_of_beginsBlank (h : BeginsBlank (normalForm part)) : HidesBlank part := by
  obtain ⟨c, hc, hblank⟩ := h
  have hhead := Unicode.head?_of_head?_lower hc (.inr hblank)
  obtain ⟨rest, hrest⟩ := List.head?_eq_some_iff.1 hhead
  obtain ⟨front, behind, hpart, hfront, -⟩ := Unicode.exists_strip part
  have hbody : Unicode.strip part = (Unicode.strip part).takeWhile (· == '.') ++ c :: rest := by
    rw [← hrest, List.takeWhile_append_dropWhile]
  have hdots : (Unicode.strip part).takeWhile (· == '.') ≠ [] := by
    intro hnone
    rw [hnone, List.nil_append] at hbody
    have hstart := Unicode.isBlank_of_mem_head?_strip (s := part) c (by rw [hbody]; rfl)
    rw [hstart] at hblank
    cases hblank
  have hlast := Unicode.isBlank_of_mem_getLast?_strip (s := part)
  rw [hbody, List.getLast?_append_of_ne_nil _ (List.cons_ne_nil c rest)] at hlast
  have hother : ∃ d ∈ rest, Unicode.isBlank d = false := by
    cases hend : rest.getLast? with
    | none =>
      rw [List.getLast?_eq_none_iff.1 hend] at hlast
      rw [hlast c rfl] at hblank
      cases hblank
    | some d =>
      refine ⟨d, List.mem_of_getLast? hend, hlast d ?_⟩
      rw [List.getLast?_cons, hend]
      rfl
  obtain ⟨d, hd, hdblank⟩ := hother
  refine ⟨front, (Unicode.strip part).takeWhile (· == '.'), c, rest ++ behind, ?_, hfront, hdots,
    fun d hd => by simpa using List.mem_takeWhile_imp hd, hblank, d, List.mem_append_left _ hd,
    hdblank⟩
  rw [hbody] at hpart
  simpa using hpart

/-- An extension **begins with a blank** exactly when the part hides one. -/
theorem beginsBlank_normalForm_iff : BeginsBlank (normalForm part) ↔ HidesBlank part :=
  ⟨hidesBlank_of_beginsBlank, HidesBlank.beginsBlank⟩

/-- **No part of an argument** hides a blank. -/
def NoneHidden (arguments : List String) : Prop :=
  ∀ a ∈ arguments, ∀ part ∈ a.toList.splitOn ',', ¬ HidesBlank part

theorem settled_iff_noneHidden :
    (∀ e ∈ normalize arguments, Settled e) ↔ NoneHidden arguments := by
  constructor
  · intro h a ha part hpart hhides
    have hblank := beginsBlank_normalForm_iff.2 hhides
    have hne : normalForm part ≠ [] := by
      obtain ⟨c, hc, -⟩ := hblank
      exact List.ne_nil_of_mem (List.mem_of_mem_head? hc)
    have he : String.ofList (normalForm part) ∈ normalize arguments :=
      mem_normalize_iff.2 ⟨a, ha, mem_ofArgument_iff.2 ⟨part, hpart, hne, rfl⟩⟩
    refine (h _ he).noBlankBefore ?_
    rwa [String.toList_ofList]
  · intro h e he
    refine ⟨plain_of_mem_normalize he, fun hblank => ?_, noBlankBehind_of_mem_normalize he⟩
    obtain ⟨a, ha, hnamed⟩ := mem_normalize_iff.1 he
    obtain ⟨part, hpart, -, rfl⟩ := mem_ofArgument_iff.1 hnamed
    rw [String.toList_ofList] at hblank
    exact h a ha part hpart (beginsBlank_normalForm_iff.1 hblank)

/-- Extensions **settle at once unless dots hide a blank**. They hold no comma, begin with no dot,
end with no blank and are in small letters, always; and each names itself alone exactly when it does
not begin with a blank either. This is so for all of them, and they stay as they are when they are
named again, exactly when no part of an argument hides a blank behind dots. -/
theorem settles_unless_hidden (arguments : List String) :
    (normalize (normalize arguments) = normalize arguments ↔ NoneHidden arguments) ∧
      ((∀ e ∈ normalize arguments, Settled e) ↔ NoneHidden arguments) ∧
      ∀ e ∈ normalize arguments, Plain e ∧
        (∀ c ∈ e.toList.getLast?, Unicode.isBlank c = false) ∧
        (normalize [e] = [e] ↔ Settled e) := by
  refine ⟨⟨fun h => ?_, fun h => ?_⟩, settled_iff_noneHidden, fun e he => ?_⟩
  · exact settled_iff_noneHidden.1 (settled_of_normalize_normalize h)
  · exact normalize_of_settled (settled_iff_noneHidden.2 h)
  · exact ⟨plain_of_mem_normalize he, noBlankBehind_of_mem_normalize he, normalize_singleton_iff he⟩

/-- A blank behind a dot **is left**, and another dot with it; named again, it is gone. -/
theorem settles_unless_hidden_dots :
    normalize [". js", ". .TS"] = [" .ts", " js"] ∧ normalize [" .ts", " js"] = ["js", "ts"] ∧
      ¬ NoneHidden [". js", ". .TS"] ∧ Plain " js" ∧ ¬ Settled " js" := by
  have hnamed : normalize [". js", ". .TS"] = [" .ts", " js"] := rfl
  have hagain : normalize [" .ts", " js"] = ["js", "ts"] := rfl
  have halone : normalize [" js"] = ["js"] := rfl
  obtain ⟨hstay, -, heach⟩ := settles_unless_hidden [". js", ". .TS"]
  rw [hnamed] at hstay heach
  obtain ⟨hplain, -, hself⟩ := heach " js" (by simp)
  rw [halone] at hself
  refine ⟨hnamed, hagain, fun hnone => ?_, hplain, fun hsettled => ?_⟩
  · exact absurd (hagain.symm.trans (hstay.2 hnone)) (by decide)
  · exact absurd (hself.2 hsettled) (by decide)

end Extensions

end Drift
