import Drift.Proofs.Listing
import Drift.Proofs.Words

/-!
# Reports tell every change

* `Report.Change` — a change as a report tells it; `Report.changes` — those of a difference.
* `Report.change?` — the change that a line tells, read from its end; `Report.read` — the changes
  that the lines of a report tell.
* `Report.report_drafts` — when their line numbers can be printed, regions are reported as the
  drafts that they are; `Report.read_lines` — a report is read as the changes of its difference.
* **`Report.report_eq_iff`** — two differences have the same report exactly when the same places are
  removed and the same places are added, in their order.
-/

namespace Drift

/-- The file of a region with **its first and its last line**. -/
def Region.place (r : Region) : String × Nat × Nat := (r.path, r.lineRange)

/-- Neither of its line numbers has **more digits than are printed**. -/
def Region.LinesPrintable (r : Region) : Prop :=
  (toString r.start.line).length ≤ Json.digitLimit ∧ (toString r.stop.line).length ≤ Json.digitLimit

theorem Region.linesPrintable_iff {r : Region} : r.LinesPrintable ↔
    r.start.line < 10 ^ Json.digitLimit ∧ r.stop.line < 10 ^ Json.digitLimit := by
  unfold LinesPrintable
  simp only [Nat.toString_eq_ofList_toDigits, String.length_ofList,
    Nat.length_toDigits_le_iff (b := 10) (k := Json.digitLimit) (by decide) (by decide)]

namespace Report

/-! ## Changes -/

/-- A change **as a report tells it**. -/
structure Change where
  mark : Char
  path : String
  first : Nat
  last : Nat
  deriving DecidableEq, Repr

/-- The change of a region. -/
def changeOf (mark : Char) (r : Region) : Change := ⟨mark, r.path, r.start.line, r.stop.line⟩

/-- The **changes of a difference**: removals first, then additions. -/
def changes (d : Difference Region) : List Change :=
  d.removed.map (changeOf '-') ++ d.added.map (changeOf '+')

theorem filter_changes (d : Difference Region) :
    (changes d).filter (·.mark == '-') = d.removed.map (changeOf '-') ∧
      (changes d).filter (·.mark == '+') = d.added.map (changeOf '+') := by
  simp [changes, changeOf, List.filter_map, Function.comp_def]

theorem changes_eq_iff {d₁ d₂ : Difference Region} :
    changes d₁ = changes d₂ ↔ d₁.removed.map Region.place = d₂.removed.map Region.place ∧
      d₁.added.map Region.place = d₂.added.map Region.place := by
  have hplaces (mark : Char) (rs : List Region) :
      (rs.map (changeOf mark)).map (fun c => (c.path, c.first, c.last)) = rs.map Region.place := by
    rw [List.map_map]
    rfl
  have hchanges (mark : Char) (rs : List Region) :
      rs.map (changeOf mark) = (rs.map Region.place).map fun p => ⟨mark, p.1, p.2.1, p.2.2⟩ := by
    rw [List.map_map]
    rfl
  constructor
  · intro h
    have hminus := congrArg (List.filter (·.mark == '-')) h
    have hplus := congrArg (List.filter (·.mark == '+')) h
    rw [(filter_changes d₁).1, (filter_changes d₂).1] at hminus
    rw [(filter_changes d₁).2, (filter_changes d₂).2] at hplus
    rw [← hplaces '-' d₁.removed, ← hplaces '+' d₁.added, hminus, hplus, hplaces, hplaces]
    exact ⟨rfl, rfl⟩
  · rintro ⟨hremoved, hadded⟩
    simp only [changes, hchanges, hremoved, hadded]

/-- The line of a change. -/
def Change.line (c : Change) : String :=
  changeLine c.mark c.path (toString c.first) (toString c.last)

theorem lines_eq (d : Difference Region) :
    lines d = if (changes d).isEmpty then ["No changes detected."]
      else "Changes Detected!" :: (changes d).map Change.line := by
  have hlines (mark : Char) (rs : List Region) :
      rs.map (line mark) = (rs.map (changeOf mark)).map Change.line := by
    rw [List.map_map]
    rfl
  have hempty : (changes d).isEmpty = !d.hasChanges := by
    rcases d with ⟨_ | ⟨r, removed⟩, _ | ⟨s, added⟩⟩ <;> rfl
  rw [lines, linesBy, hempty, hlines, hlines, ← List.map_append, ← changes]
  cases d.hasChanges <;> rfl

/-! ## Reading -/

/-- The number that a text ends in, and what stands in front of it. The text is given and left
backwards. -/
def numberAtEnd (s : List Char) : Nat × List Char :=
  (Nat.ofDigitChars 10 (s.takeWhile Char.isDigit).reverse 0, s.dropWhile Char.isDigit)

/-- The **change that a line tells**. It is read from its end: what stands there are digits and two
signs, while a path may hold whatever a line holds. -/
def change? (line : String) : Option Change :=
  match line.toList with
  | '\t' :: mark :: ' ' :: rest =>
    match numberAtEnd rest.reverse with
    | (last, ':' :: front) =>
      match numberAtEnd front with
      | (first, ';' :: path) => some ⟨mark, String.ofList path.reverse, first, last⟩
      | _ => none
    | _ => none
  | _ => none

/-- The **changes that lines tell**. The first line is no change. -/
def read (lines : List String) : List Change := lines.tail.filterMap change?

theorem numberAtEnd_append (n : Nat) {front : List Char}
    (hfront : ∀ c ∈ front.head?, c.isDigit = false) :
    numberAtEnd ((toString n).toList.reverse ++ front) = (n, front) := by
  have hdigits : ∀ c ∈ (Nat.toDigits 10 n).reverse, c.isDigit = true := fun c hc =>
    Nat.isDigit_of_mem_toDigits (by decide) (by decide) (List.mem_reverse.1 hc)
  rw [Nat.toString_eq_ofList_toDigits, String.toList_ofList, numberAtEnd,
    takeWhile_run hdigits hfront, dropWhile_run hdigits hfront, List.reverse_reverse,
    Nat.ofDigitChars_ten_toDigits]

theorem Change.toList_line (c : Change) :
    c.line.toList = '\t' :: c.mark :: ' ' ::
      (c.path.toList ++ ';' :: ((toString c.first).toList ++ ':' :: (toString c.last).toList)) := by
  simp [Change.line, changeLine, Char.toString_eq_singleton]

/-- The line of a change tells **just this change**. -/
theorem change?_line (c : Change) : change? c.line = some c := by
  have hsemicolon (path : List Char) : ∀ c ∈ (';' :: path).head?, c.isDigit = false := by simp
  have hcolon (front : List Char) : ∀ c ∈ (':' :: front).head?, c.isDigit = false := by simp
  rw [change?, Change.toList_line]
  simp only [List.reverse_append, List.reverse_cons, List.append_assoc, List.cons_append,
    List.nil_append, numberAtEnd_append _ (hcolon _), numberAtEnd_append _ (hsemicolon _),
    List.reverse_reverse, String.ofList_toList]

/-- A report is read as **the changes of its difference**. -/
theorem read_lines (d : Difference Region) : read (lines d) = changes d := by
  rw [lines_eq]
  split
  · next h => rw [List.isEmpty_iff.1 h]; rfl
  · rw [read, List.tail_cons, List.filterMap_map]
    exact (List.filterMap_congr fun c _ => change?_line c).trans List.filterMap_some

/-! ## Reports -/

/-- The drafts of a difference between regions. -/
def drafts (d : Difference Region) : Difference Draft :=
  ⟨d.removed.map Draft.ofRegion, d.added.map Draft.ofRegion⟩

@[simp] theorem line_ofRegion (mark : Char) (r : Region) :
    Draft.line mark (Draft.ofRegion r) = line mark r := rfl

@[simp] theorem lineRange_ofRegion (r : Region) :
    (Draft.ofRegion r).lineRange = (.int r.start.line, .int r.stop.line) := rfl

theorem isWritable_natCast {n : Nat} (h : n < 10 ^ Json.digitLimit) :
    Draft.isWritable (.int n) = true := by
  rw [← Draft.digitBound_eq] at h
  simpa only [Draft.isWritable, Int.natAbs_natCast, decide_eq_true_eq] using h

/-- Regions are **reported as the drafts** that they are, when their line numbers can be printed. -/
theorem report_drafts {d : Difference Region} (h : ∀ r ∈ d.removed ++ d.added, r.LinesPrintable) :
    Draft.report (drafts d) = .ok (lines d) := by
  have hwritable : ((drafts d).removed ++ (drafts d).added).all (fun d =>
      Draft.isWritable d.lineRange.1 && Draft.isWritable d.lineRange.2) = true := by
    rw [drafts, ← List.map_append, List.all_map, List.all_eq_true]
    intro r hr
    obtain ⟨hfirst, hlast⟩ := Region.linesPrintable_iff.1 (h r hr)
    rw [Function.comp_apply, lineRange_ofRegion, isWritable_natCast hfirst,
      isWritable_natCast hlast, Bool.and_self]
  have hlines : linesBy Draft.line (drafts d) = lines d := by
    simp only [lines, linesBy, drafts, Difference.hasChanges, List.isEmpty_map, List.map_map,
      Function.comp_def, line_ofRegion]
    rfl
  rw [Draft.report, if_pos hwritable, hlines]

/-- A report **tells every change**: it gives lines from which the marks, the paths and the line
numbers of all regions are read in their order; so two differences have the same report exactly when
the same places are removed and the same places are added. -/
theorem report_eq_iff {d₁ d₂ : Difference Region}
    (h₁ : ∀ r ∈ d₁.removed ++ d₁.added, r.LinesPrintable)
    (h₂ : ∀ r ∈ d₂.removed ++ d₂.added, r.LinesPrintable) :
    (Draft.report (drafts d₁) = .ok (lines d₁) ∧ read (lines d₁) = changes d₁) ∧
      (Draft.report (drafts d₁) = Draft.report (drafts d₂) ↔
        d₁.removed.map Region.place = d₂.removed.map Region.place ∧
          d₁.added.map Region.place = d₂.added.map Region.place) := by
  refine ⟨⟨report_drafts h₁, read_lines d₁⟩, ?_⟩
  rw [report_drafts h₁, report_drafts h₂, Except.ok.injEq, ← changes_eq_iff]
  refine ⟨fun h => ?_, fun h => ?_⟩
  · rw [← read_lines d₁, ← read_lines d₂, h]
  · rw [lines_eq, lines_eq, h]

/-- A region of a file whose name looks like **two other lines of a report** is removed. Its lines
have as many digits as are printed. -/
def deceptive (comment : String) : Difference Region where
  removed := [⟨"a.js;1:2\n\t+ b.js", comment, "f();", ⟨0, 0⟩, ⟨10 ^ 4300 - 2, 4⟩⟩]
  added := []

/-- The changes that it looks like. -/
def pretended : Difference Region where
  removed := [⟨"a.js", "// control", "f();", ⟨0, 0⟩, ⟨1, 4⟩⟩]
  added := [⟨"b.js", "// control", "f();", ⟨0, 0⟩, ⟨10 ^ 4300 - 2, 4⟩⟩]

/-- Its report is that of the same place with another comment, and **not that of the changes** that
it looks like. -/
theorem report_eq_iff_deceptive :
    (∀ r ∈ (deceptive "// control").removed ++ (deceptive "// control").added, r.LinesPrintable) ∧
      Draft.report (drafts (deceptive "// control")) =
        Draft.report (drafts (deceptive "# control")) ∧
      Draft.report (drafts (deceptive "// control")) ≠ Draft.report (drafts pretended) := by
  have hslashes : ∀ r ∈ (deceptive "// control").removed ++ (deceptive "// control").added,
      r.LinesPrintable := by
    simp only [Region.linesPrintable_iff]
    decide +kernel
  have hhash : ∀ r ∈ (deceptive "# control").removed ++ (deceptive "# control").added,
      r.LinesPrintable := by
    simp only [Region.linesPrintable_iff]
    decide +kernel
  have hpretended : ∀ r ∈ pretended.removed ++ pretended.added, r.LinesPrintable := by
    simp only [Region.linesPrintable_iff]
    decide +kernel
  refine ⟨hslashes, (report_eq_iff hslashes hhash).2.2 ⟨rfl, rfl⟩, fun heq => ?_⟩
  have hadded := ((report_eq_iff hslashes hpretended).2.1 heq).2
  cases hadded

end Report

end Drift
