import Drift.Proofs.Detection
import Drift.Proofs.ReportLines

/-!
# A line for each changed region

* `Terminal.count_report` — a text loses its colours, and no line end with them.
* `Report.count_line` — the line of a changed region holds the line ends of its path.
* `Command.count_lines`, `Command.splitOn_lines_iff` — texts that hold no line end are printed on
  one line each.
* **`prints_line_for_each_change`** — a comparison that finds changes prints a line for each changed
  region, and one more for each line end in the name of its file.
-/

namespace Drift

/-! ## Line ends -/

namespace Terminal

theorem count_afterColour {s rest : List Char} (h : afterColour s = some rest) :
    rest.count '\n' = s.count '\n' := by
  unfold afterColour at h
  split at h
  · next c after hs =>
    split at h
    · next halpha =>
      obtain rfl := Option.some.inj h
      have hcode : '\n' ∉ s.takeWhile fun c => c == ';' || c == '?' || c.isDigit := fun hc =>
        absurd (List.mem_takeWhile_imp hc) (by decide)
      have hc : c ≠ '\n' := by
        rintro rfl
        exact absurd halpha (by decide)
      rw [← List.takeWhile_append_dropWhile (p := fun c => c == ';' || c == '?' || c.isDigit)
        (l := s), hs, List.count_append, List.count_eq_zero_of_not_mem hcode,
        List.count_cons_of_ne hc, Nat.zero_add]
    · cases h
  · cases h

theorem count_plainOnto (done s : List Char) :
    (plainOnto done s).count '\n' = done.count '\n' + s.count '\n' := by
  fun_induction plainOnto done s with
  | case1 done code after h ih => rw [ih, count_afterColour h]; simp
  | case2 done code h ih => rw [ih]; simp
  | case3 done c rest _ ih =>
    rw [ih, List.count_cons, List.count_cons]
    omega
  | case4 done => rw [List.count_reverse, List.count_nil, Nat.add_zero]

/-- Colours are taken away **without any line end**. -/
theorem count_report (s : String) : (report s).toList.count '\n' = s.toList.count '\n' := by
  rw [report, String.toList_ofList, count_plainOnto, List.count_nil, Nat.zero_add]

end Terminal

namespace Report

/-- The line of a changed region holds **the line ends of its path**. -/
theorem count_line {mark : Char} (h : mark ≠ '\n') (r : Region) :
    (line mark r).toList.count '\n' = r.path.toList.count '\n' := by
  have hnumber (n : Nat) : (toString n).toList.count '\n' = 0 :=
    List.count_eq_zero_of_not_mem (not_mem_number (by decide) n)
  have htext : (line mark r).toList = '\t' :: mark :: ' ' :: (r.path.toList ++ ';' ::
      ((toString r.start.line).toList ++ ':' :: (toString r.stop.line).toList)) :=
    Change.toList_line (changeOf mark r)
  rw [htext, List.count_cons_of_ne (by decide), List.count_cons_of_ne h,
    List.count_cons_of_ne (by decide), List.count_append, List.count_cons_of_ne (by decide),
    List.count_append, List.count_cons_of_ne (by decide), hnumber, hnumber, Nat.add_zero]

end Report

namespace Command

variable {texts : List String}

theorem toList_lines_cons (text : String) (texts : List String) :
    (lines (text :: texts)).toList = text.toList ++ '\n' :: (lines texts).toList := by
  simp [lines]

/-- Printed texts end a line each, **and those that they hold**. -/
theorem count_lines (texts : List String) : (lines texts).toList.count '\n'
    = texts.length + (texts.map (·.toList.count '\n')).sum := by
  induction texts with
  | nil => rfl
  | cons text texts ih =>
    rw [toList_lines_cons, List.count_append, List.count_cons_self, ih, List.length_cons,
      List.map_cons, List.sum_cons]
    omega

/-- Texts are printed **on one line each** when none of them holds a line end. -/
theorem splitOn_lines_iff : (lines texts).toList.splitOn '\n' = texts.map String.toList ++ [[]] ↔
    ∀ text ∈ texts, '\n' ∉ text.toList := by
  constructor
  · intro h text htext
    refine not_mem_of_mem_splitOn (s := (lines texts).toList) ?_
    rw [h]
    exact List.mem_append_left _ (List.mem_map_of_mem htext)
  · intro h
    induction texts with
    | nil => rfl
    | cons text texts ih =>
      obtain ⟨htext, htexts⟩ := List.forall_mem_cons.1 h
      rw [toList_lines_cons, List.splitOn_append_cons_self, List.splitOn_eq_singleton htext,
        ih htexts]
      rfl

/-! ## Changes on the screen -/

/-- The lines of a difference **on the screen**. -/
def changesShown (d : Difference Region) : List String :=
  "Changes Detected!" :: (d.removed.map (Terminal.report <| Report.line '-' ·)
    ++ d.added.map (Terminal.report <| Report.line '+' ·))

variable {d : Difference Region}

theorem map_report_lines (h : d.hasChanges = true) :
    (Report.lines d).map Terminal.report = changesShown d := by
  have hheading : Terminal.report "Changes Detected!" = "Changes Detected!" :=
    Terminal.report_eq_self (by decide)
  rw [Report.lines, Report.linesBy, if_pos h, List.map_cons, hheading, List.map_append,
    List.map_map, List.map_map]
  rfl

theorem count_changesShown (d : Difference Region) : (lines (changesShown d)).toList.count '\n'
    = 1 + (d.removed ++ d.added).length
      + ((d.removed ++ d.added).map (·.path.toList.count '\n')).sum := by
  have hcounts {mark : Char} (hmark : mark ≠ '\n') (rs : List Region) :
      (rs.map (Terminal.report <| Report.line mark ·)).map (·.toList.count '\n')
        = rs.map (·.path.toList.count '\n') := by
    rw [List.map_map]
    exact List.map_congr_left fun r _ =>
      (Terminal.count_report _).trans (Report.count_line hmark r)
  have hheading : "Changes Detected!".toList.count '\n' = 0 := by decide
  rw [count_lines, changesShown, List.map_cons, List.map_append, hcounts (by decide),
    hcounts (by decide), ← List.map_append, List.sum_cons, hheading]
  simp only [List.length_cons, List.length_append, List.length_map]
  omega

/-- Each changed region is **shown on one line** exactly when no path holds a line end. -/
theorem forall_changesShown_iff : (∀ text ∈ changesShown d, '\n' ∉ text.toList) ↔
    ∀ r ∈ d.removed ++ d.added, '\n' ∉ r.path.toList := by
  have hshown (mark : Char) (hmark : mark ≠ '\n') (r : Region) :
      '\n' ∉ (Terminal.report (Report.line mark r)).toList ↔ '\n' ∉ r.path.toList := by
    rw [← List.count_eq_zero, ← List.count_eq_zero, Terminal.count_report,
      Report.count_line hmark]
  have hheading : '\n' ∉ "Changes Detected!".toList := by decide
  simp only [changesShown, List.forall_mem_cons, List.forall_mem_append, List.forall_mem_map,
    hshown '-' (by decide), hshown '+' (by decide), hheading, not_false_eq_true, true_and]

end Command

/-! ## Comparing -/

variable {s : Surroundings} {line : List String} {settings : Settings}
  {directory language : String} {extensions : List String} {output : Option String}
  {snapshot : Path} {old new : List Region}

/-- A command line that compares regions **shows the difference**. -/
theorem shows_difference
    (hasks : Asks s line settings (.code directory language extensions output true))
    (hfile : Command.fileOf (Command.snapshotName settings output) = .ok snapshot)
    (hold : (Snapshot.read s.files snapshot).result = .ok old)
    (hnew : (Command.scan s directory language extensions).result = .ok new)
    (hchanged : ¬ new.Perm old) :
    (run s line).outcome.Shows 1
      (Command.lines (Command.changesShown ⟨old.diff new, new.diff old⟩)) := by
  obtain ⟨i, hline, hcode, hload⟩ := hasks
  obtain ⟨errors, houtcome⟩ := outcome_of_difference hline hcode hload hfile hold hnew
  have hchanges : Difference.hasChanges ⟨old.diff new, new.diff old⟩ = true := by
    rw [← Difference.between_eq, ← Bool.not_eq_false, Difference.hasChanges_eq_false_iff]
    exact hchanged
  rw [houtcome, Difference.between_eq, Command.map_report_lines hchanges, if_pos hchanges]
  exact ⟨rfl, rfl, rfl⟩

/-- A comparison that finds changes **prints a line for each changed region**, behind a heading, and
one more for each line end in the name of its file: so there is just one line for each exactly when
no such name holds a line end. -/
theorem prints_line_for_each_change
    (hasks : Asks s line settings (.code directory language extensions output true))
    (hfile : Command.fileOf (Command.snapshotName settings output) = .ok snapshot)
    (hold : (Snapshot.read s.files snapshot).result = .ok old)
    (hnew : (Command.scan s directory language extensions).result = .ok new)
    (hchanged : ¬ new.Perm old) :
    (run s line).outcome.Shows 1
        (Command.lines (Command.changesShown ⟨old.diff new, new.diff old⟩)) ∧
      (run s line).outcome.output.toList.count '\n' = 1 + (old.diff new ++ new.diff old).length
        + ((old.diff new ++ new.diff old).map (·.path.toList.count '\n')).sum ∧
      ((run s line).outcome.output.toList.count '\n'
          = 1 + (old.diff new ++ new.diff old).length ↔
        ∀ r ∈ old.diff new ++ new.diff old, '\n' ∉ r.path.toList) ∧
      ((run s line).outcome.output.toList.splitOn '\n'
          = (Command.changesShown ⟨old.diff new, new.diff old⟩).map String.toList ++ [[]] ↔
        ∀ r ∈ old.diff new ++ new.diff old, '\n' ∉ r.path.toList) := by
  have hshows := shows_difference hasks hfile hold hnew hchanged
  have hcount := Command.count_changesShown ⟨old.diff new, new.diff old⟩
  rw [hshows.output]
  refine ⟨hshows, hcount, ?_, ?_⟩
  · rw [hcount, Nat.add_eq_left, List.sum_eq_zero_iff]
    simp only [List.forall_mem_map, List.count_eq_zero]
  · rw [Command.splitOn_lines_iff]
    exact Command.forall_changesShown_iff

/-- One file has been renamed, and **three lines** are printed behind the heading: the new name
looks like two lines. -/
theorem prints_line_for_each_change_deceptive :
    (run (sampleRenamed "c.js;2:2\n\t+ d.js") sampleCompare).outcome.Shows 1
        "Changes Detected!\n\t- p/a.js;2:2\n\t+ p/c.js;2:2\n\t+ d.js;2:2\n" ∧
      (run (sampleRenamed "c.js;2:2\n\t+ d.js") sampleCompare).outcome.output.toList.count '\n'
        = 1 + 2 + 1 := by
  obtain ⟨settings, hload⟩ : ∃ settings,
      Configuration.load (sampleRenamed "c.js;2:2\n\t+ d.js").environment
        (sampleRenamed "c.js;2:2\n\t+ d.js").files [] = .ok settings := ⟨_, rfl⟩
  have hold : (Snapshot.read (sampleRenamed "c.js;2:2\n\t+ d.js").files (Path.ofString "o")).result
      = .ok [sampleRegion "a.js"] := eq_ok_of_toOption (by decide +kernel)
  have hnew : (Command.scan (sampleRenamed "c.js;2:2\n\t+ d.js") "p" "js" ["js"]).result
      = .ok [sampleRegion "c.js;2:2\n\t+ d.js"] := eq_ok_of_toOption (by decide +kernel)
  obtain ⟨hshows, hcount, -, -⟩ := prints_line_for_each_change
    ⟨_, parse_sampleCompare, command_sampleCompare, hload⟩ (Command.fileOf_plain "o") hold hnew
    (by decide)
  have hprinted : Command.lines (Command.changesShown
      ⟨[sampleRegion "a.js"].diff [sampleRegion "c.js;2:2\n\t+ d.js"],
        [sampleRegion "c.js;2:2\n\t+ d.js"].diff [sampleRegion "a.js"]⟩)
      = "Changes Detected!\n\t- p/a.js;2:2\n\t+ p/c.js;2:2\n\t+ d.js;2:2\n" := by decide +kernel
  exact ⟨hprinted ▸ hshows, hcount⟩

end Drift
