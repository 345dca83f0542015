import Drift.Report
import Drift.Terminal.Message

/-!
# Reports on the screen

* `Terminal.report_eq_self` — a text without the character that begins colours is shown as it is.
* `Report.shown_eq_self` — so are the lines of a difference, when no path holds that character.
* `Report.shown_of_unchanged` — what is shown when nothing has changed.
-/

namespace Drift

namespace Terminal

/-- The character that begins a sequence that sets a colour. -/
def escape : Char := '\x1b'

theorem plainOnto_eq (done s : List Char) (h : escape ∉ s) :
    plainOnto done s = done.reverse ++ s := by
  fun_induction plainOnto done s with
  | case1 | case2 => exact absurd List.mem_cons_self h
  | case3 done c rest _ ih =>
    rw [ih (List.not_mem_of_not_mem_cons h), List.reverse_cons, List.append_assoc,
      List.singleton_append]
  | case4 done => exact (List.append_nil _).symm

theorem report_eq_self {s : String} (h : escape ∉ s.toList) : report s = s := by
  rw [report, plainOnto_eq _ _ h, List.reverse_nil, List.nil_append, String.ofList_toList]

end Terminal

namespace Report

theorem not_mem_number {c : Char} (hc : c.isDigit = false) (n : Nat) : c ∉ (toString n).toList := by
  rw [Nat.toString_eq_ofList_toDigits, String.toList_ofList]
  intro h
  have hdigit := Nat.isDigit_of_mem_toDigits (by decide) (by decide) h
  rw [hc] at hdigit
  cases hdigit

theorem escape_not_mem_line {mark : Char} {r : Region} (hmark : mark ≠ Terminal.escape)
    (h : Terminal.escape ∉ r.path.toList) : Terminal.escape ∉ (line mark r).toList := by
  have hfirst := not_mem_number (c := Terminal.escape) (by decide) r.start.line
  have hlast := not_mem_number (c := Terminal.escape) (by decide) r.stop.line
  have htab : Terminal.escape ∉ "\t".toList := by decide
  have hblank : Terminal.escape ∉ " ".toList := by decide
  have hsemicolon : Terminal.escape ∉ ";".toList := by decide
  have hcolon : Terminal.escape ∉ ":".toList := by decide
  have hmark : Terminal.escape ∉ mark.toString.toList := by
    rw [Char.toString_eq_singleton, String.toList_singleton, List.mem_singleton]
    exact hmark.symm
  simp only [line, changeLine, String.toList_append, List.mem_append, not_or]
  exact ⟨⟨⟨⟨⟨⟨⟨htab, hmark⟩, hblank⟩, h⟩, hsemicolon⟩, hfirst⟩, hcolon⟩, hlast⟩

/-- The lines of a difference are shown **as they are** when no path in it holds an escape. -/
theorem shown_eq_self {d : Difference Region}
    (h : ∀ r ∈ d.removed ++ d.added, Terminal.escape ∉ r.path.toList) :
    (lines d).map Terminal.report = lines d := by
  have hall : ∀ s ∈ lines d, Terminal.escape ∉ s.toList := by
    intro s hs
    unfold lines linesBy at hs
    split at hs
    · rcases List.mem_cons.1 hs with rfl | hs
      · decide
      rcases List.mem_append.1 hs with hs | hs
      · obtain ⟨r, hr, rfl⟩ := List.mem_map.1 hs
        exact escape_not_mem_line (by decide) (h r (List.mem_append_left _ hr))
      · obtain ⟨r, hr, rfl⟩ := List.mem_map.1 hs
        exact escape_not_mem_line (by decide) (h r (List.mem_append_right _ hr))
    · rw [List.mem_singleton.1 hs]
      decide
  rw [List.map_congr_left fun s hs => Terminal.report_eq_self (hall s hs), List.map_id']

/-- What is shown when **nothing has changed**. -/
theorem shown_of_unchanged {d : Difference Region} (h : d.hasChanges = false) :
    (lines d).map Terminal.report = ["No changes detected."] := by
  have hlines : lines d = ["No changes detected."] := by
    rw [lines, linesBy, if_neg (by rw [h]; exact Bool.false_ne_true)]
  rw [hlines, List.map_singleton, Terminal.report_eq_self (by decide)]

end Report

end Drift
