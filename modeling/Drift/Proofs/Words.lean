import Drift.Unicode.Blank
import Drift.Unicode.Word
import Mathlib.Data.List.TakeWhile

/-!
# Runs of characters, and words

* `takeWhile_run`, `dropWhile_run` — a run of characters of one kind, before one of another kind.
* `not_mem_of_mem_splitOn` — the parts of a text do not hold what stands between them.
* `Unicode.not_isWord_of_isBlank` — no blank is a word character.
* **`Unicode.words_append`** — what stands before a blank is the first word of a text.
-/

namespace Drift

/-! ## Runs -/

section

variable {α : Type} {p : α → Bool} {run rest : List α}

theorem takeWhile_run (hrun : ∀ a ∈ run, p a = true) (hrest : ∀ a ∈ rest.head?, p a = false) :
    (run ++ rest).takeWhile p = run := by
  rw [List.takeWhile_append_of_pos hrun]
  cases rest with
  | nil => simp
  | cons a rest => rw [List.takeWhile_cons_of_neg (by simp [hrest a rfl]), List.append_nil]

theorem dropWhile_run (hrun : ∀ a ∈ run, p a = true) (hrest : ∀ a ∈ rest.head?, p a = false) :
    (run ++ rest).dropWhile p = rest := by
  rw [List.dropWhile_append_of_pos hrun]
  cases rest with
  | nil => rfl
  | cons a rest => rw [List.dropWhile_cons_of_neg (by simp [hrest a rfl])]

theorem head?_dropWhile (p : α → Bool) (s : List α) : ∀ a ∈ (s.dropWhile p).head?, p a = false := by
  intro a ha
  have hstop := List.head?_dropWhile_not p s
  rw [Option.mem_def.1 ha] at hstop
  exact hstop

/-- The parts of a list do not hold **what stands between them**. -/
theorem not_mem_of_mem_splitOn [BEq α] [LawfulBEq α] {a : α} {s part : List α}
    (h : part ∈ s.splitOn a) : a ∉ part := by
  induction s generalizing part with
  | nil =>
    rw [List.splitOn_nil, List.mem_singleton] at h
    exact h ▸ List.not_mem_nil
  | cons c s ih =>
    rw [List.splitOn_cons_eq_if_modifyHead] at h
    split at h
    · rcases List.mem_cons.1 h with rfl | h
      · exact List.not_mem_nil
      · exact ih h
    · next hc =>
      obtain ⟨first, others, hs⟩ := List.exists_cons_of_ne_nil (List.splitOn_ne_nil a s)
      rw [hs, List.modifyHead_cons] at h
      rw [hs] at ih
      rcases List.mem_cons.1 h with rfl | h
      · have hca : a ≠ c := fun hac => hc (beq_iff_eq.2 hac.symm)
        exact List.not_mem_cons_of_ne_of_not_mem hca (ih List.mem_cons_self)
      · exact ih (List.mem_cons_of_mem _ h)

end

namespace Unicode

/-! ## Blanks are no word characters -/

theorem CharSet.exists_range {set : CharSet} {n : Nat} (h : set.containsCode n = true) :
    ∃ range ∈ set, range.1 ≤ n ∧ n ≤ range.2 := by
  fun_induction CharSet.containsCode set n with
  | case1 | case2 => cases h
  | case3 first last rest n hfirst hlast =>
    exact ⟨(first, last), List.mem_cons_self, Nat.not_lt.1 hfirst, hlast⟩
  | case4 first last rest n hfirst hlast ih =>
    obtain ⟨range, hmem, hrange⟩ := ih h
    exact ⟨range, List.mem_cons_of_mem _ hmem, hrange⟩

/-- No blank is **a word character**. -/
theorem not_isWord_of_isBlank {c : Char} (h : isBlank c = true) : isWord c = false := by
  have hapart : ∀ blank ∈ blanks, ∀ range ∈ alphanumerics,
      blank.2 < range.1 ∨ range.2 < blank.1 := by decide +kernel
  rw [Bool.eq_false_iff]
  intro hword
  rcases Bool.or_eq_true _ _ ▸ hword with hline | hletter
  · rw [eq_of_beq hline] at h
    exact absurd h (by decide)
  · obtain ⟨blank, hblank, hfrom, hto⟩ := CharSet.exists_range h
    obtain ⟨range, hrange, hfrom', hto'⟩ := CharSet.exists_range hletter
    have := hapart blank hblank range hrange
    omega

/-! ## Words -/

variable {s word rest : List Char}

theorem words_nil : words [] = [] := by
  rw [words]
  rfl

theorem words_blank {blank : Char} (h : isBlank blank = true) : words (blank :: s) = words s := by
  rw [words, words, List.dropWhile_cons_of_pos h]

/-- What stands before a blank, or makes up the text, is **the first word**. -/
theorem words_append (hne : word ≠ []) (hword : ∀ c ∈ word, isBlank c = false)
    (hrest : ∀ c ∈ rest.head?, isBlank c = true) : words (word ++ rest) = word :: words rest := by
  obtain ⟨c, more, rfl⟩ := List.exists_cons_of_ne_nil hne
  obtain ⟨hc, hmore⟩ := List.forall_mem_cons.1 hword
  have hrun : ∀ d ∈ more, (!isBlank d) = true := by
    intro d hd
    rw [hmore d hd]
    rfl
  have hstop : ∀ d ∈ rest.head?, (!isBlank d) = false := by
    intro d hd
    rw [hrest d hd]
    rfl
  have hfirst : (c :: (more ++ rest)).dropWhile isBlank = c :: (more ++ rest) :=
    List.dropWhile_cons_of_neg (by simp [hc])
  rw [List.cons_append, words]
  split
  · next hnil => cases hfirst.symm.trans hnil
  · next hsplit =>
    obtain ⟨rfl, rfl⟩ := List.cons.inj (hfirst.symm.trans hsplit)
    rw [takeWhile_run hrun hstop, dropWhile_run hrun hstop]

end Unicode

end Drift
