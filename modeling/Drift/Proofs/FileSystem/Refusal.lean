import Drift.Proofs.FileSystem.ReadBack

/-!
# Why a file is not replaced

* `FileSystem.OfPath`, **`FileSystem.ofPath_of_replace`** — it is the system that refuses, unless the
  path holds a NUL.
* `FileSystem.isDirectory_parent` — a path that leads anywhere is one below a directory.
* `FileSystem.Barred`, `FileSystem.Barred.replace_ne_ok` — so nothing is replaced elsewhere, or in the
  place of a directory.
* `FileSystem.fault_of_isFile` — the system says what is there, unless the path is too long.
-/

namespace Drift

/-! ## Names without NUL -/

namespace FileSystem

theorem mem_collapse {steps done : List String} {name : String} (h : name ∈ collapse done steps) :
    name ∈ done ∨ name ∈ steps := by
  induction steps generalizing done with
  | nil => exact .inl h
  | cons step steps ih =>
    rcases ih h with h | h
    · split at h
      · exact .inl ((List.dropLast_sublist _).subset h)
      · rcases List.mem_append.1 h with h | h
        · exact .inl h
        · exact .inr (List.mem_cons.2 (.inl (List.mem_singleton.1 h)))
    · exact .inr (List.mem_cons_of_mem _ h)

theorem nul_not_mem_stagingDigits (count k : Nat) : '\x00' ∉ stagingDigits count k := by
  induction count generalizing k with
  | zero => exact List.not_mem_nil
  | succ count ih =>
    have hletters : ∀ i < stagingAlphabet.length, '\x00' ≠ stagingAlphabet.getD i '_' := by decide
    intro hc
    rcases List.mem_cons.1 hc with hc | hc
    · exact hletters _ (Nat.mod_lt _ (by decide)) hc
    · exact ih _ hc

variable {fs : FileSystem} {aim : Aim} {p : Path} {content : Bytes} {fault : Fault}

theorem nul_not_mem_stagingPath (hhere : ∀ name ∈ fs.here, '\x00' ∉ name.toList)
    (hnul : '\x00' ∉ p.text.toList) (k : Nat) :
    '\x00' ∉ (fs.stagingPath p (stagingLetters k)).text.toList := by
  rw [Path.nul_mem_text_iff] at hnul ⊢
  rintro ⟨part, hpart, hc⟩
  rcases List.mem_append.1 hpart with hpart | hpart
  · rcases mem_collapse hpart with hpart | hpart
    · split at hpart
      · cases hpart
      · exact hhere part hpart hc
    · exact hnul ⟨part, (List.dropLast_sublist _).subset hpart, hc⟩
  · obtain rfl := List.mem_singleton.1 hpart
    have hname : '\x00' ∉ p.name.toList := by
      unfold Path.name
      cases hlast : p.parts.getLast? with
      | none => decide
      | some last => exact fun hc => hnul ⟨last, List.mem_of_getLast? hlast, hc⟩
    have hletters := nul_not_mem_stagingDigits 8 k
    simp [String.join, stagingLetters, hname, hletters] at hc

/-! ## Faults -/

/-- A fault that **a path** can give rise to. -/
inductive OfPath (p : Path) : Fault → Prop where
  | nul (h : '\x00' ∈ p.text.toList) : OfPath p .nulInPath
  | system (e : FileError) (text : String) : OfPath p (.file e text)

theorem ofPath_of_locate (h : fs.locate aim p = .error fault) : OfPath p fault := by
  by_cases hnul : '\x00' ∈ p.text.toList
  · unfold locate at h
    rw [if_pos (List.contains_iff_mem.2 hnul)] at h
    cases h
    exact .nul hnul
  · obtain ⟨e, rfl⟩ := fault_of_locate hnul h
    exact .system e _

theorem ofPath_of_stage (hhere : ∀ name ∈ fs.here, '\x00' ∉ name.toList) {k tries : Nat}
    (h : fs.stage p content k tries = .error fault) : OfPath p fault := by
  induction tries generalizing k with
  | zero =>
    cases h
    exact .system ..
  | succ tries ih =>
    unfold stage at h
    simp only at h
    split at h
    · next hlocate =>
      cases h
      cases ofPath_of_locate hlocate with
      | nul hstaged =>
        exact .nul (Decidable.not_not.1 fun hnul => nul_not_mem_stagingPath hhere hnul k hstaged)
      | system e text => exact .system e text
    · exact ih h
    · cases h

theorem ofPath_of_rename {source : Path} (hsource : '\x00' ∉ source.text.toList)
    (h : fs.rename source p = .error fault) : OfPath p fault := by
  unfold rename at h
  split at h
  · next hlocate =>
    cases h
    obtain ⟨e, rfl⟩ := fault_of_locate hsource hlocate
    exact .system e _
  · cases h
    exact .system ..
  · split at h
    · next hlocate =>
      cases h
      exact ofPath_of_locate hlocate
    · split at h
      · cases h
        exact .system ..
      · split at h
        · cases h
          exact .system ..
        all_goals cases h

/-- A file that is not replaced is **refused by the system**, unless its path holds a NUL. -/
theorem ofPath_of_replace (hhere : ∀ name ∈ fs.here, '\x00' ∉ name.toList)
    (h : (fs.replace p content).2 = .error fault) : OfPath p fault := by
  unfold replace at h
  split at h
  · next hstage =>
    cases h
    exact ofPath_of_stage hhere hstage
  · next staged laid hstage =>
    obtain ⟨directory, name, hfree, rfl⟩ := stage_eq_ok hstage
    simp only [remove_staged hfree] at h
    split at h
    · cases h
    · next hrename =>
      cases h
      exact ofPath_of_rename (spelled_of_locate hfree).nul_not_mem hrename

/-! ## Directories -/

theorem parts_of_replace (h : (fs.replace p content).2 = .ok ()) : p.parts ≠ [] := by
  unfold replace at h
  split at h
  · cases h
  · next staged laid hstage =>
    obtain ⟨directory, name, hfree, rfl⟩ := stage_eq_ok hstage
    intro hparts
    unfold rename at h
    simp only [locate_staged hfree, remove_staged hfree, hparts, true_or, if_true] at h
    split at h
    · next hrename => split at hrename <;> cases hrename
    · cases h

theorem Spelled.parent (h : Spelled p) (hparts : p.parts ≠ []) : Spelled p.parent where
  noNul := by
    refine Bool.eq_false_iff.2 fun hc => h.nul_not_mem ?_
    obtain ⟨part, hpart, hc⟩ := (Path.nul_mem_text_iff _).1 (List.contains_iff_mem.1 hc)
    exact (Path.nul_mem_text_iff p).2 ⟨part, (List.dropLast_sublist _).subset hpart, hc⟩
  short := by
    have hshort := h.short
    rw [← p.child_parent hparts] at hshort
    have hlength := p.parent.byteLength_le_child (p.parts.getLast hparts)
    unfold pathLimit at *
    omega

/-- A path that leads anywhere is one **below a directory**. -/
theorem isDirectory_parent {place : Place} (hparts : p.parts ≠ [])
    (h : fs.locate aim p = .ok place) : fs.isDirectory p.parent = .ok true := by
  obtain ⟨hspelled, e, he, hleads⟩ := locate_eq_ok_iff.1 h
  rw [← List.dropLast_concat_getLast hparts] at hleads
  obtain ⟨names, entries, -, hleads, -⟩ := hleads.parent
  have hlocate : fs.locate .content p.parent = .ok (.taken names (.directory entries)) :=
    locate_eq_ok_iff.2 ⟨hspelled.parent hparts, e, he, hleads⟩
  unfold isDirectory entry?
  simp only [hlocate]
  rfl

/-- A path at which no file can be replaced: it is not one **below a directory**, or there is a
directory, and not just a link to one. -/
inductive Barred (fs : FileSystem) (p : Path) : Prop where
  | parent (h : fs.isDirectory p.parent ≠ .ok true)
  | directory {names : List String} {entries : List (String × Entry)}
      (h : fs.locate .entry p = .ok (.taken names (.directory entries)))

theorem Barred.replace_ne_ok (h : fs.Barred p) (content : Bytes) :
    (fs.replace p content).2 ≠ .ok () := by
  intro hreplace
  obtain ⟨place, hplace, hdir, -⟩ := replace_ok hreplace
  cases h with
  | parent h => exact h (isDirectory_parent (parts_of_replace hreplace) hplace)
  | directory h => exact hdir _ _ (Except.ok.inj (hplace.symm.trans h))

end FileSystem

/-! ## Asking what is there -/

theorem Entry.error_of_follow {top e : Entry} {links : Nat} {way steps : List String}
    {err : FileError} (h : follow top .content links way e steps = .error err) :
    err = .noEntry ∨ err = .notDirectory ∨ err = .tooManyLinks ∨ err = .nameTooLong := by
  induction links, way, e, steps using follow_induct top .content with
  | done =>
    rw [follow_nil] at h
    cases h
  | leaf links way e step rest hleaf =>
    rw [follow_of_not_directory hleaf] at h
    cases h
    exact .inr (.inl rfl)
  | stay links way entries step rest hhere ih =>
    rw [follow_stay hhere] at h
    exact ih h
  | up links way entries rest ih =>
    rw [follow_up] at h
    split at h
    · cases h
      exact .inl rfl
    · next habove => exact ih _ habove h
  | unnamed links way entries step rest hhere hup hn =>
    rw [follow_long hhere hup (long_of_not_named hhere hup hn)] at h
    cases h
    exact .inr (.inr (.inr rfl))
  | missing links way entries step rest hn hnone =>
    rw [follow_missing hn hnone] at h
    split at h
    · cases h
    · cases h
      exact .inl rfl
  | link links way entries step target rest hn hlink ihroot ih =>
    rw [follow_link hn hlink not_at_last_link] at h
    cases links with
    | zero =>
      cases h
      exact .inr (.inr (.inl rfl))
    | succ links =>
      simp only at h
      split at h
      · exact ihroot _ rfl h
      · exact ih _ rfl h
  | down links way entries step below rest hn hnolink hbelow ih =>
    rw [follow_down hn hnolink hbelow] at h
    exact ih h

/-- Whether a file is there **can be said**, unless the path or a name on its way is too long. -/
theorem FileSystem.fault_of_isFile {fs : FileSystem} {p : Path} {fault : Fault}
    (h : fs.isFile p = .error fault) : fault = .file .nameTooLong p.text := by
  unfold isFile entry? at h
  split at h
  all_goals cases h
  next hnot hentry hdir hlinks hnul hlocate =>
  by_cases hspelled : Spelled p
  · rw [locate_of_spelled hspelled, Entry.followFrom] at hlocate
    cases he : fs.tree.get? (fs.startOf p) with
    | none =>
      rw [he] at hlocate
      cases hlocate
      exact absurd rfl (hentry _)
    | some e =>
      rw [he] at hlocate
      simp only at hlocate
      cases hfollow : Entry.follow fs.tree .content Entry.linkLimit (fs.startOf p).reverse e
        p.parts with
      | ok => rw [hfollow] at hlocate; cases hlocate
      | error err =>
        rw [hfollow] at hlocate
        cases hlocate
        rcases Entry.error_of_follow hfollow with rfl | rfl | rfl | rfl
        · exact absurd rfl (hentry _)
        · exact absurd rfl (hdir _)
        · exact absurd rfl (hlinks _)
        · rfl
  · unfold locate at hlocate
    split at hlocate
    · cases hlocate
      exact absurd rfl hnul
    split at hlocate
    · cases hlocate
      rfl
    · next hno hlong => exact absurd ⟨Bool.eq_false_iff.2 hno, Nat.not_le.1 hlong⟩ hspelled

end Drift
