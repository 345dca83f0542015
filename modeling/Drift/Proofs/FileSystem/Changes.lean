import Drift.Proofs.FileSystem.Replace

/-!
# What changes in a file system

* `FileSystem.Rewritten` — nothing differs but one file; `write_eq_ok` and `rewritten_of_replace` —
  so it is when a file is written or replaced.
* `FileSystem.Furnished` — nothing differs but new directories on the way of a path;
  **`furnished_makeDirectories`** — so it is when directories are made, even if only some are.
-/

namespace Drift

/-- The path up to its `k`-th name. -/
def Path.upTo (p : Path) (k : Nat) : Path := ⟨p.anchor, p.parts.take k⟩

theorem Path.upTo_length (p : Path) : p.upTo p.parts.length = p := by
  rw [upTo, List.take_length]

theorem Path.upTo_parent (p : Path) (k : Nat) :
    p.parent.upTo k = p.upTo (min k (p.parts.length - 1)) := by
  rw [upTo, upTo, parent, List.dropLast_eq_take, List.take_take]

theorem Entry.Alike.trans {e e' e'' : Entry} (h : Alike e e') (h' : Alike e' e'') :
    Alike e e'' := by
  rcases h with rfl | ⟨he, he'⟩
  · exact h'
  · rcases h' with rfl | ⟨-, he''⟩
    · exact .inr ⟨he, he'⟩
    · exact .inr ⟨he, he''⟩

theorem Entry.Alike.isDirectory {e e' : Entry} (h : Alike e e') (he : e.isDirectory = true) :
    e'.isDirectory = true := by
  rcases h with rfl | ⟨-, he'⟩
  · exact he
  · exact he'

namespace FileSystem

variable {fs mid fs' : FileSystem} {p : Path} {place : Place} {content : Bytes}

/-! ## Files -/

/-- **Nothing differs but one file**, at the end of some names. There is no directory in its place
before, and everywhere else is what was there, up to the contents of directories. -/
structure Rewritten (names : List String) (fs fs' : FileSystem) : Prop where
  here : fs'.here = fs.here
  noDirectory : ∀ entries, fs.tree.get? names ≠ some (.directory entries)
  file : ∃ content, fs'.tree.get? names = some (.file content)
  elsewhere : ∀ {others}, ¬ names <+: others →
    Option.Rel Entry.Alike (fs.tree.get? others) (fs'.tree.get? others)

theorem rewritten_put (h : place.In fs.tree)
    (hdir : ∀ names entries, place ≠ .taken names (.directory entries)) (content : Bytes) :
    Rewritten place.names fs (fs.put place.names (.file content)) where
  here := rfl
  noDirectory := h.not_directory hdir
  file := ⟨content, h.get?_put _⟩
  elsewhere hnames := Entry.rel_get?_put _ _ hnames

/-- A file that is replaced is **all that changes**. -/
theorem rewritten_of_replace (h : (fs.replace p content).2 = .ok ()) :
    ∃ place, fs.locate .entry p = .ok place ∧
      Rewritten place.names fs (fs.replace p content).1 := by
  obtain ⟨place, hplace, hdir, heq⟩ := replace_ok h
  rw [heq]
  exact ⟨place, hplace, rewritten_put (in_of_locate hplace) hdir content⟩

/-- A file that is written is all that changes, and a sink does not change at all. -/
theorem write_eq_ok (h : fs.write p content = .ok fs') :
    ∃ place, fs.locate .writing p = .ok place ∧ (fs' = fs ∨ Rewritten place.names fs fs') := by
  unfold write at h
  split at h
  · cases h
  · cases h
  · next names hplace =>
    cases h
    exact ⟨_, hplace, .inl rfl⟩
  · next names e hdir _ hplace =>
    cases h
    refine ⟨_, hplace, .inr (rewritten_put (in_of_locate hplace) ?_ content)⟩
    exact fun _ entries heq => by cases heq; exact hdir entries rfl
  · next hplace =>
    cases h
    exact ⟨_, hplace, .inr (rewritten_put (in_of_locate hplace) nofun content)⟩

/-! ## Directories -/

/-- **Nothing differs but new directories** on the way of a path: what was there still is, up to the
contents of directories, and what is new is a directory at the end of a part of the path. -/
structure Furnished (p : Path) (fs fs' : FileSystem) : Prop where
  here : fs'.here = fs.here
  kept : ∀ {names e}, fs.tree.get? names = some e →
    ∃ e', fs'.tree.get? names = some e' ∧ Entry.Alike e e'
  made : ∀ {names e'}, fs.tree.get? names = none → fs'.tree.get? names = some e' →
    e'.isDirectory = true ∧ ∃ k, fs'.locate .entry (p.upTo k) = .ok (.taken names e')

theorem Furnished.refl (p : Path) (fs : FileSystem) : Furnished p fs fs where
  here := rfl
  kept h := ⟨_, h, .inl rfl⟩
  made h h' := by rw [h] at h'; cases h'

theorem Furnished.of_parent (h : Furnished p.parent fs fs') : Furnished p fs fs' where
  here := h.here
  kept := h.kept
  made hnone he' := by
    obtain ⟨hdir, k, hk⟩ := h.made hnone he'
    exact ⟨hdir, _, p.upTo_parent k ▸ hk⟩

theorem Furnished.makeDirectory {k : Nat} (h : Furnished p fs mid)
    (hmake : mid.makeDirectory (p.upTo k) = .ok fs') : Furnished p fs fs' := by
  unfold FileSystem.makeDirectory at hmake
  split at hmake
  · cases hmake
  · cases hmake
  next directory name hplace =>
  cases hmake
  have hfree := in_of_locate hplace
  -- Whatever a part of the path leads to is where it was.
  have hlocate {j : Nat} {old : Place} {e' : Entry} (hold : mid.locate .entry (p.upTo j) = .ok old)
      (he' : (mid.put (directory ++ [name]) .empty).tree.get? old.names = some e') :
      (mid.put (directory ++ [name]) .empty).locate .entry (p.upTo j)
        = .ok (.taken old.names e') := by
    have hnew (target : String) : Entry.empty ≠ .link target := nofun
    obtain ⟨found, hfound, hnames⟩ := locate_put hfree hnew hold
    rw [← hnames] at he' ⊢
    rw [hfound, ← (in_of_locate hfound).eq_taken he']
  refine ⟨h.here, fun he => ?_, fun {names e'} hnone he' => ?_⟩
  · obtain ⟨e₁, he₁, halike⟩ := h.kept he
    obtain ⟨e₂, he₂, halike'⟩ := (hfree.filled .empty).exists_get? he₁
    exact ⟨e₂, he₂, halike.trans halike'⟩
  · cases hmid : mid.tree.get? names with
    | none =>
      obtain ⟨rfl, rfl⟩ := (hfree.filled .empty).eq_of_get? (fun _ _ => rfl) hmid he'
      exact ⟨rfl, k, hlocate hplace he'⟩
    | some e₁ =>
      obtain ⟨hdir, j, hj⟩ := h.made hnone hmid
      obtain ⟨e₂, he₂, halike⟩ := (hfree.filled .empty).exists_get? hmid
      obtain rfl := Option.some.inj (he₂.symm.trans he')
      exact ⟨halike.isDirectory hdir, j, hlocate hj he'⟩

theorem Furnished.makeDirectory_self (h : Furnished p fs mid)
    (hmake : mid.makeDirectory p = .ok fs') : Furnished p fs fs' :=
  h.makeDirectory (p.upTo_length ▸ hmake)

/-- Making directories changes **nothing but them**, even if it fails on the way. -/
theorem furnished_makeDirectories (fs : FileSystem) (p : Path) :
    Furnished p fs (fs.makeDirectories p).1 := by
  fun_induction makeDirectories fs p with
  | case1 _ made hmake => exact (Furnished.refl _ _).makeDirectory_self hmake
  | case2 => exact .refl _ _
  | case3 _ _ _ _ _ _ habove ih =>
    rw [habove] at ih
    exact ih.of_parent
  | case4 _ _ _ _ _ habove _ hmake ih =>
    rw [habove] at ih
    exact ih.of_parent.makeDirectory_self hmake
  | case5 _ _ _ _ _ habove _ _ ih | case6 _ _ _ _ _ habove _ _ _ ih =>
    rw [habove] at ih
    exact ih.of_parent
  | case7 => exact .refl _ _

end FileSystem

end Drift
