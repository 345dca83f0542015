import Drift.FileSystem
import Drift.Proofs.FileSystem.Entry
import Drift.Proofs.Result

/-!
# Following paths

* `Entry.Named` — a step that names an entry; `Entry.follow_induct` — induction along steps by what
  each of them does.
* `Entry.Leads` — the ways on which steps lead to a place; **`follow_eq_ok_iff`** — they are the
  ones that are followed.
* `Place.In`, `Entry.Leads.in_tree` — every place is one of the tree.
* `FileSystem.Spelled`, `FileSystem.locate_eq_ok_iff` — where a path leads, for paths that can be
  asked for at all.
* `FileSystem.fault_of_locate`, `FileSystem.fault_of_read` — why a path without NUL leads nowhere.
-/

namespace Drift

/-- The names on the way to a place. -/
def Place.names : Place → List String
  | .taken names _ => names
  | .free directory name => directory ++ [name]

/-- The place is one **of the tree**. -/
inductive Place.In (top : Entry) : Place → Prop where
  | taken {names : List String} {e : Entry} (h : top.get? names = some e) : In top (.taken names e)
  | free {directory : List String} {name : String} {entries : List (String × Entry)}
      (h : top.get? directory = some (.directory entries)) (hn : Keyed.get? entries name = none) :
      In top (.free directory name)

namespace Entry

/-- A step that **names an entry** of the directory, with more steps behind it. -/
structure Named (aim : Aim) (step : String) (rest : List String) : Prop where
  notHere : ¬ (step = "" ∨ step = ".")
  notUp : step ≠ ".."
  noSlashes : ¬ (aim = .writing ∧ endsInSlashes rest = true)
  short : ¬ nameLimit < step.utf8ByteSize

variable {top e : Entry} {aim : Aim} {links : Nat} {way rest : List String} {step : String}
  {entries : List (String × Entry)} {place : Place}

/-! ## One step -/

theorem eq_directory (h : e.isDirectory = true) : ∃ entries, e = .directory entries := by
  cases e with
  | directory entries => exact ⟨entries, rfl⟩
  | _ => cases h

@[simp] theorem follow_nil : follow top aim links way e [] = .ok (.taken way.reverse e) := by
  cases links <;> rfl

theorem follow_of_not_directory (h : e.isDirectory = false) :
    follow top aim links way e (step :: rest) = .error .notDirectory := by
  cases e with
  | directory => cases h
  | _ => cases links <;> rfl

theorem follow_stay (h : step = "" ∨ step = ".") :
    follow top aim links way (.directory entries) (step :: rest)
      = follow top aim links way (.directory entries) rest := by
  cases links <;> exact if_pos h

theorem follow_up : follow top aim links way (.directory entries) (".." :: rest)
    = match top.get? way.tail.reverse with
      | none => .error .noEntry
      | some above => follow top aim links way.tail above rest := by
  cases links <;> rfl

theorem follow_named (h : Named aim step rest) :
    follow top aim links way (.directory entries) (step :: rest)
      = match Keyed.get? entries step with
        | none => if rest = [] then .ok (.free way.reverse step) else .error .noEntry
        | some (.link target) =>
          if rest = [] ∧ aim = .entry then .ok (.taken (step :: way).reverse (.link target))
          else match links with
            | 0 => .error .tooManyLinks
            | links + 1 =>
              if startsAtRoot target then follow top aim links [] top (stepsOf target ++ rest)
              else follow top aim links way (.directory entries) (stepsOf target ++ rest)
        | some below => follow top aim links (step :: way) below rest := by
  cases links <;>
    rewrite [follow, followWith, if_neg h.notHere, if_neg h.notUp, if_neg h.noSlashes,
      if_neg h.short] <;>
    rfl

theorem follow_long (hhere : ¬ (step = "" ∨ step = ".")) (hup : step ≠ "..")
    (hlong : nameLimit < step.utf8ByteSize) :
    follow top .content links way (.directory entries) (step :: rest) = .error .nameTooLong := by
  have haim : ¬ (Aim.content = .writing ∧ endsInSlashes rest) := fun h => absurd h.1 (by decide)
  cases links <;> rw [follow, followWith, if_neg hhere, if_neg hup, if_neg haim, if_pos hlong]

theorem long_of_not_named (hhere : ¬ (step = "" ∨ step = ".")) (hup : step ≠ "..")
    (hn : ¬ Named .content step rest) : nameLimit < step.utf8ByteSize :=
  Decidable.not_not.1 fun hlong => hn ⟨hhere, hup, nofun, hlong⟩

theorem follow_down {below : Entry} (hn : Named aim step rest)
    (hlink : ∀ target, below ≠ .link target) (h : Keyed.get? entries step = some below) :
    follow top aim links way (.directory entries) (step :: rest)
      = follow top aim links (step :: way) below rest := by
  rw [follow_named hn, h]
  split
  · next heq => cases heq
  · next heq => exact absurd (Option.some.inj heq) (hlink _)
  · next heq => rw [Option.some.inj heq]

theorem follow_missing (hn : Named aim step rest) (h : Keyed.get? entries step = none) :
    follow top aim links way (.directory entries) (step :: rest)
      = if rest = [] then .ok (.free way.reverse step) else .error .noEntry := by
  rw [follow_named hn, h]

/-- Where the content is looked for, every link is followed, the last one too. -/
theorem not_at_last_link : ¬ (rest = [] ∧ Aim.content = .entry) := fun h => absurd h.2 (by decide)

section Link

variable {target : String} (hn : Named aim step rest)
  (h : Keyed.get? entries step = some (.link target)) (hne : ¬ (rest = [] ∧ aim = .entry))

include hn h hne

theorem follow_link : follow top aim links way (.directory entries) (step :: rest)
    = match links with
      | 0 => .error .tooManyLinks
      | links + 1 =>
        if startsAtRoot target then follow top aim links [] top (stepsOf target ++ rest)
        else follow top aim links way (.directory entries) (stepsOf target ++ rest) := by
  rw [follow_named hn, h]
  exact if_neg hne

theorem follow_linkToRoot (hroot : startsAtRoot target = true) :
    follow top aim (links + 1) way (.directory entries) (step :: rest)
      = follow top aim links [] top (stepsOf target ++ rest) :=
  (follow_link hn h hne).trans (if_pos hroot)

theorem follow_linkFromHere (hroot : ¬ startsAtRoot target = true) :
    follow top aim (links + 1) way (.directory entries) (step :: rest)
      = follow top aim links way (.directory entries) (stepsOf target ++ rest) :=
  (follow_link hn h hne).trans (if_neg hroot)

end Link

theorem exists_above (he : top.get? way.reverse = some e) :
    ∃ above, top.get? way.tail.reverse = some above := by
  cases way with
  | nil => exact ⟨_, he⟩
  | cons step way =>
    rw [List.reverse_cons] at he
    obtain ⟨_, habove⟩ := isDirectory_of_prefix he (List.cons_ne_nil _ _)
    exact ⟨_, habove⟩

theorem get?_down {below : Entry} (he : top.get? way.reverse = some (.directory entries))
    (h : Keyed.get? entries step = some below) : top.get? (step :: way).reverse = some below := by
  rw [List.reverse_cons, get?_snoc he, h]

theorem named_of_follow
    (h : follow top aim links way (.directory entries) (step :: rest) = .ok place)
    (hhere : ¬ (step = "" ∨ step = ".")) (hup : step ≠ "..") : Named aim step rest := by
  have hwith : ∃ jump,
      followWith top aim jump way (.directory entries) (step :: rest) = .ok place := by
    cases links with
    | zero => exact ⟨none, h⟩
    | succ links => exact ⟨some (follow top aim links), h⟩
  obtain ⟨jump, h⟩ := hwith
  rw [followWith, if_neg hhere, if_neg hup] at h
  split at h
  · cases h
  · next hslashes =>
    split at h
    · cases h
    · next hshort => exact ⟨hhere, hup, hslashes, hshort⟩

/-! ## All steps -/

/-- Steps **lead to a place** from the entry at the end of the names `way`. -/
inductive Leads (top : Entry) (aim : Aim) :
    (links : Nat) → (way : List String) → (e : Entry) → (steps : List String) → Place → Prop where
  | done {links : Nat} {way : List String} {e : Entry} :
      Leads top aim links way e [] (.taken way.reverse e)
  | stay {links : Nat} {way : List String} {entries : List (String × Entry)} {step : String}
      {rest : List String} {place : Place} (h : step = "" ∨ step = ".")
      (hl : Leads top aim links way (.directory entries) rest place) :
      Leads top aim links way (.directory entries) (step :: rest) place
  | up {links : Nat} {way : List String} {entries : List (String × Entry)} {rest : List String}
      {above : Entry} {place : Place} (h : top.get? way.tail.reverse = some above)
      (hl : Leads top aim links way.tail above rest place) :
      Leads top aim links way (.directory entries) (".." :: rest) place
  | free {links : Nat} {way : List String} {entries : List (String × Entry)} {step : String}
      (hn : Named aim step []) (h : Keyed.get? entries step = none) :
      Leads top aim links way (.directory entries) [step] (.free way.reverse step)
  | stop {links : Nat} {way : List String} {entries : List (String × Entry)} {step target : String}
      (hn : Named aim step []) (haim : aim = .entry)
      (h : Keyed.get? entries step = some (.link target)) :
      Leads top aim links way (.directory entries) [step]
        (.taken (step :: way).reverse (.link target))
  | linkToRoot {links : Nat} {way : List String} {entries : List (String × Entry)}
      {step target : String} {rest : List String} {place : Place} (hn : Named aim step rest)
      (h : Keyed.get? entries step = some (.link target)) (hne : ¬ (rest = [] ∧ aim = .entry))
      (hroot : startsAtRoot target = true)
      (hl : Leads top aim links [] top (stepsOf target ++ rest) place) :
      Leads top aim (links + 1) way (.directory entries) (step :: rest) place
  | link {links : Nat} {way : List String} {entries : List (String × Entry)}
      {step target : String} {rest : List String} {place : Place} (hn : Named aim step rest)
      (h : Keyed.get? entries step = some (.link target)) (hne : ¬ (rest = [] ∧ aim = .entry))
      (hroot : ¬ startsAtRoot target = true)
      (hl : Leads top aim links way (.directory entries) (stepsOf target ++ rest) place) :
      Leads top aim (links + 1) way (.directory entries) (step :: rest) place
  | down {links : Nat} {way : List String} {entries : List (String × Entry)} {step : String}
      {rest : List String} {below : Entry} {place : Place} (hn : Named aim step rest)
      (hlink : ∀ target, below ≠ .link target) (h : Keyed.get? entries step = some below)
      (hl : Leads top aim links (step :: way) below rest place) :
      Leads top aim links way (.directory entries) (step :: rest) place

/-- **Induction along steps** as they are followed. A link uses up one of the links and may bring
more steps than it takes. -/
theorem follow_induct (top : Entry) (aim : Aim)
    {motive : Nat → List String → Entry → List String → Prop}
    (done : ∀ links way e, motive links way e [])
    (leaf : ∀ links way e step rest, e.isDirectory = false → motive links way e (step :: rest))
    (stay : ∀ links way entries step rest, step = "" ∨ step = "." →
      motive links way (.directory entries) rest →
      motive links way (.directory entries) (step :: rest))
    (up : ∀ links way entries rest,
      (∀ above, top.get? way.tail.reverse = some above → motive links way.tail above rest) →
      motive links way (.directory entries) (".." :: rest))
    (unnamed : ∀ links way entries step rest, ¬ (step = "" ∨ step = ".") → step ≠ ".." →
      ¬ Named aim step rest → motive links way (.directory entries) (step :: rest))
    (missing : ∀ links way entries step rest, Named aim step rest → Keyed.get? entries step = none →
      motive links way (.directory entries) (step :: rest))
    (link : ∀ links way entries step target rest, Named aim step rest →
      Keyed.get? entries step = some (.link target) →
      (∀ fewer, links = fewer + 1 → motive fewer [] top (stepsOf target ++ rest)) →
      (∀ fewer, links = fewer + 1 →
        motive fewer way (.directory entries) (stepsOf target ++ rest)) →
      motive links way (.directory entries) (step :: rest))
    (down : ∀ links way entries step below rest, Named aim step rest →
      (∀ target, below ≠ .link target) → Keyed.get? entries step = some below →
      motive links (step :: way) below rest → motive links way (.directory entries) (step :: rest))
    (links : Nat) (way : List String) (e : Entry) (steps : List String) :
    motive links way e steps := by
  induction links using Nat.strongRecOn generalizing way e steps with
  | ind links ihlinks =>
  induction steps generalizing way e with
  | nil => exact done links way e
  | cons step rest ih =>
    cases e with
    | directory entries =>
      by_cases hhere : step = "" ∨ step = "."
      · exact stay links way entries step rest hhere (ih way _)
      by_cases hup : step = ".."
      · subst hup
        exact up links way entries rest fun above _ => ih way.tail above
      by_cases hn : Named aim step rest
      · have hfewer {fewer : Nat} (h : links = fewer + 1) : fewer < links := by omega
        cases hbelow : Keyed.get? entries step with
        | none => exact missing links way entries step rest hn hbelow
        | some below =>
          by_cases hlink : ∃ target, below = .link target
          · obtain ⟨target, rfl⟩ := hlink
            exact link links way entries step target rest hn hbelow
              (fun fewer h => ihlinks fewer (hfewer h) _ _ _)
              (fun fewer h => ihlinks fewer (hfewer h) _ _ _)
          · exact down links way entries step below rest hn
              (fun target h => hlink ⟨target, h⟩) hbelow (ih _ _)
      · exact unnamed links way entries step rest hhere hup hn
    | _ => exact leaf links way _ step rest rfl

theorem leads_of_follow {steps : List String}
    (h : follow top aim links way e steps = .ok place) : Leads top aim links way e steps place := by
  induction links, way, e, steps using follow_induct top aim with
  | done =>
    rw [follow_nil] at h
    cases h
    exact .done
  | leaf links way e step rest hleaf =>
    rw [follow_of_not_directory hleaf] at h
    cases h
  | stay links way entries step rest hhere ih =>
    rw [follow_stay hhere] at h
    exact .stay hhere (ih h)
  | up links way entries rest ih =>
    rw [follow_up] at h
    split at h
    · cases h
    · next habove => exact .up habove (ih _ habove h)
  | unnamed links way entries step rest hhere hup hn =>
    exact absurd (named_of_follow h hhere hup) hn
  | missing links way entries step rest hn hnone =>
    rw [follow_missing hn hnone] at h
    split at h
    · next hrest =>
      cases h
      rw [hrest] at hn ⊢
      exact .free hn hnone
    · cases h
  | link links way entries step target rest hn hlink ihroot ih =>
    by_cases hend : rest = [] ∧ aim = .entry
    · rw [follow_named hn, hlink] at h
      simp only [if_pos hend] at h
      cases h
      rw [hend.1] at hn ⊢
      exact .stop hn hend.2 hlink
    rw [follow_link hn hlink hend] at h
    cases links with
    | zero => cases h
    | succ links =>
      simp only at h
      split at h
      · next hroot => exact .linkToRoot hn hlink hend hroot (ihroot _ rfl h)
      · next hroot => exact .link hn hlink hend hroot (ih _ rfl h)
  | down links way entries step below rest hn hnolink hbelow ih =>
    rw [follow_down hn hnolink hbelow] at h
    exact .down hn hnolink hbelow (ih h)

/-- The ways on which steps lead to a place are **the ones that are followed**. -/
theorem follow_eq_ok_iff {steps : List String} :
    follow top aim links way e steps = .ok place ↔ Leads top aim links way e steps place := by
  refine ⟨leads_of_follow, fun h => ?_⟩
  induction h with
  | done => exact follow_nil
  | stay h _ ih => rw [follow_stay h, ih]
  | up h _ ih => rw [follow_up, h]; exact ih
  | free hn h => rw [follow_missing hn h, if_pos rfl]
  | stop hn haim h => rw [follow_named hn, h]; exact if_pos ⟨rfl, haim⟩
  | linkToRoot hn h hne hroot _ ih => rw [follow_linkToRoot hn h hne hroot, ih]
  | link hn h hne hroot _ ih => rw [follow_linkFromHere hn h hne hroot, ih]
  | down hn hlink h _ ih => rw [follow_down hn hlink h, ih]

/-- Every place is one **of the tree**. -/
theorem Leads.in_tree {steps : List String} (h : Leads top aim links way e steps place)
    (he : top.get? way.reverse = some e) : place.In top := by
  induction h with
  | done => exact .taken he
  | stay _ _ ih => exact ih he
  | up h _ ih => exact ih h
  | free _ h => exact .free he h
  | stop _ _ h => exact .taken (get?_down he h)
  | linkToRoot _ _ _ _ _ ih => exact ih rfl
  | link _ _ _ _ _ ih => exact ih he
  | down _ _ h _ ih => exact ih (get?_down he h)

end Entry

/-! ## Paths -/

namespace FileSystem

/-- The names on the way to where a path starts. -/
def startOf (fs : FileSystem) (p : Path) : List String := if p.isAbsolute then [] else fs.here

/-- The path can be **asked for**: it is not too long and holds no NUL. -/
structure Spelled (p : Path) : Prop where
  noNul : p.text.toList.contains '\x00' = false
  short : p.byteLength < pathLimit

variable {fs : FileSystem} {aim : Aim} {p : Path} {place : Place}

theorem locate_of_spelled (h : Spelled p) : fs.locate aim p
    = (fs.tree.followFrom aim (fs.startOf p) p.parts).mapError (.file · p.text) := by
  unfold locate
  rw [h.noNul, if_neg Bool.false_ne_true, if_neg (Nat.not_le.2 h.short)]
  rfl

theorem spelled_of_locate (h : fs.locate aim p = .ok place) : Spelled p := by
  unfold locate at h
  split at h
  · cases h
  split at h
  · cases h
  · next hnul hlong => exact ⟨Bool.eq_false_iff.2 hnul, Nat.not_le.1 hlong⟩

theorem Spelled.nul_not_mem (h : Spelled p) : '\x00' ∉ p.text.toList := fun hc => by
  have hno := h.noNul
  rw [List.contains_iff_mem.2 hc] at hno
  cases hno

/-- A path without NUL that leads nowhere is refused by the system. -/
theorem fault_of_locate {fault : Fault} (hnul : '\x00' ∉ p.text.toList)
    (h : fs.locate aim p = .error fault) : ∃ e, fault = .file e p.text := by
  unfold locate at h
  split at h
  · next hc => exact absurd (List.contains_iff_mem.1 hc) hnul
  split at h
  · cases h
    exact ⟨_, rfl⟩
  · cases hfollow : fs.tree.followFrom aim (if p.isAbsolute then [] else fs.here) p.parts with
    | ok => rw [hfollow] at h; cases h
    | error e => rw [hfollow] at h; cases h; exact ⟨e, rfl⟩

/-- So is one that leads to nothing that can be read. -/
theorem fault_of_read {fault : Fault} (hnul : '\x00' ∉ p.text.toList)
    (h : fs.read p = .error fault) : ∃ e, fault = .file e p.text := by
  unfold read at h
  split at h
  · next hlocate =>
    cases h
    exact fault_of_locate hnul hlocate
  all_goals cases h
  all_goals exact ⟨_, rfl⟩

/-- **Where a path leads**. -/
theorem locate_eq_ok_iff : fs.locate aim p = .ok place ↔
    Spelled p ∧ ∃ e, fs.tree.get? (fs.startOf p) = some e ∧
      Entry.Leads fs.tree aim Entry.linkLimit (fs.startOf p).reverse e p.parts place := by
  constructor
  · intro h
    have hspelled := spelled_of_locate h
    rw [locate_of_spelled hspelled] at h
    have hfollow := eq_ok_of_mapError h
    unfold Entry.followFrom at hfollow
    split at hfollow
    · cases hfollow
    · next e he => exact ⟨hspelled, e, he, Entry.follow_eq_ok_iff.1 hfollow⟩
  · rintro ⟨hspelled, e, he, hleads⟩
    rw [locate_of_spelled hspelled, Entry.followFrom, he]
    simp only [Entry.follow_eq_ok_iff.2 hleads]
    rfl

theorem in_of_locate (h : fs.locate aim p = .ok place) : place.In fs.tree := by
  obtain ⟨-, e, he, hleads⟩ := locate_eq_ok_iff.1 h
  exact hleads.in_tree (by rwa [List.reverse_reverse])

end FileSystem

end Drift
