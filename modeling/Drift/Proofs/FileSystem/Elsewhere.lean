import Drift.Proofs.FileSystem.ReadBack

/-!
# What other paths find when a file is put

A file that is put where there was a link cuts off all ways through the link, and what it is put
below stays a directory.

* `Place.Agrees` — two results of following a path: alike places, or the same error.
* `Entry.follow_of_not_comesBy` — steps that do not come by the place of the file lead where they
  led.
* **`FileSystem.found_after_put`** — so a path leads to the file, or no file is found by it, or it is
  found as before; `FileSystem.locate_of_not_comesBy` — what does not come by finds all as before.
-/

namespace Drift

/-- Two places **are alike**: the same names, with alike entries if they are taken. -/
inductive Place.Alike : Place → Place → Prop where
  | taken {names : List String} {e e' : Entry} (h : Entry.Alike e e') :
      Alike (.taken names e) (.taken names e')
  | free (directory : List String) (name : String) :
      Alike (.free directory name) (.free directory name)

/-- Two results of following a path **agree**. -/
inductive Place.Agrees {ε : Type} : Except ε Place → Except ε Place → Prop where
  | ok {old new : Place} (h : old.Alike new) : Agrees (.ok old) (.ok new)
  | error (e : ε) : Agrees (.error e) (.error e)

theorem Place.Agrees.mapError {ε ε' : Type} {found found' : Except ε Place}
    (h : Place.Agrees found found') (f : ε → ε') :
    Place.Agrees (found.mapError f) (found'.mapError f) := by
  cases h with
  | ok h => exact .ok h
  | error e => exact .error (f e)

namespace Entry

variable {top top' e e' : Entry} {content : Bytes} {place : List String} {aim : Aim} {links : Nat}
  {way rest : List String} {step : String} {entries : List (String × Entry)}

theorem get?_below (hdir : ∀ entries, top.get? place ≠ some (.directory entries))
    {more : List String} (hmore : more ≠ []) : top.get? (place ++ more) = none := by
  refine Option.eq_none_iff_forall_ne_some.2 fun e he => ?_
  obtain ⟨entries, hentries⟩ := isDirectory_of_prefix he hmore
  exact hdir entries hentries

theorem not_prefix_up (hway : ¬ place <+: way.reverse) : ¬ place <+: way.tail.reverse :=
  fun hp => hway (hp.trans tail_reverse_prefix)

theorem not_prefix_down (hway : ¬ place <+: way.reverse) (hp : way.reverse ++ [step] ≠ place) :
    ¬ place <+: (step :: way).reverse := by
  rw [List.reverse_cons, List.prefix_concat_iff]
  exact not_or.2 ⟨hp.symm, hway⟩

theorem agrees_through_link {entries' : List (String × Entry)} {target : String}
    (hn : Named .content step rest) (h : Keyed.get? entries step = some (.link target))
    (h' : Keyed.get? entries' step = some (.link target))
    (hroot : ∀ fewer, links = fewer + 1 → startsAtRoot target = true →
      Place.Agrees (follow top .content fewer [] top (stepsOf target ++ rest))
        (follow top' .content fewer [] top' (stepsOf target ++ rest)))
    (hhere : ∀ fewer, links = fewer + 1 → ¬ startsAtRoot target = true →
      Place.Agrees (follow top .content fewer way (.directory entries) (stepsOf target ++ rest))
        (follow top' .content fewer way (.directory entries') (stepsOf target ++ rest))) :
    Place.Agrees (follow top .content links way (.directory entries) (step :: rest))
      (follow top' .content links way (.directory entries') (step :: rest)) := by
  rw [follow_link hn h not_at_last_link, follow_link hn h' not_at_last_link]
  cases links with
  | zero => exact .error _
  | succ links =>
    simp only
    split
    · next htarget => exact hroot links rfl htarget
    · next htarget => exact hhere links rfl htarget

section

variable
  (helsewhere : ∀ {names}, ¬ place <+: names → Option.Rel Alike (top.get? names) (top'.get? names))

include helsewhere

theorem alike_at (hway : ¬ place <+: way.reverse) (he : top.get? way.reverse = some e)
    (he' : top'.get? way.reverse = some e') : Alike e e' := by
  obtain ⟨_, hsome, halike⟩ := exists_of_rel (he ▸ helsewhere hway)
  exact Option.some.inj (hsome.symm.trans he') ▸ halike

variable (hdir : ∀ entries, top.get? place ≠ some (.directory entries))

include hdir

/-- All other steps lead **where they led**. -/
theorem follow_of_not_comesBy (hne : place ≠ []) {steps : List String}
    (hway : ¬ place <+: way.reverse)
    (hc : ¬ ComesBy top place links way e steps)
    (he : top.get? way.reverse = some e) (he' : top'.get? way.reverse = some e') :
    Place.Agrees (follow top .content links way e steps)
      (follow top' .content links way e' steps) := by
  -- The way never stands at the place or below it, so both trees have alike entries at each step.
  induction links, way, e, steps using follow_induct top .content generalizing e' with
  | done links way e =>
    rw [follow_nil, follow_nil]
    exact .ok (.taken (alike_at helsewhere hway he he'))
  | leaf links way e step rest hleaf =>
    obtain rfl := (alike_at helsewhere hway he he').eq_of_not_directory hleaf
    rw [follow_of_not_directory hleaf, follow_of_not_directory hleaf]
    exact .error _
  | stay links way entries step rest hhere ih =>
    obtain ⟨entries', rfl, -⟩ := directory_of_rel helsewhere hdir he he'
    rw [follow_stay hhere, follow_stay hhere]
    exact ih hway (fun h => hc (.stay hhere h)) he he'
  | up links way entries rest ih =>
    obtain ⟨entries', rfl, -⟩ := directory_of_rel helsewhere hdir he he'
    obtain ⟨above, habove⟩ := exists_above he
    obtain ⟨above', habove'⟩ := exists_above he'
    rw [follow_up, follow_up, habove, habove']
    exact ih above habove (not_prefix_up hway) (fun h => hc (.up habove h)) habove habove'
  | unnamed links way entries step rest hhere hup hn =>
    obtain ⟨entries', rfl, -⟩ := directory_of_rel helsewhere hdir he he'
    have hlong := long_of_not_named hhere hup hn
    rw [follow_long hhere hup hlong, follow_long hhere hup hlong]
    exact .error _
  | missing links way entries step rest hn hnone =>
    obtain ⟨entries', rfl, hrel⟩ := directory_of_rel helsewhere hdir he he'
    have hnone' := eq_none_of_rel (hnone ▸ hrel step fun hp => hc (.named hn hp))
    rw [follow_missing hn hnone, follow_missing hn hnone']
    split
    · exact .ok (.free _ _)
    · exact .error _
  | link links way entries step target rest hn hlink ihroot ih =>
    obtain ⟨entries', rfl, hrel⟩ := directory_of_rel helsewhere hdir he he'
    have hlink' := eq_some_of_rel (hlink ▸ hrel step fun hp => hc (.named hn hp)) rfl
    refine agrees_through_link hn hlink hlink' ?_ ?_
    · rintro fewer rfl hroot
      exact ihroot fewer rfl (fun hp => hne (List.prefix_nil.1 hp))
        (fun h => hc (.linkToRoot hn hlink hroot h)) rfl rfl
    · rintro fewer rfl hroot
      exact ih fewer rfl hway (fun h => hc (.link hn hlink hroot h)) he he'
  | down links way entries step below rest hn hnolink hbelow ih =>
    obtain ⟨entries', rfl, hrel⟩ := directory_of_rel helsewhere hdir he he'
    have hp : way.reverse ++ [step] ≠ place := fun hp => hc (.named hn hp)
    obtain ⟨below', hbelow', halike⟩ := exists_of_rel (hbelow ▸ hrel step hp)
    rw [follow_down hn hnolink hbelow, follow_down hn (halike.ne_link hnolink) hbelow']
    exact ih (not_prefix_down hway hp) (fun h => hc (.down hn hnolink hbelow h))
      (get?_down he hbelow) (get?_down he' hbelow')

/-- Steps **from a directory come by a place**: it is the directory itself, or one of them names
it. -/
def ComesByFrom (top : Entry) (place start steps : List String) : Prop :=
  start = place ∨ ∃ e, top.get? start = some e ∧ ComesBy top place linkLimit start.reverse e steps

theorem followFrom_of_comesBy (hfile : top'.get? place = some (.file content))
    {start steps : List String} (hsteps : start = place → steps ≠ [])
    (hc : ComesByFrom top place start steps) :
    followFrom top' .content start steps = .ok (.taken place (.file content)) ∨
      followFrom top' .content start steps = .error .notDirectory := by
  unfold followFrom
  rcases hc with rfl | ⟨e, he, hc⟩
  · obtain ⟨step, steps, rfl⟩ := List.exists_cons_of_ne_nil (hsteps rfl)
    rw [hfile]
    exact .inr (follow_of_not_directory rfl)
  · obtain ⟨entries, rfl⟩ := hc.exists_directory
    obtain ⟨e', he', -⟩ := exists_of_rel (he ▸ helsewhere (not_prefix_of_directory hdir he))
    rw [he']
    rw [← List.reverse_reverse start] at he he'
    exact follow_of_comesBy helsewhere hdir hfile hc he he'

theorem followFrom_of_not_comesBy (hne : place ≠ []) (hfile : top'.get? place = some (.file content))
    {start steps : List String} (hc : ¬ ComesByFrom top place start steps) :
    Place.Agrees (followFrom top .content start steps) (followFrom top' .content start steps) := by
  rw [ComesByFrom, not_or] at hc
  unfold followFrom
  by_cases hp : place <+: start
  · obtain ⟨more, rfl⟩ := hp
    have hmore : more ≠ [] := by
      rintro rfl
      exact hc.1 (List.append_nil place)
    rw [get?_below hdir hmore, get?_below (fun _ heq => nomatch hfile.symm.trans heq) hmore]
    exact .error _
  · have hrel := helsewhere hp
    cases he : top.get? start with
    | none =>
      cases he' : top'.get? start with
      | none => exact .error _
      | some => rw [he, he'] at hrel; cases hrel
    | some e =>
      obtain ⟨e', he', -⟩ := exists_of_rel (he ▸ hrel)
      rw [he']
      have hsteps : ¬ ComesBy top place linkLimit start.reverse e steps := fun h =>
        hc.2 ⟨e, he, h⟩
      rw [← List.reverse_reverse start] at hp he he'
      exact follow_of_not_comesBy helsewhere hdir hne hp hsteps he he'

end

end Entry

/-! ## Paths -/

namespace FileSystem

variable {fs fs' : FileSystem} {p q : Path} {place : Place}

theorem found_of_agrees (h : Place.Agrees (fs.locate .content q) (fs'.locate .content q)) :
    fs'.isFile q = fs.isFile q ∧ fs'.isDirectory q = fs.isDirectory q ∧
      fs'.read q = fs.read q := by
  unfold isFile isDirectory entry? read
  generalize fs.locate .content q = old at h
  generalize fs'.locate .content q = new at h
  cases h with
  | error => exact ⟨rfl, rfl, rfl⟩
  | ok h =>
    cases h with
    | free => exact ⟨rfl, rfl, rfl⟩
    | taken h =>
      rcases h with rfl | ⟨h, h'⟩
      · exact ⟨rfl, rfl, rfl⟩
      · obtain ⟨entries, rfl⟩ := Entry.eq_directory h
        obtain ⟨entries', rfl⟩ := Entry.eq_directory h'
        exact ⟨rfl, rfl, rfl⟩

/-- The way of a path **comes by a place**: it starts there, or one of its steps names it. -/
def ComesBy (fs : FileSystem) (p : Path) (place : List String) : Prop :=
  Spelled p ∧ Entry.ComesByFrom fs.tree place (fs.startOf p) p.parts

theorem agrees_of_not_spelled (h : ¬ Spelled q) :
    Place.Agrees (fs.locate .content q) (fs'.locate .content q) := by
  unfold locate
  split
  · exact .error _
  split
  · exact .error _
  · next hnul hlong => exact absurd ⟨Bool.eq_false_iff.2 hnul, Nat.not_le.1 hlong⟩ h

section

variable (hparts : p.parts ≠ []) (h : fs.locate .entry p = .ok place)
  (hdir : ∀ names entries, place ≠ .taken names (.directory entries)) (content : Bytes)

include h hdir

theorem locate_of_comesBy (hq : fs.startOf q = place.names → q.parts ≠ [])
    (hc : fs.ComesBy q place.names) :
    (fs.put place.names (.file content)).locate .content q
        = .ok (.taken place.names (.file content)) ∨
      (fs.put place.names (.file content)).locate .content q
        = .error (.file .notDirectory q.text) := by
  have hin := in_of_locate h
  rw [locate_of_spelled hc.1]
  rcases Entry.followFrom_of_comesBy (Entry.rel_get?_put _ _) (hin.not_directory hdir)
    (hin.get?_put (.file content)) hq hc.2 with h | h
  · exact .inl (congrArg (Except.mapError _) h)
  · exact .inr (congrArg (Except.mapError _) h)

theorem not_comesBy_of_locate (hq : fs.startOf q = place.names → q.parts ≠ []) {found : Place}
    (hfound : (fs.put place.names (.file content)).locate .content q = .ok found)
    (hne : found.names ≠ place.names) : ¬ fs.ComesBy q place.names := by
  intro hc
  rcases locate_of_comesBy h hdir content hq hc with h | h
  · cases h.symm.trans hfound
    exact hne rfl
  · cases h.symm.trans hfound

include hparts

/-- A path that does not come by leads **where it led**. -/
theorem locate_of_not_comesBy (hc : ¬ fs.ComesBy q place.names) :
    Place.Agrees (fs.locate .content q)
      ((fs.put place.names (.file content)).locate .content q) := by
  have hin := in_of_locate h
  by_cases hspelled : Spelled q
  · rw [locate_of_spelled hspelled, locate_of_spelled hspelled]
    have hfrom : ¬ Entry.ComesByFrom fs.tree place.names (fs.startOf q) q.parts := fun hfrom =>
      hc ⟨hspelled, hfrom⟩
    exact (Entry.followFrom_of_not_comesBy (Entry.rel_get?_put _ _) (hin.not_directory hdir)
      (names_ne_nil hparts h hdir) (hin.get?_put (.file content)) hfrom).mapError _
  · exact agrees_of_not_spelled hspelled

end

/-- What is found **after a file has been put** where another path led: by a path that does not lead
to it, no file, or the same as before. -/
theorem found_after_put (hparts : p.parts ≠ []) (h : fs.locate .entry p = .ok place)
    (hdir : ∀ names entries, place ≠ .taken names (.directory entries)) (content : Bytes)
    (hq : q.parts ≠ [])
    (hapart : (fs.put place.names (.file content)).locate .content q
      ≠ .ok (.taken place.names (.file content))) :
    (fs.put place.names (.file content)).isFile q = .ok false ∨
      (fs.put place.names (.file content)).isFile q = fs.isFile q ∧
        (fs.put place.names (.file content)).read q = fs.read q := by
  by_cases hc : fs.ComesBy q place.names
  · rcases locate_of_comesBy h hdir content (fun _ => hq) hc with h | h
    · exact absurd h hapart
    · left
      unfold isFile entry?
      rw [h]
      rfl
  · obtain ⟨hisFile, -, hread⟩ :=
      found_of_agrees (locate_of_not_comesBy hparts h hdir content hc)
    exact .inr ⟨hisFile, hread⟩

end FileSystem

end Drift
