import Drift.Proofs.FileSystem.Staging

/-!
# Replacing a file

* `Entry.ComesBy` — one of the steps names the place of the file: `Entry.follow_of_comesBy` — in the
  new tree they lead to the file or break off there.
* `Entry.Leads.comesBy` — the way to a place comes by it; so it ends, in the new tree, at the file or
  nowhere: `Entry.Leads.follow_put`.
* **`FileSystem.read_of_replace`** — what is read where a file has been replaced is its new content.
-/

namespace Drift

namespace Entry

variable {top top' e e' : Entry} {content : Bytes} {place : List String} {links : Nat}
  {way rest : List String} {step : String} {entries : List (String × Entry)}

theorem follow_file {aim : Aim} {links : Nat} {way steps : List String} {found : Place}
    (h : follow top aim links way (.file content) steps = .ok found) :
    steps = [] ∧ found = .taken way.reverse (.file content) := by
  cases steps with
  | nil => rw [follow_nil] at h; cases h; exact ⟨rfl, rfl⟩
  | cons step rest => rw [follow_of_not_directory rfl] at h; cases h

theorem Named.toContent {aim : Aim} {step : String} {rest : List String}
    (hn : Named aim step rest) : Named .content step rest :=
  ⟨hn.notHere, hn.notUp, nofun, hn.short⟩

theorem follow_into_file (hn : Named .content step rest) (hp : way.reverse ++ [step] = place)
    (he : top.get? way.reverse = some (.directory entries))
    (hfile : top.get? place = some (.file content)) :
    follow top .content links way (.directory entries) (step :: rest)
        = .ok (.taken place (.file content)) ∨
      follow top .content links way (.directory entries) (step :: rest)
        = .error .notDirectory := by
  subst hp
  rw [get?_snoc he] at hfile
  rw [follow_named hn, hfile]
  cases rest with
  | nil => exact .inl (follow_nil.trans (by rw [List.reverse_cons]))
  | cons => exact .inr (follow_of_not_directory rfl)

/-! ## Ways by a place -/

/-- Steps from the entry at the end of the names `way` **come by a place**: one of them names it. -/
inductive ComesBy (top : Entry) (place : List String) :
    (links : Nat) → (way : List String) → (e : Entry) → (steps : List String) → Prop where
  | named {links : Nat} {way : List String} {entries : List (String × Entry)} {step : String}
      {rest : List String} (hn : Named .content step rest) (hp : way.reverse ++ [step] = place) :
      ComesBy top place links way (.directory entries) (step :: rest)
  | stay {links : Nat} {way : List String} {entries : List (String × Entry)} {step : String}
      {rest : List String} (h : step = "" ∨ step = ".")
      (hc : ComesBy top place links way (.directory entries) rest) :
      ComesBy top place links way (.directory entries) (step :: rest)
  | up {links : Nat} {way : List String} {entries : List (String × Entry)} {rest : List String}
      {above : Entry} (h : top.get? way.tail.reverse = some above)
      (hc : ComesBy top place links way.tail above rest) :
      ComesBy top place links way (.directory entries) (".." :: rest)
  | linkToRoot {links : Nat} {way : List String} {entries : List (String × Entry)}
      {step target : String} {rest : List String} (hn : Named .content step rest)
      (h : Keyed.get? entries step = some (.link target)) (hroot : startsAtRoot target = true)
      (hc : ComesBy top place links [] top (stepsOf target ++ rest)) :
      ComesBy top place (links + 1) way (.directory entries) (step :: rest)
  | link {links : Nat} {way : List String} {entries : List (String × Entry)}
      {step target : String} {rest : List String} (hn : Named .content step rest)
      (h : Keyed.get? entries step = some (.link target)) (hroot : ¬ startsAtRoot target = true)
      (hc : ComesBy top place links way (.directory entries) (stepsOf target ++ rest)) :
      ComesBy top place (links + 1) way (.directory entries) (step :: rest)
  | down {links : Nat} {way : List String} {entries : List (String × Entry)} {step : String}
      {rest : List String} {below : Entry} (hn : Named .content step rest)
      (hlink : ∀ target, below ≠ .link target) (h : Keyed.get? entries step = some below)
      (hc : ComesBy top place links (step :: way) below rest) :
      ComesBy top place links way (.directory entries) (step :: rest)

theorem ComesBy.exists_directory {steps : List String}
    (hc : ComesBy top place links way e steps) : ∃ entries, e = .directory entries := by
  cases hc <;> exact ⟨_, rfl⟩

section

variable
  (helsewhere : ∀ {names}, ¬ place <+: names → Option.Rel Alike (top.get? names) (top'.get? names))
  (hdir : ∀ entries, top.get? place ≠ some (.directory entries))

include helsewhere hdir

/-- In a tree with a file where there was no directory, steps that come by its place lead **to the
file or nowhere**. -/
theorem follow_of_comesBy (hfile : top'.get? place = some (.file content)) {steps : List String}
    (hc : ComesBy top place links way e steps)
    (he : top.get? way.reverse = some e) (he' : top'.get? way.reverse = some e') :
    follow top' .content links way e' steps = .ok (.taken place (.file content)) ∨
      follow top' .content links way e' steps = .error .notDirectory := by
  -- Up to the step that names the place, the way is the same in both trees.
  induction hc generalizing e' with
  | named hn hp =>
    obtain ⟨entries', rfl, -⟩ := directory_of_rel helsewhere hdir he he'
    exact follow_into_file hn hp he' hfile
  | stay h _ ih =>
    obtain ⟨entries', rfl, -⟩ := directory_of_rel helsewhere hdir he he'
    rw [follow_stay h]
    exact ih he he'
  | up h _ ih =>
    obtain ⟨entries', rfl, -⟩ := directory_of_rel helsewhere hdir he he'
    obtain ⟨above', habove'⟩ := exists_above he'
    rw [follow_up, habove']
    exact ih h habove'
  | @linkToRoot links way entries step target rest hn h hroot _ ih =>
    obtain ⟨entries', rfl, hrel⟩ := directory_of_rel helsewhere hdir he he'
    by_cases hp : way.reverse ++ [step] = place
    · exact follow_into_file hn hp he' hfile
    · have hlink := eq_some_of_rel (h ▸ hrel step hp) rfl
      rw [follow_linkToRoot hn hlink not_at_last_link hroot]
      exact ih rfl rfl
  | @link links way entries step target rest hn h hroot _ ih =>
    obtain ⟨entries', rfl, hrel⟩ := directory_of_rel helsewhere hdir he he'
    by_cases hp : way.reverse ++ [step] = place
    · exact follow_into_file hn hp he' hfile
    · have hlink := eq_some_of_rel (h ▸ hrel step hp) rfl
      rw [follow_linkFromHere hn hlink not_at_last_link hroot]
      exact ih he he'
  | @down links way entries step rest below hn hlink h _ ih =>
    obtain ⟨entries', rfl, hrel⟩ := directory_of_rel helsewhere hdir he he'
    by_cases hp : way.reverse ++ [step] = place
    · exact follow_into_file hn hp he' hfile
    · obtain ⟨below', hbelow', halike⟩ := exists_of_rel (h ▸ hrel step hp)
      rw [follow_down hn (halike.ne_link hlink) hbelow']
      exact ih (get?_down he h) (get?_down he' hbelow')

end

theorem tail_reverse_prefix : way.tail.reverse <+: way.reverse :=
  List.reverse_prefix.2 (List.tail_suffix way)

/-- A way to a place where there is no directory **comes by it**, unless it starts there. -/
theorem Leads.comesBy {steps : List String} {old : Place}
    (hl : Leads top .entry links way e steps old)
    (hdir : ∀ entries, top.get? old.names ≠ some (.directory entries))
    (he : top.get? way.reverse = some e) :
    way.reverse = old.names ∨ ComesBy top old.names links way e steps := by
  -- A way that stands at a directory does not stand at the place, so what is left of it comes by.
  induction hl with
  | done => exact .inl rfl
  | stay h _ ih =>
    exact .inr (.stay h ((ih hdir he).resolve_left fun hp => hdir _ (hp ▸ he)))
  | up h _ ih =>
    obtain ⟨_, habove⟩ := exists_directory_of_prefix tail_reverse_prefix he
    exact .inr (.up h ((ih hdir h).resolve_left fun hp => hdir _ (hp ▸ habove)))
  | free hn _ => exact .inr (.named hn.toContent rfl)
  | stop hn _ _ => exact .inr (.named hn.toContent List.reverse_cons.symm)
  | linkToRoot hn h _ hroot _ ih =>
    obtain ⟨_, htop⟩ := exists_directory_of_prefix List.nil_prefix he
    have hc := (ih hdir rfl).resolve_left fun hp => hdir _ ((congrArg top.get? hp).symm.trans htop)
    exact .inr (.linkToRoot hn.toContent h hroot hc)
  | link hn h _ hroot _ ih =>
    exact .inr (.link hn.toContent h hroot ((ih hdir he).resolve_left fun hp => hdir _ (hp ▸ he)))
  | down hn hlink h _ ih =>
    rcases ih hdir (get?_down he h) with hp | hc
    · exact .inr (.named hn.toContent (List.reverse_cons.symm.trans hp))
    · exact .inr (.down hn.toContent hlink h hc)

/-- A way to the place where a file is put ends, in the new tree, **at that file or nowhere**. -/
theorem Leads.follow_put {steps : List String} {old new : Place}
    (hl : Leads top .entry links way e steps old)
    (hdir : ∀ entries, top.get? old.names ≠ some (.directory entries))
    (hput : (top.put (.file content) old.names).get? old.names = some (.file content))
    (he : top.get? way.reverse = some e)
    (he' : (top.put (.file content) old.names).get? way.reverse = some e')
    (hnew : follow (top.put (.file content) old.names) .content links way e' steps = .ok new) :
    new = .taken old.names (.file content) := by
  rcases hl.comesBy hdir he with hp | hc
  · rw [hp, hput] at he'
    obtain rfl := Option.some.inj he'
    rw [← hp]
    exact (follow_file hnew).2
  · rcases follow_of_comesBy (rel_get?_put top _) hdir hput hc he he' with h | h
    · exact Except.ok.inj (hnew.symm.trans h)
    · cases hnew.symm.trans h

end Entry

namespace Place

variable {top : Entry} {place : Place}

theorem In.not_directory (h : place.In top)
    (hdir : ∀ names entries, place ≠ .taken names (.directory entries))
    (entries : List (String × Entry)) : top.get? place.names ≠ some (.directory entries) := by
  cases h with
  | taken h =>
    intro hd
    rw [names, h] at hd
    cases hd
    exact hdir _ _ rfl
  | free h hn => exact Entry.not_directory_of_free (In.free h hn).get?_of_free entries

theorem In.get?_put (h : place.In top) (new : Entry) :
    (top.put new place.names).get? place.names = some new := by
  cases h with
  | @taken names e h =>
    change (top.put new names).get? names = some new
    rcases List.eq_nil_or_concat names with rfl | ⟨directory, name, hnames⟩
    · rw [Entry.put_nil]; rfl
    · rw [List.concat_eq_append] at hnames
      subst hnames
      obtain ⟨entries, hd⟩ := Entry.isDirectory_of_prefix h (List.cons_ne_nil name [])
      exact Entry.get?_put_self hd name new
  | free h _ => exact Entry.get?_put_self h _ new

end Place

namespace FileSystem

variable {fs fs' : FileSystem} {p : Path} {content bytes : Bytes} {old : Place}

theorem locate_content_of_put (hold : fs.locate .entry p = .ok old)
    (hdir : ∀ names entries, old ≠ .taken names (.directory entries)) {new : Place}
    (hnew : (fs.put old.names (.file content)).locate .content p = .ok new) :
    new = .taken old.names (.file content) := by
  obtain ⟨-, e, he, hleads⟩ := locate_eq_ok_iff.1 hold
  have hin := hleads.in_tree (by rw [List.reverse_reverse]; exact he)
  obtain ⟨-, e', he', hnew⟩ := locate_eq_ok_iff.1 hnew
  refine hleads.follow_put (hin.not_directory hdir) (hin.get?_put _) ?_ ?_
    (Entry.follow_eq_ok_iff.2 hnew)
  · rw [List.reverse_reverse]; exact he
  · rw [List.reverse_reverse]; exact he'

/-- What is read where a file has been replaced is **its new content**. -/
theorem read_of_replace (h : fs.replace p content = (fs', .ok ())) (hread : fs'.read p = .ok bytes) :
    bytes = content := by
  obtain ⟨old, hold, hdir, heq⟩ := replace_ok (congrArg Prod.snd h)
  obtain rfl : fs' = fs.put old.names (.file content) := (congrArg Prod.fst h).symm.trans heq
  unfold read at hread
  split at hread
  · cases hread
  · next hnew => cases locate_content_of_put hold hdir hnew; cases hread; rfl
  · next hnew => cases locate_content_of_put hold hdir hnew
  · cases hread
  · cases hread
  · cases hread

end FileSystem

end Drift
