import Drift.Proofs.Json.Readable

/-!
# Values are read as they were written

* `Json.textOf` — the text of a value from its first character on; `Json.putValue_eq` — it is what
  is written.
* **`Json.reads_of_readable`** — the text of a readable value is read as that value.
* **`Json.parse_characters`** — so is the text of a whole file.
-/

namespace Drift.Json

variable {style : Style} {level fuel : Nat} {rest : List Char}

/-! ## The text of a value -/

/-- What stands behind an opening bracket and before a closing one. -/
def edge (style : Style) (level : Nat) : List Char :=
  if style.indented then '\n' :: List.replicate (2 * level) ' ' else []

/-- What stands behind a comma. -/
def gap (style : Style) (level : Nat) : List Char :=
  if style.indented then edge style level else [' ']

/-- A text with its quotes. -/
def quoted (style : Style) (t : Text) : List Char :=
  '"' :: (t.points.flatMap (stringPoint style) ++ ['"'])

mutual

/-- The **text of a value** at a level of indentation. -/
def textOf (style : Style) (level : Nat) : Value → List Char
  | .null => "null".toList
  | .bool true => "true".toList
  | .bool false => "false".toList
  | .int n => (toString n).toList
  | .float x => (x.text floatLayout).toList
  | .text t => quoted style t
  | .list [] => ['[', ']']
  | .list (v :: vs) =>
    '[' :: (edge style (level + 1) ++ (textOf style (level + 1) v
      ++ (textOfItems style (level + 1) vs ++ (edge style level ++ [']']))))
  | .object [] => ['\x7b', '\x7d']
  | .object ((key, v) :: ms) =>
    '\x7b' :: (edge style (level + 1) ++ (quoted style key ++ (':' :: ' ' ::
      (textOf style (level + 1) v
        ++ (textOfMembers style (level + 1) ms ++ (edge style level ++ ['\x7d']))))))

/-- The items of a list behind the first one. -/
def textOfItems (style : Style) (level : Nat) : List Value → List Char
  | [] => []
  | v :: vs => ',' :: (gap style level ++ (textOf style level v ++ textOfItems style level vs))

/-- The members of an object behind the first one. -/
def textOfMembers (style : Style) (level : Nat) : Members → List Char
  | [] => []
  | (key, v) :: ms =>
    ',' :: (gap style level ++ (quoted style key ++ (':' :: ' ' ::
      (textOf style level v ++ textOfMembers style level ms))))

end

/-! ## Writing -/

theorem putBlanks_eq (count : Nat) (done : List Char) :
    putBlanks count done = List.replicate count ' ' ++ done := by
  induction count generalizing done with
  | zero => rfl
  | succ count ih =>
    rw [putBlanks, ih, List.replicate_succ', List.append_assoc, List.singleton_append]

theorem putEdge_eq (style : Style) (level : Nat) (done : List Char) :
    putEdge style level done = (edge style level).reverse ++ done := by
  unfold putEdge edge
  split
  · rw [putBlanks_eq, List.reverse_cons, List.reverse_replicate, List.append_assoc,
      List.singleton_append]
  · rfl

theorem putComma_eq (style : Style) (level : Nat) (done : List Char) :
    putComma style level done = (',' :: gap style level).reverse ++ done := by
  unfold putComma gap
  split
  · rw [putEdge_eq, List.reverse_cons, List.append_assoc, List.singleton_append]
  · rfl

theorem putString_eq (style : Style) (t : Text) (done : List Char) :
    putString style t done = (quoted style t).reverse ++ done := by
  rw [putString, putText_eq, quoted]
  simp

mutual

/-- What is written **is the text of the value**. -/
theorem putValue_eq (style : Style) (level : Nat) (done : List Char) :
    ∀ v : Value, putValue style level done v = (textOf style level v).reverse ++ done
  | .null => by rw [putValue, textOf, put_eq]
  | .bool true => by rw [putValue, textOf, put_eq]
  | .bool false => by rw [putValue, textOf, put_eq]
  | .int n => by rw [putValue, textOf, put_eq]
  | .float x => by rw [putValue, textOf, put_eq]
  | .text t => by rw [putValue, textOf, putString_eq]
  | .list [] => by rw [putValue, textOf]; rfl
  | .list (v :: vs) => by
    rw [putValue, textOf, putEdge_eq, putEdge_eq, putValue_eq, putItems_eq]
    simp
  | .object [] => by rw [putValue, textOf]; rfl
  | .object ((key, v) :: ms) => by
    rw [putValue, textOf, putEdge_eq, putEdge_eq, putKey, putString_eq, putValue_eq, putMembers_eq]
    simp

theorem putItems_eq (style : Style) (level : Nat) (done : List Char) :
    ∀ vs : List Value, putItems style level done vs = (textOfItems style level vs).reverse ++ done
  | [] => by rw [putItems, textOfItems]; rfl
  | v :: vs => by
    rw [putItems, textOfItems, putComma_eq, putValue_eq, putItems_eq]
    simp

theorem putMembers_eq (style : Style) (level : Nat) (done : List Char) :
    ∀ ms : Members, putMembers style level done ms = (textOfMembers style level ms).reverse ++ done
  | [] => by rw [putMembers, textOfMembers]; rfl
  | (key, v) :: ms => by
    rw [putMembers, textOfMembers, putComma_eq, putKey, putString_eq, putValue_eq, putMembers_eq]
    simp

end

/-! ## Reading tokens -/

theorem skip_blanks {blanks s : List Char} (h : ∀ c ∈ blanks, isBlank c = true) :
    skip (blanks ++ s) = skip s := by
  rw [skip, skip, List.dropWhile_append_of_pos h]

theorem skip_of_head {c : Char} {s : List Char} (h : isBlank c = false) :
    skip (c :: s) = c :: s := by
  rw [skip, List.dropWhile_cons_of_neg (by simp [h])]

theorem isBlank_edge (style : Style) (level : Nat) : ∀ c ∈ edge style level, isBlank c = true := by
  unfold edge
  split
  · intro c hc
    rcases List.mem_cons.1 hc with rfl | hc
    · rfl
    · rw [List.eq_of_mem_replicate hc]
      rfl
  · nofun

theorem isBlank_gap (style : Style) (level : Nat) : ∀ c ∈ gap style level, isBlank c = true := by
  unfold gap
  split
  · exact isBlank_edge style level
  · simp [isBlank]

theorem head_of_number {token s : List Char} {negative : Bool} {v : Value}
    (h : number token negative s = .ok (v, rest)) : ∃ c tail, s = c :: tail ∧ c.isDigit = true := by
  have hne : (wholePart s).1 ≠ [] := by
    intro hnone
    unfold number at h
    split at h
    · cases h
    · next hsome hwhole =>
      rw [hwhole] at hnone
      exact hsome hnone
  unfold wholePart at hne
  split at hne
  · exact ⟨_, _, rfl, rfl⟩
  · cases s with
    | nil => exact absurd rfl hne
    | cons c tail =>
      refine ⟨c, tail, rfl, by_contra fun hdigit => hne ?_⟩
      exact List.takeWhile_cons_of_neg hdigit

theorem head_of_names : ∀ entry ∈ names, ∃ c ∈ ['-', 'n', 't', 'f', 'N', 'I'],
    entry.1.toList.head? = some c := by
  simp [names]

theorem head_of_scalar {s : List Char} {v : Value} (h : scalar s = .ok (v, rest)) :
    ∃ c tail, s = c :: tail ∧ (c.isDigit = true ∨ c ∈ ['-', 'n', 't', 'f', 'N', 'I']) := by
  unfold scalar at h
  split at h
  · next hname =>
    unfold name? at hname
    obtain ⟨⟨name, w⟩, hmem, hfound⟩ := List.exists_of_findSome?_eq_some hname
    simp only [Option.ite_none_right_eq_some] at hfound
    obtain ⟨tail, rfl⟩ := List.isPrefixOf_iff_prefix.1 hfound.1
    obtain ⟨c, hc, hhead⟩ := head_of_names _ hmem
    obtain ⟨more, hmore⟩ := List.head?_eq_some_iff.1 hhead
    exact ⟨c, more ++ tail, by rw [hmore]; rfl, .inr hc⟩
  · split at h
    · exact ⟨'-', _, rfl, .inr (by simp)⟩
    · obtain ⟨c, tail, rfl, hc⟩ := head_of_number h
      exact ⟨c, tail, rfl, .inl hc⟩

theorem value_of_scalar {s : List Char} {v : Value} (h : scalar s = .ok (v, rest)) :
    value (fuel + 1) s = .ok (v, rest) := by
  obtain ⟨c, tail, rfl, hc⟩ := head_of_scalar h
  have hne {d : Char} (hd : d.isDigit = false) (hd' : d ∉ ['-', 'n', 't', 'f', 'N', 'I']) :
      c ≠ d := by
    rintro rfl
    exact hc.elim (fun hc => absurd (hd.symm.trans hc) nofun) hd'
  unfold value
  split
  · next heq => exact absurd (List.cons.inj heq).1 (hne rfl (by decide))
  · next heq => exact absurd (List.cons.inj heq).1 (hne rfl (by decide))
  · next heq => exact absurd (List.cons.inj heq).1 (hne rfl (by decide))
  · exact h

theorem stringOnto_quoted {opening : List Char} {t : Text} (h : t.Proper) :
    stringOnto opening [] (t.points.flatMap (stringPoint style) ++ '"' :: rest) = .ok (t, rest) := by
  rw [stringOnto_points h.points, List.reverse_nil, List.nil_append, h.ofPoints_points]

/-! ## What texts begin with -/

/-- The text begins with a character that is **neither blank nor a closing bracket**, and no byte
order mark. -/
def Begins (s : List Char) : Prop :=
  ∃ c tail, s = c :: tail ∧ isBlank c = false ∧ c ≠ ']' ∧ c ≠ '\uFEFF'

theorem Begins.of_scalar {s : List Char} {v : Value} (h : scalar (s ++ []) = .ok (v, [])) :
    Begins s := by
  obtain ⟨c, tail, hs, hc⟩ := head_of_scalar h
  rw [List.append_nil] at hs
  refine ⟨c, tail, hs, ?_⟩
  rcases hc with hc | hc
  · have hne {d : Char} (hd : d.isDigit = false) : c ≠ d := by
      rintro rfl
      exact absurd (hd.symm.trans hc) nofun
    refine ⟨?_, hne rfl, hne rfl⟩
    unfold isBlank
    simp only [Bool.or_eq_false_iff, beq_eq_false_iff_ne]
    exact ⟨⟨⟨hne rfl, hne rfl⟩, hne rfl⟩, hne rfl⟩
  · have hnames : ∀ c ∈ ['-', 'n', 't', 'f', 'N', 'I'],
        isBlank c = false ∧ c ≠ ']' ∧ c ≠ '\uFEFF' := by simp [isBlank]
    exact hnames c hc

theorem stops_nil : Stops [] := nofun

theorem begins_textOf {v : Value} (h : Readable v) : Begins (textOf style level v) := by
  cases h with
  | null => exact ⟨_, _, by rw [textOf]; rfl, rfl, by decide⟩
  | bool b => cases b <;> exact ⟨_, _, by rw [textOf]; rfl, rfl, by decide⟩
  | int hn => rw [textOf]; exact .of_scalar (scalar_of_int hn stops_nil)
  | float hone => rw [textOf]; exact .of_scalar (scalar_of_float hone stops_nil)
  | text _ => exact ⟨_, _, by rw [textOf]; rfl, rfl, by decide⟩
  | @list items _ => cases items <;> exact ⟨_, _, by rw [textOf], rfl, by decide⟩
  | @object members _ _ _ =>
    rcases members with _ | ⟨⟨key, v⟩, ms⟩ <;> exact ⟨_, _, by rw [textOf], rfl, by decide⟩

/-! ## What texts stop with -/

theorem stops_cons {c : Char} (h : c.isDigit = false ∧ c ≠ '.' ∧ c ≠ 'e' ∧ c ≠ 'E') :
    Stops (c :: rest) := by
  rintro d ⟨⟩
  exact h

theorem stops_of_blank {c : Char} (h : isBlank c = true) : Stops (c :: rest) := by
  unfold isBlank at h
  simp only [Bool.or_eq_true, beq_iff_eq] at h
  rcases h with ((rfl | rfl) | rfl) | rfl <;> exact stops_cons (by decide)

theorem stops_append {s : List Char} (h : ∀ c ∈ s, isBlank c = true) (hrest : Stops rest) :
    Stops (s ++ rest) := by
  cases s with
  | nil => exact hrest
  | cons c s => exact stops_of_blank (h c List.mem_cons_self)

theorem stops_items {vs : List Value} (hrest : Stops rest) :
    Stops (textOfItems style level vs ++ rest) := by
  cases vs with
  | nil => rwa [textOfItems, List.nil_append]
  | cons => rw [textOfItems]; exact stops_cons (by decide)

theorem stops_members {ms : Members} (hrest : Stops rest) :
    Stops (textOfMembers style level ms ++ rest) := by
  rcases ms with _ | ⟨⟨key, v⟩, ms⟩
  · rwa [textOfMembers, List.nil_append]
  · rw [textOfMembers]; exact stops_cons (by decide)

/-! ## Reading values -/

/-- The text of the value **is read as it**, at every level and before everything that ends a
number. -/
def Reads (style : Style) (v : Value) : Prop :=
  ∀ (level fuel : Nat) (rest : List Char), Stops rest → (textOf style level v).length ≤ fuel →
    value fuel (textOf style level v ++ rest) = .ok (v, rest)

theorem skip_begins {s : List Char} (h : Begins s) : skip (s ++ rest) = s ++ rest := by
  obtain ⟨c, tail, rfl, hc, -, -⟩ := h
  exact skip_of_head hc

variable {blanks : List Char}

theorem items_of_text {v : Value} {vs done : List Value} (hv : Reads style v)
    (hvs : ∀ w ∈ vs, Readable w ∧ Reads style w) (hblanks : ∀ c ∈ blanks, isBlank c = true)
    (hfuel : (textOf style level v).length + (textOfItems style level vs).length < fuel) :
    items fuel done (textOf style level v ++ (textOfItems style level vs ++ (blanks ++ ']' :: rest)))
      = .ok (.list (done.reverse ++ v :: vs), rest) := by
  have hclose : Stops (blanks ++ ']' :: rest) := stops_append hblanks (stops_cons (by decide))
  induction vs generalizing v done fuel with
  | nil =>
    obtain ⟨fuel, rfl⟩ := Nat.exists_eq_add_of_lt hfuel
    rw [items, hv level _ _ (stops_items hclose) (by omega)]
    simp only [textOfItems, List.nil_append, skip_blanks hblanks, skip_of_head (c := ']') rfl]
    simp
  | cons w vs ih =>
    obtain ⟨fuel, rfl⟩ := Nat.exists_eq_add_of_lt hfuel
    obtain ⟨hw, hvs⟩ := List.forall_mem_cons.1 hvs
    rw [items, hv level _ _ (stops_items hclose) (by omega)]
    simp only [textOfItems, List.cons_append, List.append_assoc, skip_of_head (c := ',') rfl,
      skip_blanks (isBlank_gap style level), skip_begins (begins_textOf hw.1)]
    rw [ih hw.2 hvs
      (by rw [textOfItems] at *; simp only [List.length_cons, List.length_append]; omega)]
    simp

theorem quoted_append (t : Text) :
    quoted style t ++ rest = '"' :: (t.points.flatMap (stringPoint style) ++ '"' :: rest) := by
  rw [quoted, List.cons_append, List.append_assoc, List.singleton_append]

theorem begins_quoted (t : Text) : Begins (quoted style t) := ⟨_, _, rfl, rfl, by decide⟩

theorem members_step {key : Text} {v : Value} {s : List Char} (done : Members) (hkey : key.Proper)
    (hv : Readable v ∧ Reads style v) (hs : Stops s) (hfuel : (textOf style level v).length ≤ fuel) :
    (∀ rest, skip s = ',' :: rest →
      members (fuel + 1) done (quoted style key ++ (':' :: ' ' :: (textOf style level v ++ s)))
        = members fuel (Keyed.put key v done) (skip rest)) ∧
    ∀ rest, skip s = '\x7d' :: rest →
      members (fuel + 1) done (quoted style key ++ (':' :: ' ' :: (textOf style level v ++ s)))
        = .ok (.object (Keyed.put key v done), rest) := by
  have hspace : ∀ c ∈ [' '], isBlank c = true := List.forall_mem_singleton.2 rfl
  have hblank (s : List Char) : skip (' ' :: s) = skip s := skip_blanks hspace
  rw [quoted_append, members]
  simp only [stringOnto_quoted hkey, skip_of_head (c := ':') rfl, hblank,
    skip_begins (begins_textOf hv.1), hv.2 level fuel s hs hfuel]
  exact ⟨fun rest hcomma => by simp only [hcomma], fun rest hbrace => by simp only [hbrace]⟩

theorem not_mem_keys_of_nodup {key : Text} {v : Value} {done ms : Members}
    (h : ((done ++ (key, v) :: ms).map (·.1)).Nodup) : key ∉ done.map (·.1) := by
  rw [List.map_append, List.nodup_append] at h
  exact fun hmem => h.2.2 key hmem key (by simp) rfl

theorem members_of_text {key : Text} {v : Value} {ms done : Members} (hkey : key.Proper)
    (hv : Readable v ∧ Reads style v) (hkeys : ∀ m ∈ ms, m.1.Proper)
    (hms : ∀ m ∈ ms, Readable m.2 ∧ Reads style m.2)
    (hnodup : ((done ++ (key, v) :: ms).map (·.1)).Nodup)
    (hblanks : ∀ c ∈ blanks, isBlank c = true)
    (hfuel : (textOf style level v).length + (textOfMembers style level ms).length < fuel) :
    members fuel done (quoted style key ++ (':' :: ' ' :: (textOf style level v
        ++ (textOfMembers style level ms ++ (blanks ++ '\x7d' :: rest)))))
      = .ok (.object (done ++ (key, v) :: ms), rest) := by
  have hclose : Stops (blanks ++ '\x7d' :: rest) := stops_append hblanks (stops_cons (by decide))
  induction ms generalizing key v done fuel with
  | nil =>
    obtain ⟨fuel, rfl⟩ : ∃ more, fuel = more + 1 := ⟨fuel - 1, by omega⟩
    have hend : skip (textOfMembers style level [] ++ (blanks ++ '\x7d' :: rest))
        = '\x7d' :: rest := by
      rw [textOfMembers, List.nil_append, skip_blanks hblanks, skip_of_head rfl]
    rw [(members_step done hkey hv (stops_members hclose) (by omega)).2 rest hend,
      Keyed.put_of_new (not_mem_keys_of_nodup hnodup)]
  | cons m ms ih =>
    obtain ⟨next, w⟩ := m
    obtain ⟨fuel, rfl⟩ : ∃ more, fuel = more + 1 := ⟨fuel - 1, by omega⟩
    obtain ⟨hnext, hkeys⟩ := List.forall_mem_cons.1 hkeys
    obtain ⟨hw, hms⟩ := List.forall_mem_cons.1 hms
    simp only at hnext hw
    have hrest : ((done ++ [(key, v)] ++ (next, w) :: ms).map (·.1)).Nodup := by
      rwa [List.append_assoc, List.singleton_append]
    have hcomma : skip (textOfMembers style level ((next, w) :: ms) ++ (blanks ++ '\x7d' :: rest))
        = ',' :: (gap style level ++ (quoted style next ++ (':' :: ' ' :: (textOf style level w
            ++ (textOfMembers style level ms ++ (blanks ++ '\x7d' :: rest)))))) := by
      rw [textOfMembers, List.cons_append, skip_of_head rfl]
      simp only [List.append_assoc, List.cons_append]
    rw [(members_step done hkey hv (stops_members hclose) (by omega)).1 _ hcomma,
      Keyed.put_of_new (not_mem_keys_of_nodup hnodup), skip_blanks (isBlank_gap style level),
      skip_begins (begins_quoted next)]
    rw [textOfMembers] at hfuel
    simp only [List.length_cons, List.length_append] at hfuel
    rw [ih hnext hw hkeys hms hrest (by omega), List.append_assoc, List.singleton_append]

theorem Begins.exists_succ {s : List Char} (h : Begins s) (hfuel : s.length ≤ fuel) :
    ∃ more, fuel = more + 1 := by
  obtain ⟨c, tail, rfl, -, -, -⟩ := h
  exact ⟨fuel - 1, by rw [List.length_cons] at hfuel; omega⟩

theorem Reads.of_scalar {v : Value} {s : List Char} (hs : ∀ level, textOf style level v = s)
    (h : ∀ rest, Stops rest → scalar (s ++ rest) = .ok (v, rest)) : Reads style v := by
  intro level fuel rest hrest hfuel
  rw [hs] at hfuel ⊢
  obtain ⟨fuel, rfl⟩ := (Begins.of_scalar (h [] stops_nil)).exists_succ hfuel
  exact value_of_scalar (h rest hrest)

theorem Reads.list {vs : List Value} (hvs : ∀ w ∈ vs, Readable w ∧ Reads style w) :
    Reads style (.list vs) := by
  intro level fuel rest hrest hfuel
  obtain ⟨fuel, rfl⟩ := (begins_textOf (.list fun w hw => (hvs w hw).1)).exists_succ hfuel
  cases vs with
  | nil =>
    rw [textOf, List.cons_append, value]
    rfl
  | cons v vs =>
    obtain ⟨hv, hvs⟩ := List.forall_mem_cons.1 hvs
    have hbegins : Begins (textOf style (level + 1) v) := begins_textOf hv.1
    obtain ⟨c, tail, hhead, -, hclose, -⟩ := hbegins
    rw [textOf] at hfuel ⊢
    simp only [List.length_cons, List.length_append] at hfuel
    have hitems : items fuel [] (textOf style (level + 1) v ++ (textOfItems style (level + 1) vs
        ++ (edge style level ++ ']' :: rest))) = .ok (.list (v :: vs), rest) :=
      items_of_text hv.2 hvs (isBlank_edge style level) (by omega)
    rw [List.cons_append, value]
    simp only [List.append_assoc, skip_blanks (isBlank_edge style (level + 1)),
      skip_begins (begins_textOf hv.1), List.singleton_append]
    rw [hhead] at hitems ⊢
    simp only [List.cons_append] at hitems ⊢
    split
    · next heq => exact absurd (List.cons.inj heq).1 hclose
    · exact hitems

theorem Reads.object {ms : Members} (hnodup : (ms.map (·.1)).Nodup) (hkeys : ∀ m ∈ ms, m.1.Proper)
    (hms : ∀ m ∈ ms, Readable m.2 ∧ Reads style m.2) : Reads style (.object ms) := by
  intro level fuel rest hrest hfuel
  obtain ⟨fuel, rfl⟩ :=
    (begins_textOf (.object hnodup hkeys fun m hm => (hms m hm).1)).exists_succ hfuel
  rcases ms with _ | ⟨⟨key, v⟩, ms⟩
  · rw [textOf, List.cons_append, value]
    rfl
  · obtain ⟨hkey, hkeys⟩ := List.forall_mem_cons.1 hkeys
    obtain ⟨hv, hms⟩ := List.forall_mem_cons.1 hms
    simp only at hkey hv
    rw [textOf] at hfuel ⊢
    simp only [List.length_cons, List.length_append] at hfuel
    have hmembers : members fuel [] (quoted style key ++ (':' :: ' ' :: (textOf style (level + 1) v
        ++ (textOfMembers style (level + 1) ms ++ (edge style level ++ '\x7d' :: rest)))))
          = .ok (.object ((key, v) :: ms), rest) :=
      members_of_text hkey hv hkeys hms hnodup (isBlank_edge style level) (by omega)
    rw [List.cons_append, value]
    simp only [List.append_assoc, skip_blanks (isBlank_edge style (level + 1)),
      skip_begins (begins_quoted key), List.cons_append]
    rw [quoted_append] at hmembers ⊢
    exact hmembers

/-- The text of a readable value **is read as that value**. -/
theorem reads_of_readable {v : Value} (h : Readable v) : Reads style v := by
  induction h with
  | null => exact .of_scalar (fun _ => by rw [textOf]) fun rest _ =>
      scalar_of_name (by simp [names]) rest
  | bool b =>
    cases b <;> exact .of_scalar (fun _ => by rw [textOf]) fun rest _ =>
      scalar_of_name (by simp [names]) rest
  | int hn => exact .of_scalar (fun _ => by rw [textOf]) fun _ => scalar_of_int hn
  | float hone => exact .of_scalar (fun _ => by rw [textOf]) fun _ => scalar_of_float hone
  | @text t ht =>
    intro level fuel rest hrest hfuel
    obtain ⟨fuel, rfl⟩ := (begins_textOf (.text ht)).exists_succ hfuel
    rw [textOf, quoted_append, value]
    simp only [stringOnto_quoted ht]
  | list h ih => exact .list fun w hw => ⟨h w hw, ih w hw⟩
  | object hnodup hkeys h ih => exact .object hnodup hkeys fun m hm => ⟨h m hm, ih m hm⟩

/-! ## Reading files -/

/-- The text of a file that holds a value is **read as the value**, its keys sorted when the style
sorts them, whatever blanks stand behind it. -/
theorem parse_characters {v : Value} (h : Readable (if style.sortKeys then sorted v else v))
    (hblanks : ∀ c ∈ blanks, isBlank c = true) :
    parse (characters style v ++ blanks) = .ok (if style.sortKeys then sorted v else v) := by
  rw [characters, putValue_eq, List.append_nil, List.reverse_reverse]
  generalize (if style.sortKeys then sorted v else v) = w at h ⊢
  have hstops : Stops blanks := by
    rw [← List.append_nil blanks]
    exact stops_append hblanks stops_nil
  have hread : value (2 * (textOf style 0 w ++ blanks).length + 2) (textOf style 0 w ++ blanks)
      = .ok (w, blanks) :=
    reads_of_readable h 0 _ _ hstops (by rw [List.length_append]; omega)
  have hskip : skip blanks = [] := List.dropWhile_eq_nil_iff.2 hblanks
  have hbegins : Begins (textOf style 0 w) := begins_textOf h
  unfold parse
  split
  · next heq =>
    obtain ⟨c, tail, hhead, -, -, hmark⟩ := hbegins
    rw [hhead] at heq
    exact absurd (List.cons.inj heq).1 hmark
  · rw [skip_begins hbegins, hread]
    simp only [hskip]

end Drift.Json
