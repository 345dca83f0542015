import Drift.Proofs.Bytes
import Drift.Proofs.Deflate.Form

/-!
# Items are read from their forms

* `codes` — the codes of lengths for literals and for distances.
* `readItem_eq_ok_iff` — an item is read exactly when one of its forms comes next.
* `toList_appendCopy` — a back-reference appends what repeats.
* **`readItems_eq_ok_iff`** — the items up to the end of a block are read exactly when they come
  next, and they append what they expand to.
-/

namespace Drift.Deflate

open BitStream (Begins begins_append_iff)

variable {literals distances : List Nat} {s r : BitStream}

/-! ## Items -/

theorem withExtra_eq_ok_iff {entry : Nat × Nat} {n : Nat} :
    withExtra entry s = .ok (n, r) ↔
      ∃ extra, extra < 1 <<< entry.2 ∧ entry.1 + extra = n ∧
        Begins s (numeral entry.2 extra) r := by
  unfold withExtra
  constructor
  · intro h
    split at h
    · next hbits =>
      cases h
      obtain ⟨hextra, hbegins⟩ := bits_eq_ok_iff.1 hbits
      exact ⟨_, hextra, rfl, hbegins⟩
    · cases h
  · rintro ⟨extra, hextra, rfl, hbegins⟩
    simp only [bits_eq_ok_iff.2 ⟨hextra, hbegins⟩]

/-- The codes of some lengths. -/
def codes (literals distances : List Nat) : Codes where
  literals := Code.ofLengths literals
  distances := Code.ofLengths distances

theorem coded_iff {lengths : List Nat} {first n : Nat} {table : List (Nat × Nat)} :
    (∃ bits, Coded lengths first table bits n ∧ Begins s bits r) ↔
      ∃ word i entry t, Word lengths word (first + i) ∧ Begins s word t ∧ table[i]? = some entry ∧
        withExtra entry t = .ok (n, r) := by
  constructor
  · rintro ⟨_, ⟨hword, hentry, hextra⟩, hbegins⟩
    obtain ⟨t, ht, hr⟩ := begins_append_iff.1 hbegins
    exact ⟨_, _, _, t, hword, ht, hentry, withExtra_eq_ok_iff.2 ⟨_, hextra, rfl, hr⟩⟩
  · rintro ⟨word, i, entry, t, hword, ht, hentry, h⟩
    obtain ⟨extra, hextra, rfl, hr⟩ := withExtra_eq_ok_iff.1 h
    exact ⟨_, .mk hword hentry hextra, ht.append hr⟩

theorem readCopy_eq_ok_iff {length : Nat} {item : Item} :
    readCopy (codes literals distances) length s = .ok (item, r) ↔
      ∃ distance far, item = .copy length distance ∧ Coded distances 0 distanceBase far distance ∧
        Begins s far r := by
  unfold readCopy
  constructor
  · intro h
    split at h
    · cases h
    · next symbol t hsymbol =>
      obtain ⟨word, hword, ht⟩ := Code.read_ofLengths_iff.1 hsymbol
      split at h
      · cases h
      · next entry hentry =>
        split at h
        · cases h
        · next distance _ hextra =>
          cases h
          obtain ⟨far, hfar⟩ := coded_iff.2
            ⟨word, symbol, entry, t, by rw [Nat.zero_add]; exact hword, ht, hentry, hextra⟩
          exact ⟨distance, far, rfl, hfar⟩
  · rintro ⟨distance, far, rfl, hfar⟩
    obtain ⟨word, symbol, entry, t, hword, ht, hentry, hextra⟩ := coded_iff.1 ⟨far, hfar⟩
    rw [Nat.zero_add] at hword
    have hsymbol : (Code.ofLengths distances).read .distanceCode s = .ok (symbol, t) :=
      Code.read_ofLengths_iff.2 ⟨word, hword, ht⟩
    simp only [codes, hsymbol, hentry, hextra]

theorem form_of_readItem {item : Item} (h : readItem (codes literals distances) s = .ok (item, r)) :
    ∃ form, ItemForm literals distances item form ∧ Begins s form r := by
  unfold readItem at h
  split at h
  · cases h
  next symbol t hsymbol =>
  obtain ⟨word, hword, ht⟩ := Code.read_ofLengths_iff.1 hsymbol
  split at h
  · next hlt =>
    cases h
    exact ⟨word, .literal (by rwa [Bytes.toNat_ofNat_of_lt hlt]), ht⟩
  split at h
  · next heq =>
    subst heq
    cases h
    exact ⟨word, .endOfBlock hword, ht⟩
  split at h
  · cases h
  next entry hentry =>
  split at h
  · cases h
  next length u hextra =>
  obtain ⟨distance, far, rfl, hfar, hr⟩ := readCopy_eq_ok_iff.1 h
  have hsplit : 257 + (symbol - 257) = symbol := by omega
  obtain ⟨long, hlong, hu⟩ := coded_iff.2
    ⟨word, symbol - 257, entry, t, by rwa [hsplit], ht, hentry, hextra⟩
  exact ⟨long ++ far, .copy hlong hfar, hu.append hr⟩

theorem readItem_of_form {item : Item} {form : List Bool}
    (hform : ItemForm literals distances item form) (h : Begins s form r) :
    readItem (codes literals distances) s = .ok (item, r) := by
  have hread {word : List Bool} {symbol : Nat} {t : BitStream} (hword : Word literals word symbol)
      (ht : Begins s word t) : (Code.ofLengths literals).read .literalCode s = .ok (symbol, t) :=
    Code.read_ofLengths_iff.2 ⟨word, hword, ht⟩
  unfold readItem
  cases hform with
  | literal hword =>
    simp only [codes, hread hword h, if_pos (UInt8.toNat_lt _), UInt8.ofNat_toNat]
  | endOfBlock hword =>
    simp only [codes, hread hword h]
    rfl
  | @copy length distance _ far hlong hfar =>
    obtain ⟨u, hu, hr⟩ := begins_append_iff.1 h
    obtain ⟨word, i, entry, t, hword, ht, hentry, hextra⟩ := coded_iff.1 ⟨_, hlong, hu⟩
    have hcopy : readCopy (codes literals distances) length u = .ok (.copy length distance, r) :=
      readCopy_eq_ok_iff.2 ⟨distance, far, rfl, hfar, hr⟩
    rw [codes] at hcopy
    simp only [codes, hread hword ht, if_neg (by omega : ¬ 257 + i < 256),
      if_neg (by omega : ¬ 257 + i = 256), Nat.add_sub_cancel_left, hentry, hextra, hcopy]

/-- An item is read **exactly when one of its forms comes next**. -/
theorem readItem_eq_ok_iff {item : Item} :
    readItem (codes literals distances) s = .ok (item, r) ↔
      ∃ form, ItemForm literals distances item form ∧ Begins s form r :=
  ⟨form_of_readItem, fun ⟨_, hform, h⟩ => readItem_of_form hform h⟩

/-! ## Copies -/

theorem repeats_zero_iff {history part : Bytes} {distance : Nat} :
    Repeats history 0 distance part ↔
      (0 < distance ∧ distance ≤ history.length) ∧ part = [] := by
  constructor
  · rintro ⟨hreach, hlength, -⟩
    exact ⟨hreach, List.eq_nil_of_length_eq_zero hlength⟩
  · rintro ⟨hreach, rfl⟩
    exact ⟨hreach, rfl, fun i hi => absurd hi (Nat.not_lt_zero i)⟩

theorem repeats_succ_iff {history part : Bytes} {length distance : Nat} (hpos : 0 < distance)
    (hle : distance ≤ history.length) :
    Repeats history (length + 1) distance part ↔
      ∃ rest, part = history.getD (history.length - distance) 0 :: rest ∧
        Repeats (history ++ [history.getD (history.length - distance) 0]) length distance rest := by
  have hlt : history.length - distance < history.length := by omega
  have hfirst (rest : Bytes) : (history ++ rest)[history.length + 0 - distance]?
      = some (history.getD (history.length - distance) 0) := by
    rw [Nat.add_zero, List.getElem?_append_left hlt, List.getD_eq_getElem?_getD,
      List.getElem?_eq_getElem hlt]
    rfl
  have hindex (b : UInt8) (i : Nat) :
      history.length + (i + 1) - distance = (history ++ [b]).length + i - distance := by
    rw [List.length_append, List.length_singleton]
    omega
  constructor
  · rintro ⟨hreach, hlength, hcopy⟩
    cases part with
    | nil => cases hlength
    | cons b rest =>
      have hb := hcopy 0 (Nat.succ_pos length)
      rw [hfirst, List.getElem?_cons_zero, Option.some.injEq] at hb
      refine ⟨rest, by rw [hb], ⟨hpos, ?_⟩, Nat.succ.inj hlength, fun i hi => ?_⟩
      · rw [List.length_append]
        omega
      · have hi := hcopy (i + 1) (Nat.succ_lt_succ hi)
        rw [← hb]
        rwa [List.getElem?_cons_succ, hindex b, List.append_cons] at hi
  · rintro ⟨rest, rfl, -, hlength, hcopy⟩
    refine ⟨⟨hpos, hle⟩, congrArg Nat.succ hlength, fun i hi => ?_⟩
    cases i with
    | zero => rw [hfirst, List.getElem?_cons_zero]
    | succ i =>
      rw [List.getElem?_cons_succ, hcopy i (Nat.lt_of_succ_lt_succ hi), hindex, ← List.append_cons]

theorem exists_repeats {history : Bytes} {distance : Nat} (hpos : 0 < distance)
    (hle : distance ≤ history.length) (length : Nat) :
    ∃ part, Repeats history length distance part := by
  induction length generalizing history with
  | zero => exact ⟨[], repeats_zero_iff.2 ⟨⟨hpos, hle⟩, rfl⟩⟩
  | succ length ih =>
    have hlonger : distance ≤ (history ++ [history.getD (history.length - distance) 0]).length := by
      rw [List.length_append]
      omega
    obtain ⟨rest, hrest⟩ := ih hlonger
    exact ⟨_, (repeats_succ_iff hpos hle).2 ⟨rest, rfl, hrest⟩⟩

/-- A back-reference appends **what repeats**. -/
theorem toList_appendCopy {length distance : Nat} {out : Output} {part : Bytes}
    (h : Repeats out.toList length distance part) :
    (appendCopy distance length out).toList = out.toList ++ part := by
  induction length generalizing out part with
  | zero => rw [(repeats_zero_iff.1 h).2, List.append_nil, appendCopy]
  | succ length ih =>
    have hbyte : out.toList.getD (out.toList.length - distance) 0
        = out.getD (out.size - distance) 0 := by
      rw [Array.length_toList, List.getD_eq_getElem?_getD, Array.getElem?_toList,
        Array.getD_eq_getD_getElem?]
    obtain ⟨rest, rfl, hrest⟩ := (repeats_succ_iff h.reach.1 h.reach.2).1 h
    rw [hbyte] at hrest ⊢
    rw [← Array.toList_push] at hrest
    rw [appendCopy, ih hrest, Array.toList_push, List.append_assoc, List.singleton_append]

theorem pos_of_coded {lengths : List Nat} {bits : List Bool} {distance : Nat}
    (h : Coded lengths 0 distanceBase bits distance) : 0 < distance := by
  cases h with
  | mk _ hentry _ =>
    have hall : ∀ entry ∈ distanceBase, 0 < entry.1 := by decide
    have := hall _ (List.mem_of_getElem? hentry)
    omega

/-! ## Items up to the end of a block -/

theorem items_of_readItems {out out' : Output}
    (h : readItems (codes literals distances) out s = .ok (out', r)) :
    ∃ bits part, Items literals distances out.toList bits part ∧ Begins s bits r ∧
      out'.toList = out.toList ++ part := by
  fun_induction readItems (codes literals distances) out s with
  | case1 => cases h
  | case2 out s t hi =>
    cases h
    obtain ⟨form, hform, hbegins⟩ := readItem_eq_ok_iff.1 hi
    exact ⟨form, [], .done hform, hbegins, (List.append_nil _).symm⟩
  | case3 out s b t hi ih =>
    obtain ⟨form, hform, ht⟩ := readItem_eq_ok_iff.1 hi
    obtain ⟨bits, part, hitems, hbegins, hout⟩ := ih h
    rw [Array.toList_push] at hitems hout
    refine ⟨form ++ bits, b :: part, .literal hform hitems, ht.append hbegins, ?_⟩
    rw [hout, List.append_assoc, List.singleton_append]
  | case4 => cases h
  | case5 out s length distance t hi hreach ih =>
    obtain ⟨form, hform, ht⟩ := readItem_eq_ok_iff.1 hi
    obtain ⟨bits, part, hitems, hbegins, hout⟩ := ih h
    have hpos : 0 < distance := by
      cases hform with
      | copy _ hfar => exact pos_of_coded hfar
    have hreach : distance ≤ out.toList.length := Nat.le_of_not_lt hreach
    obtain ⟨copied, hcopied⟩ := exists_repeats hpos hreach length
    rw [toList_appendCopy hcopied] at hitems hout
    refine ⟨form ++ bits, copied ++ part, .copy hform hcopied hitems, ht.append hbegins, ?_⟩
    rw [hout, List.append_assoc]

theorem readItems_eq (codes : Codes) (out : Output) (s : BitStream) :
    readItems codes out s = match readItem codes s with
      | .error fault => .error fault
      | .ok (.endOfBlock, s) => .ok (out, s)
      | .ok (.literal b, s) => readItems codes (out.push b) s
      | .ok (.copy length distance, s) =>
        if out.size < distance then .error .distanceTooFar
        else readItems codes (appendCopy distance length out) s := by
  rw [readItems]
  split <;> simp only [*]

theorem readItems_of_items {history part : Bytes} {bits : List Bool} {out : Output}
    (h : Items literals distances history bits part) (hout : out.toList = history)
    (hbegins : Begins s bits r) :
    ∃ out', readItems (codes literals distances) out s = .ok (out', r) ∧
      out'.toList = history ++ part := by
  induction h generalizing out s with
  | done hform =>
    have hitem := readItem_eq_ok_iff.2 ⟨_, hform, hbegins⟩
    refine ⟨out, ?_, by rw [hout, List.append_nil]⟩
    rw [readItems_eq]
    simp only [hitem]
  | @literal history part form bits b hform _ ih =>
    obtain ⟨t, ht, hr⟩ := begins_append_iff.1 hbegins
    have hitem := readItem_eq_ok_iff.2 ⟨_, hform, ht⟩
    have hpush : (out.push b).toList = history ++ [b] := by rw [Array.toList_push, hout]
    obtain ⟨out', hread, hout'⟩ := ih hpush hr
    refine ⟨out', ?_, by rw [hout', List.append_assoc, List.singleton_append]⟩
    rw [readItems_eq]
    simp only [hitem, hread]
  | @copy history copied part form bits length distance hform hcopied _ ih =>
    obtain ⟨t, ht, hr⟩ := begins_append_iff.1 hbegins
    have hitem := readItem_eq_ok_iff.2 ⟨_, hform, ht⟩
    subst hout
    obtain ⟨out', hread, hout'⟩ := ih (toList_appendCopy hcopied) hr
    refine ⟨out', ?_, by rw [hout', List.append_assoc]⟩
    have hreach : ¬ out.size < distance := Nat.not_lt_of_le hcopied.reach.2
    rw [readItems_eq]
    simp only [hitem, if_neg hreach, hread]

/-- The items of a block are read **exactly when they come next**. -/
theorem readItems_eq_ok_iff {out out' : Output} :
    readItems (codes literals distances) out s = .ok (out', r) ↔
      ∃ bits part, Items literals distances out.toList bits part ∧ Begins s bits r ∧
        out'.toList = out.toList ++ part := by
  refine ⟨items_of_readItems, ?_⟩
  rintro ⟨bits, part, hitems, hbegins, hout⟩
  obtain ⟨found, hread, hfound⟩ := readItems_of_items hitems rfl hbegins
  rwa [Array.toList_inj.1 (hout.trans hfound.symm)]

end Drift.Deflate
