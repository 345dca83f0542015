import Drift.Proofs.Deflate.Expansion
import Drift.Proofs.Deflate.Head

/-!
# Every legal block can be written

* `Ample`, `exists_word` — lengths that there are enough words for, and the word of each symbol that
  has one.
* `exists_entry` — a table without gaps has an entry for each number in its range.
* `exists_preface`, `exists_itemsForm`, `exists_form`, `exists_forms` — the bits of heads, items and
  blocks.
* **`exists_written`** — legal blocks can be written, whichever they are.
-/

namespace Drift.Deflate

variable {lengths literals distances : List Nat} {symbol : Nat}

/-! ## Words -/

/-- Lengths that there are **enough words** for. -/
structure Ample (lengths : List Nat) : Prop where
  le : ∀ l ∈ lengths, l ≤ maxLength
  room : kraft lengths ≤ 1 <<< maxLength

theorem Usable.ample (h : Usable lengths) (hle : ∀ l ∈ lengths, l ≤ maxLength) : Ample lengths where
  le := hle
  room := h.elim Nat.le_of_eq fun hshort => Nat.le_of_lt hshort.1

theorem exists_value {n v : Nat} (h : v < 1 <<< n) :
    ∃ word : List Bool, word.length = n ∧ value word = v := by
  induction n generalizing v with
  | zero => exact ⟨[], rfl, (Nat.lt_one_iff.1 h).symm⟩
  | succ n ih =>
    rw [Nat.shiftLeft_succ] at h
    rcases Nat.lt_or_ge v (1 <<< n) with hlt | hge
    · obtain ⟨word, hlength, rfl⟩ := ih hlt
      refine ⟨false :: word, congrArg Nat.succ hlength, ?_⟩
      rw [value, Bool.toNat_false, Nat.zero_mul, Nat.zero_add]
    · obtain ⟨word, hlength, hvalue⟩ := ih (by omega : v - 1 <<< n < 1 <<< n)
      refine ⟨true :: word, congrArg Nat.succ hlength, ?_⟩
      rw [value, Bool.toNat_true, Nat.one_mul, hlength, hvalue, Nat.add_sub_cancel' hge]

theorem kraft_cons (l : Nat) (lengths : List Nat) :
    kraft (l :: lengths) = kraft [l] + kraft lengths :=
  kraft_append [l] lengths

theorem kraft_filter_succ (lengths : List Nat) (n : Nat) :
    kraft (lengths.filter (· ≤ n + 1)) = kraft (lengths.filter (· ≤ n))
      + lengths.count (n + 1) * 1 <<< (maxLength - (n + 1)) := by
  induction lengths with
  | nil => simp [kraft]
  | cons x lengths ih =>
    have hless := kraft_cons x (lengths.filter (· ≤ n))
    have hmore := kraft_cons x (lengths.filter (· ≤ n + 1))
    rw [List.filter_cons, List.filter_cons, List.count_cons]
    rcases Nat.lt_trichotomy x (n + 1) with hlt | rfl | hgt
    · rw [if_pos (by simp; omega), if_pos (by simp; omega), if_neg (by simp; omega), hmore, hless,
        ih, Nat.add_zero (lengths.count _), Nat.add_assoc]
    · have hone : kraft [n + 1] = 1 <<< (maxLength - (n + 1)) := Nat.add_zero _
      rw [if_pos (by simp), if_neg (by simp), if_pos (by simp), hmore, ih, hone, Nat.add_mul,
        Nat.one_mul]
      omega
    · rw [if_neg (by simp; omega), if_neg (by simp; omega), if_neg (by simp; omega), ih,
        Nat.add_zero (lengths.count _)]

theorem extent_wordsUpTo_eq_kraft (lengths : List Nat) (n : Nat) :
    extent (wordsUpTo lengths n) = kraft (lengths.filter (· ≤ n)) := by
  induction n with
  | zero => exact (kraft_eq_zero fun l hl => by simpa using (List.mem_filter.1 hl).2).symm
  | succ n ih =>
    rw [wordsUpTo_succ, extent_append, ih,
      extent_of_forall_eq (Nat.succ_pos n) fun w => length_eq_of_mem_wordsOf, length_wordsOf,
      kraft_filter_succ]

/-- Where there are enough words, **each symbol with a length has one**. -/
theorem exists_word (h : Ample lengths) (hword : HasWord lengths symbol) :
    ∃ word, Word lengths word symbol := by
  rw [HasWord, List.getD_eq_getElem?_getD] at hword
  obtain ⟨length, hlength⟩ : ∃ length, lengths[symbol]? = some length := by
    refine Option.ne_none_iff_exists'.1 fun hnone => hword ?_
    rw [hnone]
    rfl
  rw [hlength, Option.getD_some] at hword
  have hpos : 0 < length := Nat.pos_of_ne_zero hword
  have hle := h.le length (List.mem_of_getElem? hlength)
  have hstarts : Starts (wordsUpTo lengths maxLength) (length, symbol)
      ((firstWord lengths length + (lengths.take symbol).count length)
        * 1 <<< (maxLength - length)) :=
    (starts_wordsUpTo_iff (Nat.le_refl _)).2 ⟨⟨hpos, hle⟩, hlength, rfl⟩
  -- The word starts before all words end, so that its bits can spell it.
  have hplace := hstarts.lt_extent hpos
  have hall : lengths.filter (· ≤ maxLength) = lengths :=
    List.filter_eq_self.2 fun l hl => by simpa using h.le l hl
  have hroom : length + (maxLength - length) = maxLength := by omega
  rw [extent_wordsUpTo_eq_kraft, hall] at hplace
  have hfits := Nat.lt_of_lt_of_le hplace h.room
  rw [← hroom, ← shiftLeft_mul_shiftLeft, hroom] at hfits
  obtain ⟨word, rfl, hvalue⟩ := exists_value (Nat.lt_of_mul_lt_mul_right hfits)
  exact ⟨word, hpos, hle, hlength, hvalue⟩

/-! ## Numbers in tables -/

/-- A table whose entries leave **no gap** between each other has one for each number in its
range. -/
theorem exists_entry {a : Nat × Nat} {table : List (Nat × Nat)} {n : Nat}
    (h : (a :: table).IsChain fun a b => b.1 ≤ a.1 + 1 <<< a.2) (hge : a.1 ≤ n)
    (hlt : n < ((a :: table).getLast (List.cons_ne_nil a table)).1
      + 1 <<< ((a :: table).getLast (List.cons_ne_nil a table)).2) :
    ∃ entry ∈ a :: table, entry.1 ≤ n ∧ n < entry.1 + 1 <<< entry.2 := by
  induction table generalizing a with
  | nil => exact ⟨a, List.mem_cons_self, hge, hlt⟩
  | cons b table ih =>
    obtain ⟨hab, htable⟩ := List.isChain_cons_cons.1 h
    rcases Nat.lt_or_ge n (a.1 + 1 <<< a.2) with hfirst | hrest
    · exact ⟨a, List.mem_cons_self, hge, hfirst⟩
    · obtain ⟨entry, hmem, hentry⟩ := ih htable (Nat.le_trans hab hrest) hlt
      exact ⟨entry, List.mem_cons_of_mem a hmem, hentry⟩

theorem exists_coded {first n : Nat} {table : List (Nat × Nat)} (hlengths : Ample lengths)
    (h : Codable lengths first table n) : ∃ bits, Coded lengths first table bits n := by
  obtain ⟨i, entry, hentry, hsymbol, hge, hlt⟩ := h
  obtain ⟨word, hword⟩ := exists_word hlengths hsymbol
  obtain ⟨extra, rfl⟩ := Nat.exists_eq_add_of_le hge
  exact ⟨_, .mk hword hentry (Nat.lt_of_add_lt_add_left hlt)⟩

theorem codable_of_hasWord {first n : Nat} {table : List (Nat × Nat)}
    (hwords : ∀ i < table.length, HasWord lengths (first + i))
    (h : ∃ entry ∈ table, entry.1 ≤ n ∧ n < entry.1 + 1 <<< entry.2) :
    Codable lengths first table n := by
  obtain ⟨entry, hmem, hentry⟩ := h
  obtain ⟨i, hi⟩ := List.mem_iff_getElem?.1 hmem
  exact ⟨i, entry, hi, hwords i (List.getElem?_eq_some_iff.1 hi).1, hentry⟩

theorem hasWord_of_forall_ne (h : ∀ l ∈ lengths, l ≠ 0) (hsymbol : symbol < lengths.length) :
    HasWord lengths symbol := by
  rw [HasWord, List.getD_eq_getElem?_getD, List.getElem?_eq_getElem hsymbol]
  exact h _ (List.getElem_mem hsymbol)

/-! ## Items -/

theorem exists_itemForm {item : Item} (hliterals : Ample literals) (hdistances : Ample distances)
    (h : item.Codable literals distances) : ∃ bits, ItemForm literals distances item bits := by
  cases item with
  | literal b =>
    obtain ⟨word, hword⟩ := exists_word hliterals h
    exact ⟨word, .literal hword⟩
  | copy length distance =>
    obtain ⟨long, hlong⟩ := exists_coded hliterals h.1
    obtain ⟨far, hfar⟩ := exists_coded hdistances h.2
    exact ⟨long ++ far, .copy hlong hfar⟩
  | endOfBlock => cases h

theorem exists_itemsForm {items : List Item} (hliterals : Ample literals)
    (hdistances : Ample distances) (hend : HasWord literals 256)
    (h : ∀ item ∈ items, item.Codable literals distances) :
    ∃ bits, ItemsForm literals distances items bits := by
  induction items with
  | nil =>
    obtain ⟨word, hword⟩ := exists_word hliterals hend
    exact ⟨word, .done (.endOfBlock hword)⟩
  | cons item items ih =>
    obtain ⟨hitem, hitems⟩ := List.forall_mem_cons.1 h
    obtain ⟨form, hform⟩ := exists_itemForm hliterals hdistances hitem
    obtain ⟨bits, hbits⟩ := ih hitems
    exact ⟨form ++ bits, .cons hform hbits⟩

/-! ## The fixed codes -/

theorem forall_mem_fixedLiterals : ∀ l ∈ fixedLiterals, l ≠ 0 ∧ l ≤ maxLength := by
  intro l hl
  simp only [fixedLiterals, List.mem_append, List.mem_replicate] at hl
  change l ≠ 0 ∧ l ≤ 15
  omega

theorem forall_mem_fixedDistances : ∀ l ∈ fixedDistances, l ≠ 0 ∧ l ≤ maxLength := by decide

theorem ample_fixedLiterals : Ample fixedLiterals where
  le l hl := (forall_mem_fixedLiterals l hl).2
  room := by decide +kernel

theorem ample_fixedDistances : Ample fixedDistances where
  le l hl := (forall_mem_fixedDistances l hl).2
  room := by decide

theorem hasWord_fixedLiterals (h : symbol < 288) : HasWord fixedLiterals symbol := by
  have hlength : fixedLiterals.length = 288 := by
    simp only [fixedLiterals, List.length_append, List.length_replicate]
  exact hasWord_of_forall_ne (fun l hl => (forall_mem_fixedLiterals l hl).1) (hlength ▸ h)

theorem hasWord_fixedDistances (h : symbol < 32) : HasWord fixedDistances symbol :=
  hasWord_of_forall_ne (fun l hl => (forall_mem_fixedDistances l hl).1) h

theorem Item.Plain.codable {item : Item} (h : item.Plain) :
    item.Codable fixedLiterals fixedDistances := by
  cases item with
  | literal b =>
    have := b.toNat_lt
    exact hasWord_fixedLiterals (by omega)
  | copy length distance =>
    obtain ⟨⟨hshort, hlong⟩, hnear, hfar⟩ := h
    refine ⟨codable_of_hasWord (fun i hi => ?_) ?_, codable_of_hasWord (fun i hi => ?_) ?_⟩
    · change i < 29 at hi
      exact hasWord_fixedLiterals (by omega)
    · exact exists_entry (by decide) hshort (Nat.lt_succ_of_le hlong)
    · change i < 30 at hi
      exact hasWord_fixedDistances (by omega)
    · exact exists_entry (by decide) hnear (Nat.lt_succ_of_le hfar)
  | endOfBlock => cases h

/-! ## Heads -/

/-- Lengths for the code for code lengths in which **every symbol has a word**. -/
def evenLengths : List Nat := List.replicate 13 4 ++ List.replicate 6 5

theorem complete_evenLengths : Complete (inOrder evenLengths) := by decide

theorem exists_evenWord {length : Nat} (h : length ≤ maxLength) :
    ∃ word, Word (inOrder evenLengths) word length := by
  have hample : Ample (inOrder evenLengths) :=
    Usable.ample (.inl complete_evenLengths) (by decide)
  have hwords : ∀ l ∈ inOrder evenLengths, l ≠ 0 := by decide
  refine exists_word hample (hasWord_of_forall_ne hwords ?_)
  rw [length_inOrder]
  exact Nat.lt_of_le_of_lt h (by decide)

theorem exists_runs (h : ∀ l ∈ lengths, l ≤ maxLength) (done : List Nat) :
    ∃ bits, Runs (inOrder evenLengths) done bits lengths := by
  induction lengths generalizing done with
  | nil => exact ⟨[], .nil⟩
  | cons length lengths ih =>
    obtain ⟨hle, hlengths⟩ := List.forall_mem_cons.1 h
    obtain ⟨word, hword⟩ := exists_evenWord hle
    obtain ⟨bits, hbits⟩ := ih hlengths (done ++ [length])
    exact ⟨word ++ bits, .single (Nat.lt_succ_of_le hle) hword hbits⟩

theorem exists_preface (h : Legal literals distances) : ∃ bits, Preface literals distances bits := by
  obtain ⟨runs, hruns⟩ := exists_runs h.le []
  have := h.literals_length
  have := h.distances_length
  exact ⟨_, .mk (by omega) (by omega) (by omega) (by omega) (by decide) (by decide)
    complete_evenLengths hruns⟩

/-! ## Blocks -/

/-- A legal block can be written **at every position**. -/
theorem exists_form {b : Block} (h : b.Legal) (position : Nat) :
    ∃ kind bits, b.Form position kind bits := by
  cases b with
  | stored bytes =>
    change bytes.length ≤ 65535 at h
    have hlength : bytes.length = (UInt8.ofNat bytes.length).toNat
        + 256 * (UInt8.ofNat (bytes.length / 256)).toNat := by
      rw [UInt8.toNat_ofNat', UInt8.toNat_ofNat']
      omega
    have hpad : (List.replicate ((8 - position % 8) % 8) false).length < 8 := by
      rw [List.length_replicate]
      omega
    refine ⟨0, _, .stored hpad ?_ hlength⟩
    rw [List.length_replicate]
    omega
  | fixed items =>
    obtain ⟨bits, hbits⟩ := exists_itemsForm ample_fixedLiterals ample_fixedDistances
      (hasWord_fixedLiterals (by decide)) fun item hitem => (h item hitem).codable
    exact ⟨1, bits, .fixed hbits⟩
  | dynamic literals distances items =>
    obtain ⟨hcodes, hitems⟩ := h
    obtain ⟨hliterals, hdistances⟩ := List.forall_mem_append.1 hcodes.le
    obtain ⟨head, hhead⟩ := exists_preface hcodes
    obtain ⟨bits, hbits⟩ := exists_itemsForm (hcodes.literals_usable.ample hliterals)
      (hcodes.distances_usable.ample hdistances) hcodes.ends hitems
    exact ⟨2, head ++ bits, .dynamic hhead hbits⟩

theorem exists_forms {blocks : List Block} (hne : blocks ≠ []) (h : ∀ b ∈ blocks, b.Legal)
    (position : Nat) : ∃ bits, Forms position blocks bits := by
  induction blocks generalizing position with
  | nil => exact absurd rfl hne
  | cons b blocks ih =>
    obtain ⟨hb, hblocks⟩ := List.forall_mem_cons.1 h
    obtain ⟨kind, bits, hbits⟩ := exists_form hb (position + 3)
    cases blocks with
    | nil => exact ⟨_, .last hbits⟩
    | cons next blocks =>
      obtain ⟨rest, hrest⟩ := ih (List.cons_ne_nil next blocks) hblocks _
      exact ⟨_, .more hbits hrest⟩

/-! ## Bytes -/

theorem exists_bitsOf (a b c d e f g h : Bool) :
    ∃ x, BitStream.bitsOf x = [a, b, c, d, e, f, g, h] := by
  refine ⟨UInt8.ofNat ([a, b, c, d, e, f, g, h].foldr (fun bit n => bit.toNat + 2 * n) 0), ?_⟩
  revert a b c d e f g h
  decide

theorem exists_bytes {n : Nat} {bits : List Bool} (h : bits.length = 8 * n) :
    ∃ body : Bytes, body.flatMap BitStream.bitsOf = bits := by
  induction n generalizing bits with
  | zero =>
    obtain rfl := List.eq_nil_of_length_eq_zero h
    exact ⟨[], rfl⟩
  | succ n ih =>
    match bits, h with
    | b₀ :: b₁ :: b₂ :: b₃ :: b₄ :: b₅ :: b₆ :: b₇ :: bits, h =>
      obtain ⟨x, hx⟩ := exists_bitsOf b₀ b₁ b₂ b₃ b₄ b₅ b₆ b₇
      simp only [List.length_cons] at h
      obtain ⟨body, rfl⟩ := ih (by omega : bits.length = 8 * n)
      exact ⟨x :: body, by rw [List.flatMap_cons, hx]; rfl⟩

/-- Legal blocks **can be written**, whichever they are. -/
theorem exists_written {blocks : List Block} (hne : blocks ≠ []) (h : ∀ b ∈ blocks, b.Legal) :
    ∃ body, Written blocks body := by
  obtain ⟨bits, hbits⟩ := exists_forms hne h 0
  have hpad : (List.replicate ((8 - bits.length % 8) % 8) false).length
      = (8 - bits.length % 8) % 8 := List.length_replicate
  have hlength : (bits ++ List.replicate ((8 - bits.length % 8) % 8) false).length
      = 8 * ((bits.length + 7) / 8) := by
    rw [List.length_append, hpad]
    omega
  obtain ⟨body, hbody⟩ := exists_bytes hlength
  exact ⟨body, bits, _, hbody, by rw [hpad]; omega, hbits⟩

end Drift.Deflate
