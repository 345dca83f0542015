import Drift.Proofs.Deflate.Items
import Drift.Proofs.Result

/-!
# Heads of blocks are read from their forms

* `lengthCode_eq_ok_iff` — the code for code lengths is one of complete lengths, or reads zeros.
* `readLengths_eq_ok_iff` — code lengths are read exactly when they come next.
* `isUsable_iff`, `codesOf_eq_ok_iff` — which lengths make the codes of a block.
* **`readCodes_eq_ok_iff`** — the head of a block is read exactly when one of its forms comes next.
  A code for code lengths without words never leads to one.
-/

namespace Drift.Deflate

open BitStream (Begins begins_nil_iff begins_append_iff)

variable {literals distances : List Nat} {s r : BitStream}

/-! ## The code for code lengths -/

theorem triples_eq_ok_iff {n : Nat} {done found : List Nat} :
    triples n done s = .ok (found, r) ↔
      ∃ written, written.length = n ∧ (∀ l ∈ written, l < 8) ∧ found = done.reverse ++ written ∧
        Begins s (written.flatMap (numeral 3)) r := by
  induction n generalizing done s with
  | zero =>
    constructor
    · intro h
      cases h
      exact ⟨[], rfl, nofun, (List.append_nil _).symm, .nil _⟩
    · rintro ⟨written, hlength, -, rfl, hbegins⟩
      rw [List.eq_nil_of_length_eq_zero hlength] at hbegins ⊢
      rw [begins_nil_iff.1 hbegins, List.append_nil]
      rfl
  | succ n ih =>
    constructor
    · intro h
      unfold triples at h
      split at h
      · cases h
      · next v t hbits =>
        obtain ⟨hv, ht⟩ := bits_eq_ok_iff.1 hbits
        obtain ⟨written, hlength, hsmall, rfl, hr⟩ := ih.1 h
        refine ⟨v :: written, congrArg Nat.succ hlength, List.forall_mem_cons.2 ⟨hv, hsmall⟩, ?_,
          ht.append hr⟩
        rw [List.reverse_cons, List.append_assoc, List.singleton_append]
    · rintro ⟨written, hlength, hsmall, rfl, hbegins⟩
      obtain ⟨v, written, rfl⟩ := List.exists_cons_of_length_eq_add_one hlength
      obtain ⟨hv, hsmall⟩ := List.forall_mem_cons.1 hsmall
      obtain ⟨t, ht, hr⟩ := begins_append_iff.1 hbegins
      simp only [triples, bits_eq_ok_iff.2 ⟨hv, ht⟩]
      refine ih.2 ⟨written, Nat.succ.inj hlength, hsmall, ?_, hr⟩
      rw [List.reverse_cons, List.append_assoc, List.singleton_append]

theorem find?_zip_eq {order written : List Nat} {symbol : Nat} (h : symbol ∈ order) :
    (((order.zip written).find? (·.1 == symbol)).map (·.2)).getD 0
      = written.getD (order.idxOf symbol) 0 := by
  induction order generalizing written with
  | nil => cases h
  | cons a order ih =>
    cases written with
    | nil => rfl
    | cons l written =>
      by_cases heq : a = symbol
      · subst heq
        simp
      · have hmem : symbol ∈ order := (List.mem_cons.1 h).resolve_left fun h => heq h.symm
        simp [heq, List.idxOf_cons_ne, ih hmem]

theorem inOrder_eq (written : List Nat) :
    ((List.range 19).map fun symbol =>
      (((lengthOrder.zip written).find? (·.1 == symbol)).map (·.2)).getD 0) = inOrder written := by
  refine List.map_congr_left fun symbol hsymbol => find?_zip_eq ?_
  have hall : ∀ symbol ∈ List.range 19, symbol ∈ lengthOrder := by decide
  exact hall symbol hsymbol

theorem kraft_eq_zero {lengths : List Nat} (h : ∀ l ∈ lengths, l = 0) : kraft lengths = 0 := by
  induction lengths with
  | nil => rfl
  | cons l lengths ih =>
    obtain ⟨rfl, hrest⟩ := List.forall_mem_cons.1 h
    exact ih hrest

/-- The code for code lengths is **one of complete lengths**, or reads zeros only. -/
theorem lengthCode_eq_ok_iff {written : List Nat} {code : Code} :
    lengthCode written = .ok code ↔
      (∀ l ∈ inOrder written, l = 0) ∧ code = Code.constant 0 ∨
      Complete (inOrder written) ∧ code = Code.ofLengths (inOrder written) := by
  have hcode : lengthCode written =
      if (inOrder written).all (· == 0) then .ok (Code.constant 0)
      else if isOver (inOrder written) || isIncomplete (inOrder written) then .error .lengthCode
      else .ok (Code.ofLengths (inOrder written)) := by
    rw [← inOrder_eq]
    rfl
  have hzero : (inOrder written).all (· == 0) = true ↔ ∀ l ∈ inOrder written, l = 0 := by
    simp only [List.all_eq_true, beq_iff_eq]
  have hcomplete : (isOver (inOrder written) || isIncomplete (inOrder written)) = true ↔
      ¬ Complete (inOrder written) := by
    simp only [isOver, isIncomplete, Complete, Bool.or_eq_true, decide_eq_true_eq]
    omega
  rw [hcode]
  split
  · next h =>
    rw [hzero] at h
    have hnot : ¬ Complete (inOrder written) := by
      rw [Complete, kraft_eq_zero h]
      decide
    simp only [Except.ok.injEq, and_iff_right h, hnot, false_and, or_false]
    exact eq_comm
  · next h =>
    rw [hzero] at h
    split
    · next hbad => simp only [reduceCtorEq, h, hcomplete.1 hbad, false_and, or_false]
    · next hgood =>
      have hgood := Decidable.not_not.1 (mt hcomplete.2 hgood)
      simp only [Except.ok.injEq, h, and_iff_right hgood, false_and, false_or]
      exact eq_comm

/-! ## Code lengths -/

theorem readRepeat_eq_ok_iff {symbol length count : Nat} {done : List Nat} (hge : 16 ≤ symbol)
    (hlt : symbol < 19) :
    readRepeat symbol done.getLast? s = .ok ((length, count), r) ↔
      ∃ least width extra, Repetition done symbol length least width ∧ extra < 1 <<< width ∧
        count = least + extra ∧ Begins s (numeral width extra) r := by
  constructor
  · intro h
    unfold readRepeat at h
    split at h
    next least width hsizes =>
    split at h
    · cases h
    · next extra t hbits =>
      obtain ⟨hextra, hbegins⟩ := bits_eq_ok_iff.1 hbits
      split at h
      · next heq =>
        subst heq
        cases hsizes
        split at h
        · cases h
        · next hlast =>
          cases h
          exact ⟨3, 2, extra, .last hlast, hextra, rfl, hbegins⟩
      · next hne =>
        cases h
        refine ⟨least, width, extra, ?_, hextra, rfl, hbegins⟩
        rw [if_neg hne] at hsizes
        split at hsizes
        · next heq =>
          subst heq
          cases hsizes
          exact .zeros
        · cases hsizes
          obtain rfl : symbol = 18 := by omega
          exact .manyZeros
  · rintro ⟨least, width, extra, hrep, hextra, rfl, hbegins⟩
    have hbits := bits_eq_ok_iff.2 ⟨hextra, hbegins⟩
    cases hrep with
    | last hlast => simp [readRepeat, hbits, hlast]
    | zeros => simp [readRepeat, hbits]
    | manyZeros => simp [readRepeat, hbits]

theorem readLengths_eq (code : Code) (missing : Nat) (done : List Nat) (s : BitStream) :
    readLengths code missing done s = if missing = 0 then .ok (done.reverse, s)
      else match code.read .lengthCode s with
        | .error fault => .error fault
        | .ok (symbol, s) =>
          if symbol < 16 then readLengths code (missing - 1) (symbol :: done) s
          else match readRepeat symbol done.head? s with
            | .error fault => .error fault
            | .ok ((length, count), s) =>
              if missing < count then .error .lengthRepeat
              else readLengths code (missing - count) (List.replicate count length ++ done) s := by
  rw [readLengths]
  split
  · rfl
  · cases code.read .lengthCode s with
    | error => rfl
    | ok found =>
      simp only
      split
      · rfl
      · split <;> simp only [*]

theorem readLengths_single {code : Code} {length missing : Nat} {done : List Nat} {t : BitStream}
    (hread : code.read .lengthCode s = .ok (length, t)) (hsingle : length < 16) :
    readLengths code (missing + 1) done s = readLengths code missing (length :: done) t := by
  rw [readLengths_eq, if_neg (Nat.succ_ne_zero _)]
  simp only [hread, if_pos hsingle, Nat.add_sub_cancel]

theorem readLengths_repeat {code : Code} {symbol length count missing : Nat} {done : List Nat}
    {t u : BitStream} (hread : code.read .lengthCode s = .ok (symbol, t)) (hge : 16 ≤ symbol)
    (hrepeat : readRepeat symbol done.head? t = .ok ((length, count), u)) :
    readLengths code (count + missing) done s
      = readLengths code missing (List.replicate count length ++ done) u := by
  have hcount := three_le_of_readRepeat hrepeat
  rw [readLengths_eq, if_neg (by omega)]
  simp only [hread, if_neg (Nat.not_lt_of_le hge), hrepeat]
  rw [if_neg (by omega), Nat.add_sub_cancel_left]

theorem Repetition.ge {symbol length least width : Nat} {done : List Nat}
    (h : Repetition done symbol length least width) : 16 ≤ symbol := by
  cases h <;> decide

section

variable {code : List Nat} (hcode : code.length ≤ 19)

include hcode

theorem Word.lt_nineteen {word : List Bool} {symbol : Nat} (h : Word code word symbol) :
    symbol < 19 :=
  Nat.lt_of_lt_of_le (List.getElem?_eq_some_iff.1 h.length).1 hcode

theorem runs_of_readLengths {missing : Nat} {done found : List Nat}
    (h : readLengths (Code.ofLengths code) missing done s = .ok (found, r)) :
    ∃ bits lengths, Runs code done.reverse bits lengths ∧ lengths.length = missing ∧
      found = done.reverse ++ lengths ∧ Begins s bits r := by
  fun_induction readLengths (Code.ofLengths code) missing done s with
  | case1 =>
    cases h
    exact ⟨[], [], .nil, rfl, (List.append_nil _).symm, .nil _⟩
  | case2 => cases h
  | case3 missing done s hmissing symbol t hread hsingle ih =>
    obtain ⟨word, hword, ht⟩ := Code.read_ofLengths_iff.1 hread
    obtain ⟨bits, lengths, hruns, hlength, rfl, hr⟩ := ih h
    rw [List.reverse_cons] at hruns ⊢
    refine ⟨word ++ bits, symbol :: lengths, .single hsingle hword hruns, ?_, ?_, ht.append hr⟩
    · rw [List.length_cons]
      omega
    · rw [List.append_assoc, List.singleton_append]
  | case4 => cases h
  | case5 => cases h
  | case6 missing done s hmissing symbol t hread hrep length count u hrepeat hfit ih =>
    obtain ⟨word, hword, ht⟩ := Code.read_ofLengths_iff.1 hread
    rw [← List.getLast?_reverse] at hrepeat
    obtain ⟨least, width, extra, hrepetition, hextra, rfl, hu⟩ :=
      (readRepeat_eq_ok_iff (Nat.le_of_not_lt hrep) (hword.lt_nineteen hcode)).1 hrepeat
    obtain ⟨bits, lengths, hruns, hlength, rfl, hr⟩ := ih h
    rw [List.reverse_append, List.reverse_replicate] at hruns ⊢
    refine ⟨word ++ (numeral width extra ++ bits),
      List.replicate (least + extra) length ++ lengths,
      .repeated hword hrepetition hextra hruns, ?_, List.append_assoc ..,
      ht.append (hu.append hr)⟩
    rw [List.length_append, List.length_replicate]
    omega

theorem readLengths_of_runs {done before lengths : List Nat} {bits : List Bool}
    (hruns : Runs code before bits lengths) (hdone : done.reverse = before) (h : Begins s bits r) :
    readLengths (Code.ofLengths code) lengths.length done s = .ok (before ++ lengths, r) := by
  induction hruns generalizing done s with
  | nil =>
    cases begins_nil_iff.1 h
    rw [List.append_nil, readLengths_eq, if_pos List.length_nil, hdone]
  | @single before lengths word bits length hsingle hword _ ih =>
    obtain ⟨t, ht, hr⟩ := begins_append_iff.1 h
    have hread : (Code.ofLengths code).read .lengthCode s = .ok (length, t) :=
      Code.read_ofLengths_iff.2 ⟨word, hword, ht⟩
    rw [List.length_cons, readLengths_single hread hsingle,
      ih (by rw [List.reverse_cons, hdone]) hr, List.append_assoc, List.singleton_append]
  | @repeated before lengths word bits symbol length least width extra hword hrep hextra _ ih =>
    obtain ⟨t, ht, hu⟩ := begins_append_iff.1 h
    obtain ⟨u, hu, hr⟩ := begins_append_iff.1 hu
    have hread : (Code.ofLengths code).read .lengthCode s = .ok (symbol, t) :=
      Code.read_ofLengths_iff.2 ⟨word, hword, ht⟩
    have hrepeat := (readRepeat_eq_ok_iff hrep.ge (hword.lt_nineteen hcode)).2
      ⟨least, width, extra, hrep, hextra, rfl, hu⟩
    rw [← hdone, List.getLast?_reverse] at hrepeat
    have hdone' : (List.replicate (least + extra) length ++ done).reverse
        = before ++ List.replicate (least + extra) length := by
      rw [List.reverse_append, List.reverse_replicate, hdone]
    rw [List.length_append, List.length_replicate, readLengths_repeat hread hrep.ge hrepeat,
      ih hdone' hr, List.append_assoc]

/-- Code lengths are read **exactly when they come next**, as many as are missing. -/
theorem readLengths_eq_ok_iff {missing : Nat} {done found : List Nat} :
    readLengths (Code.ofLengths code) missing done s = .ok (found, r) ↔
      ∃ bits lengths, Runs code done.reverse bits lengths ∧ lengths.length = missing ∧
        found = done.reverse ++ lengths ∧ Begins s bits r := by
  refine ⟨runs_of_readLengths hcode, ?_⟩
  rintro ⟨bits, lengths, hruns, rfl, rfl, hbegins⟩
  exact readLengths_of_runs hcode hruns rfl hbegins

end

theorem getD_eq_zero {lengths : List Nat} (h : ∀ l ∈ lengths, l = 0) (i : Nat) :
    lengths.getD i 0 = 0 := by
  rw [List.getD_eq_getElem?_getD]
  cases hget : lengths[i]? with
  | none => rfl
  | some l => exact h l (List.mem_of_getElem? hget)

theorem eq_zero_of_readLengths_constant {missing : Nat} {done found : List Nat}
    (h : readLengths (Code.constant 0) missing done s = .ok (found, r))
    (hdone : ∀ l ∈ done, l = 0) :
    ∀ l ∈ found, l = 0 := by
  have hsymbol {s t : BitStream} {symbol : Nat}
      (h : (Code.constant 0).read .lengthCode s = .ok (symbol, t)) : symbol = 0 := by
    unfold Code.read at h
    split at h <;> cases h
    · rfl
    · rfl
  fun_induction readLengths (Code.constant 0) missing done s with
  | case1 =>
    cases h
    simpa using hdone
  | case2 => cases h
  | case3 missing done s hmissing symbol t hread hsingle ih =>
    exact ih h (List.forall_mem_cons.2 ⟨hsymbol hread, hdone⟩)
  | case4 => cases h
  | case5 => cases h
  | case6 missing done s hmissing symbol t hread hrep =>
    rw [hsymbol hread] at hrep
    exact absurd (by decide) hrep

/-! ## Heads -/

theorem isUsable_iff {lengths : List Nat} : isUsable lengths = true ↔ Usable lengths := by
  have hshort : isShort lengths = true ↔ ∀ l ∈ lengths, l ≤ 1 := by
    simp only [isShort, List.all_eq_true, decide_eq_true_eq]
  simp only [isUsable, isOver, isIncomplete, hshort, Usable, Complete, Bool.and_eq_true,
    Bool.or_eq_true, Bool.not_eq_true', decide_eq_false_iff_not]
  generalize (∀ l ∈ lengths, l ≤ 1) = short
  by_cases h : short
  · simp only [h, or_true, and_true]
    omega
  · simp only [h, or_false, and_false]
    omega

theorem codesOf_eq_ok_iff {found : Codes} :
    codesOf literals distances = .ok found ↔
      (literals.getD 256 0 ≠ 0 ∧ Usable literals ∧ Usable distances) ∧
        found = codes literals distances := by
  simp only [← isUsable_iff]
  unfold codesOf
  split
  · next h => exact ⟨nofun, fun hfound => absurd h hfound.1.1⟩
  · next hend =>
    cases isUsable literals
    · exact ⟨nofun, nofun⟩
    · cases isUsable distances
      · exact ⟨nofun, nofun⟩
      · simp only [Bool.not_true, Bool.false_eq_true, if_false, Except.ok.injEq, ne_eq, hend,
          not_false_eq_true, and_self, true_and]
        exact eq_comm

theorem bits_counts_iff {counts : Nat} :
    bits 14 s = .ok (counts, r) ↔
      counts < 1 <<< 14 ∧ Begins s (numeral 5 (counts % 32) ++
        (numeral 5 (counts / 32 % 32) ++ numeral 4 (counts / 1024))) r := by
  have hlow : numeral (5 + 9) (counts % 32 + (counts / 32) * 32)
      = numeral 5 (counts % 32) ++ numeral 9 (counts / 32) :=
    numeral_add 5 9 _ _ (Nat.mod_lt _ (by decide))
  have hhigh : numeral (5 + 4) (counts / 32 % 32 + (counts / 32 / 32) * 32)
      = numeral 5 (counts / 32 % 32) ++ numeral 4 (counts / 32 / 32) :=
    numeral_add 5 4 _ _ (Nat.mod_lt _ (by decide))
  rw [Nat.mod_add_div'] at hlow hhigh
  rw [bits_eq_ok_iff, ← Nat.div_div_eq_div_mul counts 32 32, ← hhigh, ← hlow]

theorem exists_bits_counts {a b c : Nat} {rest : List Bool} (ha : a < 32) (hb : b < 32)
    (hc : c < 16)
    (hbegins : Begins s (numeral 5 a ++ (numeral 5 b ++ (numeral 4 c ++ rest))) r) :
    ∃ counts t, bits 14 s = .ok (counts, t) ∧ counts % 32 = a ∧ counts / 32 % 32 = b ∧
      counts / 1024 = c ∧ Begins t rest r := by
  generalize hcounts : a + (b + c * 32) * 32 = counts
  obtain rfl : a = counts % 32 := by omega
  obtain rfl : b = counts / 32 % 32 := by omega
  obtain rfl : c = counts / 1024 := by omega
  have hbound : counts < 1 <<< 14 := by
    change _ < 16384
    omega
  rw [← List.append_assoc (numeral 5 _), ← List.append_assoc, List.append_assoc (numeral 5 _)]
    at hbegins
  obtain ⟨t, ht, hr⟩ := begins_append_iff.1 hbegins
  exact ⟨counts, t, bits_counts_iff.2 ⟨hbound, ht⟩, rfl, rfl, rfl, hr⟩

theorem length_inOrder (written : List Nat) : (inOrder written).length = 19 := by
  rw [inOrder, List.length_map, List.length_range]

theorem headForm_of_readCodes {found : Codes} (h : readCodes s = .ok (found, r)) :
    ∃ literals distances bits, HeadForm literals distances bits ∧
      found = codes literals distances ∧ Begins s bits r := by
  obtain ⟨⟨counts, t⟩, hcounts, h⟩ := bind_eq_ok_iff.1 h
  simp only at h
  split at h
  · cases h
  next hfew =>
  obtain ⟨hcounts, ht⟩ := bits_counts_iff.1 hcounts
  obtain ⟨⟨written, u⟩, htriples, h⟩ := bind_eq_ok_iff.1 h
  obtain ⟨code, hcode, h⟩ := bind_eq_ok_iff.1 h
  obtain ⟨⟨lengths, v⟩, hlengths, h⟩ := bind_eq_ok_iff.1 h
  obtain ⟨cs, hcodes, h⟩ := bind_eq_ok_iff.1 h
  cases h
  obtain ⟨written, hwritten, hsmall, rfl, hu⟩ := triples_eq_ok_iff.1 htriples
  obtain ⟨⟨hend, husable⟩, rfl⟩ := codesOf_eq_ok_iff.1 hcodes
  rcases lengthCode_eq_ok_iff.1 hcode with ⟨-, rfl⟩ | ⟨hcomplete, rfl⟩
  · -- Without a code for code lengths there is no word for the end of a block.
    have hzero := eq_zero_of_readLengths_constant hlengths nofun
    exact absurd (getD_eq_zero (fun l hl => hzero l (List.mem_of_mem_take hl)) 256) hend
  · obtain ⟨runs, lengths, hruns, hlength, rfl, hr⟩ :=
      (readLengths_eq_ok_iff (Nat.le_of_eq (length_inOrder _))).1 hlengths
    simp only [List.reverse_nil] at hruns hcomplete
    have hfirst : (lengths.take (counts % 32 + 257)).length = counts % 32 + 257 :=
      List.length_take_of_le (by omega)
    have hsecond : (lengths.drop (counts % 32 + 257)).length = counts / 32 % 32 + 1 := by
      rw [List.length_drop]
      omega
    rw [← List.take_append_drop (counts % 32 + 257) lengths] at hruns
    refine ⟨_, _, _, .mk (by omega) (by omega) (by omega) hsmall hcomplete hruns hend husable.1
      husable.2, rfl, ?_⟩
    rw [hfirst, hsecond, hwritten, Nat.add_sub_cancel, Nat.add_sub_cancel, Nat.add_sub_cancel]
    simpa only [List.append_assoc] using ht.append (hu.append hr)

theorem readCodes_of_headForm {bits : List Bool} (hhead : HeadForm literals distances bits)
    (hbegins : Begins s bits r) : readCodes s = .ok (codes literals distances, r) := by
  obtain ⟨hliterals, hdistances, hwritten, hsmall, hcomplete, hruns, hend, husable, husable'⟩ :=
    hhead
  next written runs =>
  obtain ⟨counts, t, hbits, hfirst, hsecond, hthird, hu⟩ :=
    exists_bits_counts (by omega) (by omega) (by omega) hbegins
  obtain ⟨u, hu, hr⟩ := begins_append_iff.1 hu
  have hliterals' : counts % 32 + 257 = literals.length := by omega
  have hdistances' : counts / 32 % 32 + 1 = distances.length := by omega
  have hwritten' : counts / 1024 + 4 = written.length := by omega
  refine bind_eq_ok_iff.2 ⟨(counts, t), hbits, ?_⟩
  simp only [hliterals', hdistances', hwritten']
  rw [if_neg (by omega)]
  refine bind_eq_ok_iff.2 ⟨(written, u),
    triples_eq_ok_iff.2 ⟨written, rfl, hsmall, rfl, hu⟩, ?_⟩
  refine bind_eq_ok_iff.2 ⟨_, lengthCode_eq_ok_iff.2 (.inr ⟨hcomplete, rfl⟩), ?_⟩
  refine bind_eq_ok_iff.2 ⟨(literals ++ distances, r),
    (readLengths_eq_ok_iff (Nat.le_of_eq (length_inOrder _))).2
      ⟨runs, literals ++ distances, hruns, List.length_append, rfl, hr⟩, ?_⟩
  simp only [List.take_left, List.drop_left]
  exact bind_eq_ok_iff.2 ⟨_, codesOf_eq_ok_iff.2 ⟨⟨hend, husable, husable'⟩, rfl⟩, rfl⟩

/-- The head of a block is read **exactly when one of its forms comes next**. -/
theorem readCodes_eq_ok_iff {found : Codes} :
    readCodes s = .ok (found, r) ↔
      ∃ literals distances bits, HeadForm literals distances bits ∧
        found = codes literals distances ∧ Begins s bits r := by
  refine ⟨headForm_of_readCodes, ?_⟩
  rintro ⟨literals, distances, bits, hhead, rfl, hbegins⟩
  exact readCodes_of_headForm hhead hbegins

end Drift.Deflate
