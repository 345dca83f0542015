import Drift.Json.Text
import Mathlib.Data.List.Chain

/-!
# Texts and their code points

* `Json.Points` — the code points that a text can have: no two halves in a row are a pair.
* `Json.Text.Proper` — a text of such code points; `Json.Text.Proper.ofPoints_points` — it is given
  by them.
* **`Json.Text.precedes_eq`** — the order of texts is that of their code points, so that it is linear
  on proper texts.
-/

namespace Drift.Json

/-! ## Code points -/

/-- The first half of a pair. -/
def isHigh (point : Nat) : Bool := 0xD800 ≤ point && point < 0xDC00

/-- The second half of a pair. -/
def isLow (point : Nat) : Bool := 0xDC00 ≤ point && point < 0xE000

/-- The code points that **a text can have**: two halves in a row are no pair. -/
structure Points (points : List Nat) : Prop where
  valid : ∀ point ∈ points, point < 0x110000
  apart : points.IsChain fun m n => ¬ (isHigh m = true ∧ isLow n = true)

theorem points_nil : Points [] := ⟨nofun, .nil⟩

theorem Points.tail {point : Nat} {points : List Nat} (h : Points (point :: points)) :
    Points points where
  valid n hn := h.valid n (List.mem_cons_of_mem _ hn)
  apart := h.apart.tail

theorem Points.snoc {point : Nat} {points : List Nat} (h : Points points)
    (hvalid : point < 0x110000)
    (hapart : ∀ last ∈ points.getLast?, ¬ (isHigh last = true ∧ isLow point = true)) :
    Points (points ++ [point]) where
  valid n hn := (List.mem_append.1 hn).elim (h.valid n) fun hn => List.mem_singleton.1 hn ▸ hvalid
  apart := List.isChain_append.2 ⟨h.apart, .singleton _, fun last hlast n hn => by
    cases hn
    exact hapart last hlast⟩

theorem isHalf_toNat (c : Char) : isHalf c.toNat = false := by
  have hvalid := c.valid
  unfold isHalf
  rw [Bool.and_eq_false_iff, decide_eq_false_iff_not, decide_eq_false_iff_not]
  rcases hvalid with h | ⟨h, -⟩
  · exact .inl (by change ¬ 0xD800 ≤ c.val.toNat; omega)
  · exact .inr (by change ¬ c.val.toNat < 0xE000; omega)

theorem toNat_lt (c : Char) : c.toNat < 0x110000 := by
  have hvalid := c.valid
  rcases hvalid with h | ⟨-, h⟩
  · change c.val.toNat < _; omega
  · exact h

theorem toNat_ofNat {point : Nat} (hvalid : point < 0x110000) (h : isHalf point = false) :
    (Char.ofNat point).toNat = point := by
  have hpoint : point.isValidChar := by
    unfold isHalf at h
    rw [Bool.and_eq_false_iff, decide_eq_false_iff_not, decide_eq_false_iff_not] at h
    rcases h with h | h
    · exact .inl (by omega)
    · exact .inr ⟨by omega, hvalid⟩
  rw [Char.ofNat, dif_pos hpoint]
  rfl

theorem isHalf_eq (point : Nat) : isHalf point = (isHigh point || isLow point) := by
  unfold isHalf isHigh isLow
  by_cases h : 0xD800 ≤ point <;> by_cases h' : point < 0xE000 <;>
    by_cases h'' : point < 0xDC00 <;> simp [h, h', h''] <;> omega

namespace Text

/-! ## Proper texts -/

/-- A text **of code points that a text can have**. -/
def Proper (t : Text) : Prop := ∃ points, Points points ∧ t = ofPoints points

theorem map_toNat_ofNat {points : List Nat} (h : ∀ point ∈ points, point < 0x110000)
    (hhalf : points.any isHalf = false) :
    (points.map Char.ofNat).map Char.toNat = points := by
  rw [List.map_map]
  refine (List.map_congr_left fun point hpoint => ?_).trans (List.map_id points)
  exact toNat_ofNat (h point hpoint) (Bool.eq_false_iff.2 (List.any_eq_false.1 hhalf point hpoint))

theorem points_ofPoints {points : List Nat} (h : Points points) :
    (ofPoints points).points = points := by
  unfold ofPoints
  split
  · rfl
  · next hhalf =>
    rw [Text.points, String.toList_ofList]
    exact map_toNat_ofNat h.valid (Bool.eq_false_iff.2 hhalf)

theorem Proper.points {t : Text} (h : t.Proper) : Points t.points := by
  obtain ⟨points, hpoints, rfl⟩ := h
  rwa [points_ofPoints hpoints]

/-- A proper text is **given by its code points**. -/
theorem Proper.ofPoints_points {t : Text} (h : t.Proper) : ofPoints t.points = t := by
  obtain ⟨points, hpoints, rfl⟩ := h
  rw [points_ofPoints hpoints]

theorem Proper.eq_of_points {s t : Text} (hs : s.Proper) (ht : t.Proper)
    (h : s.points = t.points) : s = t := by
  rw [← hs.ofPoints_points, h, ht.ofPoints_points]

theorem proper_plain (s : String) : (Text.plain s).Proper := by
  have hhalf : ∀ point ∈ s.toList.map Char.toNat, isHalf point = false := by
    intro point hpoint
    obtain ⟨c, -, rfl⟩ := List.mem_map.1 hpoint
    exact isHalf_toNat c
  refine ⟨s.toList.map Char.toNat, ⟨fun point hpoint => ?_, ?_⟩, ?_⟩
  · obtain ⟨c, -, rfl⟩ := List.mem_map.1 hpoint
    exact toNat_lt c
  · refine List.Pairwise.isChain (List.pairwise_of_forall_mem_list fun m hm n _ hpair => ?_)
    have hno := hhalf m hm
    rw [isHalf_eq, hpair.1] at hno
    cases hno
  · unfold ofPoints
    rw [if_neg]
    · rw [List.map_map]
      have hid : s.toList.map (Char.ofNat ∘ Char.toNat) = s.toList :=
        (List.map_congr_left fun c _ => Char.ofNat_toNat c).trans (List.map_id _)
      rw [hid, String.ofList_toList]
    · rw [List.any_eq_true]
      rintro ⟨point, hpoint, h⟩
      rw [hhalf point hpoint] at h
      cases h

/-! ## The order of texts -/

theorem pointsPrecede_trans {ks ms ns : List Nat} (h : pointsPrecede ks ms = true)
    (h' : pointsPrecede ms ns = true) : pointsPrecede ks ns = true := by
  induction ks generalizing ms ns with
  | nil => rfl
  | cons k ks ih =>
    cases ms with
    | nil => cases h
    | cons m ms =>
      cases ns with
      | nil => cases h'
      | cons n ns =>
        simp only [pointsPrecede, Bool.or_eq_true, decide_eq_true_eq, Bool.and_eq_true,
          beq_iff_eq] at h h' ⊢
        rcases h with h | ⟨rfl, h⟩ <;> rcases h' with h' | ⟨rfl, h'⟩
        · exact .inl (h.trans h')
        · exact .inl h
        · exact .inl h'
        · exact .inr ⟨rfl, ih h h'⟩

theorem pointsPrecede_total (ms ns : List Nat) :
    pointsPrecede ms ns = true ∨ pointsPrecede ns ms = true := by
  induction ms generalizing ns with
  | nil => exact .inl rfl
  | cons m ms ih =>
    cases ns with
    | nil => exact .inr rfl
    | cons n ns =>
      simp only [pointsPrecede, Bool.or_eq_true, decide_eq_true_eq, Bool.and_eq_true, beq_iff_eq]
      rcases Nat.lt_trichotomy m n with h | rfl | h
      · exact .inl (.inl h)
      · exact (ih ns).imp (fun h => .inr ⟨rfl, h⟩) fun h => .inr ⟨rfl, h⟩
      · exact .inr (.inl h)

theorem pointsPrecede_antisymm {ms ns : List Nat} (h : pointsPrecede ms ns = true)
    (h' : pointsPrecede ns ms = true) : ms = ns := by
  induction ms generalizing ns with
  | nil =>
    cases ns with
    | nil => rfl
    | cons => cases h'
  | cons m ms ih =>
    cases ns with
    | nil => cases h
    | cons n ns =>
      simp only [pointsPrecede, Bool.or_eq_true, decide_eq_true_eq, Bool.and_eq_true,
        beq_iff_eq] at h h'
      obtain rfl : m = n := by omega
      rw [ih (by simpa using h) (by simpa using h')]

theorem pointsPrecede_map_toNat {s t : List Char} :
    pointsPrecede (s.map Char.toNat) (t.map Char.toNat) = true ↔
      ¬ List.Lex (fun c d => c < d) t s := by
  induction s generalizing t with
  | nil => exact iff_of_true rfl nofun
  | cons c s ih =>
    cases t with
    | nil => exact iff_of_false nofun (fun h => h .nil)
    | cons d t =>
      have hlt : d < c ↔ d.toNat < c.toNat := Iff.rfl
      have heq : d = c ↔ d.toNat = c.toNat := Char.toNat_inj.symm
      simp only [List.map_cons, pointsPrecede, Bool.or_eq_true, decide_eq_true_eq,
        Bool.and_eq_true, beq_iff_eq, ih, List.cons_lex_cons_iff, not_or, not_and, hlt, heq]
      generalize c.toNat = m
      generalize d.toNat = n
      constructor
      · rintro (h | ⟨rfl, h⟩)
        · exact ⟨by omega, fun h' => by omega⟩
        · exact ⟨by omega, fun _ => h⟩
      · rintro ⟨hle, h⟩
        rcases Nat.lt_or_ge m n with hmn | hmn
        · exact .inl hmn
        · exact .inr ⟨by omega, h (by omega)⟩

/-- The order of texts is **that of their code points**. -/
theorem precedes_eq (s t : Text) : s.precedes t = pointsPrecede s.points t.points := by
  rw [Bool.eq_iff_iff]
  unfold precedes
  split
  · rw [decide_eq_true_iff]
    exact pointsPrecede_map_toNat.symm
  · exact Iff.rfl

theorem precedes_trans {s t u : Text} (h : s.precedes t = true) (h' : t.precedes u = true) :
    s.precedes u = true := by
  rw [precedes_eq] at h h' ⊢
  exact pointsPrecede_trans h h'

theorem precedes_total (s t : Text) : (s.precedes t || t.precedes s) = true := by
  rw [Bool.or_eq_true, precedes_eq, precedes_eq]
  exact pointsPrecede_total _ _

theorem precedes_antisymm {s t : Text} (hs : s.Proper) (ht : t.Proper) (h : s.precedes t = true)
    (h' : t.precedes s = true) : s = t := by
  rw [precedes_eq] at h h'
  exact hs.eq_of_points ht (pointsPrecede_antisymm h h')

end Text

end Drift.Json
