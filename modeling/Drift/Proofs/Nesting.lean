import Drift.Proofs.Pairing
import Mathlib.Data.Prod.Lex

/-!
# The order of regions

* `Span.Before`, `Span.Within` — how two spans lie, by bytes as well as by rows and columns.
* `Tree.Orderly` — the nodes of a tree lie as those of a parsed text do.
* `Tree.Orderly.targets` — of two comments, the target of the second one begins behind the target
  of the first one or lies within it.
* **`Extraction.regions_in_document_order`** — the regions of a source come in the order of the
  text, and any two are disjoint or nested.
-/

namespace Drift

/-! ## Spans -/

/-- The place of a position in the order of a text: **rows first**. -/
def Position.key (p : Position) : Int ×ₗ Int := toLex (↑p.row, ↑p.column)

namespace Span

/-- Both ends of a span, each by its byte and by its row and column. -/
def ends (s : Span Int) : List (Int × (Int ×ₗ Int)) :=
  [(s.startByte, toLex s.startPoint), (s.stopByte, toLex s.stopPoint)]

/-- A span ends **before** another one begins. -/
structure Before (a b : Span Int) : Prop where
  bytes : a.stopByte ≤ b.startByte
  points : toLex a.stopPoint ≤ toLex b.startPoint

/-- A span lies **within** another one. -/
structure Within (b a : Span Int) : Prop where
  startByte : a.startByte ≤ b.startByte
  stopByte : b.stopByte ≤ a.stopByte
  startPoint : toLex a.startPoint ≤ toLex b.startPoint
  stopPoint : toLex b.stopPoint ≤ toLex a.stopPoint

theorem start_mem_ends (s : Span Int) : (s.startByte, toLex s.startPoint) ∈ s.ends :=
  List.mem_cons_self

theorem stop_mem_ends (s : Span Int) : (s.stopByte, toLex s.stopPoint) ∈ s.ends :=
  List.mem_cons_of_mem _ List.mem_cons_self

theorem Covers.key {s : Span Int} {start stop : Position} (h : s.Covers start stop) :
    start.key = toLex s.startPoint ∧ stop.key = toLex s.stopPoint :=
  ⟨congrArg toLex h.1.symm, congrArg toLex h.2.symm⟩

end Span

/-! ## Trees of a text -/

/-- The nodes of a tree **lie as those of a parsed text do**: none ends before it begins, siblings
come one behind the other, children lie within their parent, comments are named leaves, nodes
without a name are leaves, and the points are ordered as the bytes are. Of the root itself nothing
is asked. -/
structure Tree.Orderly (kinds : List String) (t : Tree Int) : Prop where
  forward : ∀ l, (Location.root t).Below l → l.tree.span.startByte ≤ l.tree.span.stopByte
  apart : ∀ l, (Location.root t).Below l →
    ∀ s ∈ l.following, l.tree.span.stopByte ≤ s.span.startByte
  inside : ∀ l, (Location.root t).Below l → ∀ c ∈ l.tree.children,
    l.tree.span.startByte ≤ c.span.startByte ∧ c.span.stopByte ≤ l.tree.span.stopByte
  comments : ∀ l, (Location.root t).Below l → l.tree.kind ∈ kinds →
    l.tree.named = true ∧ l.tree.children = []
  unnamed : ∀ l, (Location.root t).Below l → l.tree.named = false → l.tree.children = []
  points : ∀ l, (Location.root t).Below l → ∀ m, (Location.root t).Below m →
    ∀ x ∈ l.tree.span.ends, ∀ y ∈ m.tree.span.ends, x.1 ≤ y.1 → x.2 ≤ y.2

instance (kinds : List String) (t : Tree Int) : Decidable (t.Orderly kinds) :=
  decidable_of_iff (∀ l ∈ (Location.root t).descendants,
      l.tree.span.startByte ≤ l.tree.span.stopByte ∧
      (∀ s ∈ l.following, l.tree.span.stopByte ≤ s.span.startByte) ∧
      (∀ c ∈ l.tree.children, l.tree.span.startByte ≤ c.span.startByte ∧
        c.span.stopByte ≤ l.tree.span.stopByte) ∧
      (l.tree.kind ∈ kinds → l.tree.named = true ∧ l.tree.children = []) ∧
      (l.tree.named = false → l.tree.children = []) ∧
      ∀ m ∈ (Location.root t).descendants,
        ∀ x ∈ l.tree.span.ends, ∀ y ∈ m.tree.span.ends, x.1 ≤ y.1 → x.2 ≤ y.2) <| by
    simp only [Location.mem_descendants]
    exact ⟨fun h => ⟨fun l hl => (h l hl).1, fun l hl => (h l hl).2.1, fun l hl => (h l hl).2.2.1,
        fun l hl => (h l hl).2.2.2.1, fun l hl => (h l hl).2.2.2.2.1,
        fun l hl => (h l hl).2.2.2.2.2⟩,
      fun h l hl => ⟨h.forward l hl, h.apart l hl, h.inside l hl, h.comments l hl, h.unnamed l hl,
        h.points l hl⟩⟩

theorem Location.not_below_of_leaf {l m : Location Int} (h : l.tree.children = []) :
    ¬ Below l m := by
  intro hm
  obtain ⟨c, ⟨⟨before, hbefore⟩, -⟩, -⟩ := below_iff.1 hm
  rw [h] at hbefore
  simp at hbefore

namespace Tree.Orderly

open Location

variable {kinds : List String} {t : Tree Int} {a b : Location Int}

/-! ### Two nodes -/

theorem before (h : t.Orderly kinds) (ha : (root t).Below a) (hb : (root t).Below b)
    (hbytes : a.tree.span.stopByte ≤ b.tree.span.startByte) :
    a.tree.span.Before b.tree.span where
  bytes := hbytes
  points := h.points a ha b hb _ (Span.stop_mem_ends _) _ (Span.start_mem_ends _) hbytes

theorem within (h : t.Orderly kinds) (ha : (root t).Below a) (hb : (root t).Below b)
    (hstart : a.tree.span.startByte ≤ b.tree.span.startByte)
    (hstop : b.tree.span.stopByte ≤ a.tree.span.stopByte) : b.tree.span.Within a.tree.span where
  startByte := hstart
  stopByte := hstop
  startPoint := h.points a ha b hb _ (Span.start_mem_ends _) _ (Span.start_mem_ends _) hstart
  stopPoint := h.points b hb a ha _ (Span.stop_mem_ends _) _ (Span.stop_mem_ends _) hstop

theorem start_le_stop (h : t.Orderly kinds) (ha : (root t).Below a) :
    toLex a.tree.span.startPoint ≤ toLex a.tree.span.stopPoint :=
  h.points a ha a ha _ (Span.start_mem_ends _) _ (Span.stop_mem_ends _) (h.forward a ha)

theorem stop_le_of_follows (h : t.Orderly kinds) (ha : (root t).Below a) (hab : Follows a b) :
    a.tree.span.stopByte ≤ b.tree.span.startByte := by
  obtain ⟨⟨between, hbetween⟩, -⟩ := hab
  refine h.apart a ha b.tree ?_
  rw [hbetween]
  exact List.mem_append_right _ List.mem_cons_self

theorem between_of_below (h : t.Orderly kinds) (ha : (root t).Below a) (hab : Below a b) :
    a.tree.span.startByte ≤ b.tree.span.startByte ∧
      b.tree.span.stopByte ≤ a.tree.span.stopByte := by
  have hchild {p c : Location Int} (hp : (root t).Below p) (hc : Child p c) :
      p.tree.span.startByte ≤ c.tree.span.startByte ∧
        c.tree.span.stopByte ≤ p.tree.span.stopByte := by
    obtain ⟨⟨between, hbetween⟩, -⟩ := hc
    refine h.inside p hp c.tree ?_
    rw [hbetween]
    exact List.mem_append_right _ List.mem_cons_self
  induction hab with
  | child hc => exact hchild ha hc
  | step hp hc ih =>
    obtain ⟨hstart, hstop⟩ := hchild (ha.trans hp) hc
    exact ⟨ih.1.trans hstart, hstop.trans ih.2⟩

/-! ### Two targets -/

variable {c t₁ d t₂ : Location Int}

theorem start_le_target (h : t.Orderly kinds) (hb : (root t).Below b) (hd : d = b ∨ Below b d)
    (hnext : d.FirstNamed t₂) : b.tree.span.startByte ≤ t₂.tree.span.startByte := by
  rcases hd with rfl | hd
  · exact (h.forward d hb).trans (h.stop_le_of_follows hb hnext.follows)
  · exact (h.between_of_below hb (hnext.below hd)).1

/-- Of two comments, the target of the one that comes later begins **behind the target of the
other, or lies within it**. -/
theorem targets (h : t.Orderly kinds) (hc : (root t).Below c) (hckind : c.tree.kind ∈ kinds)
    (hcnext : c.FirstNamed t₁) (hd : (root t).Below d) (hdkind : d.tree.kind ∈ kinds)
    (hdnext : d.FirstNamed t₂) (hcd : Precedes c d) :
    t₁.tree.span.Before t₂.tree.span ∨ t₂.tree.span.Within t₁.tree.span := by
  have ht₁ := hcnext.below hc
  have ht₂ := hdnext.below hd
  rcases hcd with hbelow | @⟨a, b, hab, hca, hdb⟩
  · exact absurd hbelow (not_below_of_leaf (h.comments c hc hckind).2)
  have ha : (root t).Below a := below_of_follows hab hc hca
  have hb : (root t).Below b := hab.below ha
  have hstart : b.tree.span.startByte ≤ t₂.tree.span.startByte := h.start_le_target hb hdb hdnext
  rcases hca with rfl | hca
  · -- The first comment is one of the two siblings: its target is passed on the way, or reached.
    rcases hcnext.follows.comparable hab with rfl | htb | hbt
    · rcases hdb with rfl | hdb
      · exact .inl (h.before ht₁ ht₂ (h.stop_le_of_follows ht₁ hdnext.follows))
      · obtain ⟨hfirst, hlast⟩ := h.between_of_below ht₁ (hdnext.below hdb)
        exact .inr (h.within ht₁ ht₂ hfirst hlast)
    · exact .inl (h.before ht₁ ht₂ ((h.stop_le_of_follows ht₁ htb).trans hstart))
    · have hunnamed : b.tree.named = false := hcnext.unnamed_between hab hbt
      rcases hdb with rfl | hdb
      · have hnamed := (h.comments d hd hdkind).1
        rw [hunnamed] at hnamed
        cases hnamed
      · exact absurd hdb (not_below_of_leaf (h.unnamed b hb hunnamed))
  · obtain ⟨-, hlast⟩ := h.between_of_below ha (hcnext.below hca)
    exact .inl (h.before ht₁ ht₂ ((hlast.trans (h.stop_le_of_follows ha hab)).trans hstart))

end Tree.Orderly

/-! ## Regions -/

theorem pairwise_of_forall₂ {α β : Type} {P : α → β → Prop} {R : α → α → Prop} {S : β → β → Prop}
    {as : List α} {bs : List β} (hP : List.Forall₂ P as bs)
    (h : ∀ a b a' b', P a b → P a' b' → R a a' → S b b') (has : as.Pairwise R) :
    bs.Pairwise S := by
  obtain ⟨hlength, hget⟩ := List.forall₂_iff_get.1 hP
  rw [List.pairwise_iff_getElem] at has ⊢
  intro i j hi hj hij
  have hi' : i < as.length := hlength ▸ hi
  have hj' : j < as.length := hlength ▸ hj
  exact h _ _ _ _ (hget i hi' hi) (hget j hj' hj) (has i j hi' hj' hij)

namespace Extraction

variable {kinds : List String} {bytes : Bytes}

/-- **Regions come in the order of the text**, and any two of them are disjoint or nested: where a
tree lies as that of a parsed text does, no region begins before the one in front of it in the list,
and it begins behind that one's end or ends no later; each target begins behind its comment. -/
theorem regions_in_document_order {s : Source} {parse : Parse Int} {t : Tree Int}
    {regions : List Region} (hbytes : s.bytes = .ok bytes) (hparse : parse bytes = some t)
    (h : t.Orderly kinds) (hregions : (extract kinds parse s).result = .ok regions) :
    regions.Pairwise (fun r r' => r.start.key ≤ r'.start.key ∧
        (r.stop.key ≤ r'.start.key ∨ r'.stop.key ≤ r.stop.key)) ∧
      ∃ pairs, Traced kinds s.path bytes t pairs regions ∧
        (∀ p ∈ pairs, p.1.tree.span.Before p.2.tree.span) ∧
        pairs.Pairwise fun p q => p.2.tree.span.Before q.2.tree.span ∨
          q.2.tree.span.Within p.2.tree.span := by
  obtain ⟨pairs, htraced⟩ := exists_traced hbytes hparse hregions
  have hordered : pairs.Pairwise fun p q => Location.Precedes p.1 q.1 :=
    List.pairwise_map.1 ((Location.root t).pairwise_descendants.sublist htraced.inOrder)
  have htargets : pairs.Pairwise fun p q => p.2.tree.span.Before q.2.tree.span ∨
      q.2.tree.span.Within p.2.tree.span := by
    refine hordered.imp_of_mem fun {p q} hp hq hpq => ?_
    obtain ⟨hbelow, hkind, hnext⟩ := htraced.pair hp
    obtain ⟨hbelow', hkind', hnext'⟩ := htraced.pair hq
    exact h.targets hbelow hkind hnext hbelow' hkind' hnext' hpq
  have hpoints : pairs.Pairwise fun p q =>
      toLex p.2.tree.span.startPoint ≤ toLex q.2.tree.span.startPoint ∧
        (toLex p.2.tree.span.stopPoint ≤ toLex q.2.tree.span.startPoint ∨
          toLex q.2.tree.span.stopPoint ≤ toLex p.2.tree.span.stopPoint) := by
    refine htargets.imp_of_mem fun {p q} hp _ hpq => ?_
    obtain ⟨hbelow, -, hnext⟩ := htraced.pair hp
    rcases hpq with hbefore | hwithin
    · exact ⟨(h.start_le_stop (hnext.below hbelow)).trans hbefore.points, .inl hbefore.points⟩
    · exact ⟨hwithin.startPoint, .inr hwithin.stopPoint⟩
  refine ⟨?_, pairs, htraced, fun p hp => ?_, htargets⟩
  · refine pairwise_of_forall₂ htraced.marks (fun p r q r' hr hr' hpq => ?_) hpoints
    rw [hr.covers.key.1, hr.covers.key.2, hr'.covers.key.1, hr'.covers.key.2]
    exact hpq
  · obtain ⟨hbelow, -, hnext⟩ := htraced.pair hp
    exact h.before hbelow (hnext.below hbelow) (h.stop_le_of_follows hbelow hnext.follows)

/-- The name lies within the call: neither begins before the other's start, nor ends behind it. -/
theorem regions_in_document_order_nested :
    nestedTree.Orderly ["comment"] ∧
      nestedRegions.Pairwise (fun r r' => r.start.key ≤ r'.start.key ∧
        (r.stop.key ≤ r'.start.key ∨ r'.stop.key ≤ r.stop.key)) := by
  have horderly : nestedTree.Orderly ["comment"] := by decide +kernel
  exact ⟨horderly,
    (regions_in_document_order bytes_nestedText rfl horderly result_nestedText).1⟩

end Extraction

end Drift
