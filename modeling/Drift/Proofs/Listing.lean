import Drift.Draft
import Drift.Proofs.Json.Grammar
import Drift.Proofs.Json.Lines
import Drift.Proofs.Report

/-!
# Regions as JSON

* `Region.Printable` — the coordinates of a region have no more digits than are printed;
  `Draft.listing_ofRegion` — regions are listed when all of them are such.
* `Report.shown_listing`, `Report.parse_listing` — a listing of such regions is shown as it is, and
  it is read as their records.
* **`Report.listing_loses_nothing`** — it is valid JSON and holds every part of every region, so
  that different regions have different listings.
-/

namespace Drift

/-! ## Records -/

namespace Region

variable {r s : Region}

/-- None of the coordinates has **more digits than are printed**. -/
def Printable (r : Region) : Prop :=
  ∀ n ∈ [r.start.row, r.start.column, r.stop.row, r.stop.column],
    (toString n).length ≤ Json.digitLimit

theorem printable_iff : r.Printable ↔
    ∀ n ∈ [r.start.row, r.start.column, r.stop.row, r.stop.column], n < 10 ^ Json.digitLimit := by
  unfold Printable
  simp only [Nat.toString_eq_ofList_toDigits, String.length_ofList,
    Nat.length_toDigits_le_iff (b := 10) (k := Json.digitLimit) (by decide) (by decide)]

theorem readable_positionRecord {p : Position} (hrow : p.row < 10 ^ Json.digitLimit)
    (hcolumn : p.column < 10 ^ Json.digitLimit) : Json.Readable (positionRecord p) := by
  have hnumber {n : Nat} (hn : n < 10 ^ Json.digitLimit) : Json.Readable (.int n) :=
    .int (by rwa [Int.natAbs_natCast])
  refine .ofPlain [("row", _), ("column", _)] (by simp) ?_
  simpa using ⟨hnumber hrow, hnumber hcolumn⟩

theorem readable_record (h : r.Printable) : Json.Readable r.record := by
  have hlimit := printable_iff.1 h
  have htext (s : String) : Json.Readable (.text s) := .text (Json.Text.proper_plain s)
  have hstart : Json.Readable (positionRecord r.start) :=
    readable_positionRecord (hlimit _ (by simp)) (hlimit _ (by simp))
  have hstop : Json.Readable (positionRecord r.stop) :=
    readable_positionRecord (hlimit _ (by simp)) (hlimit _ (by simp))
  exact .ofPlain [("path", _), ("annotation", _), ("content", _), ("start", _), ("end", _)]
    (by simp) (by simpa using ⟨htext _, htext _, htext _, hstart, hstop⟩)

theorem allFinite_record (r : Region) : Json.AllFinite r.record := by
  have hposition (p : Position) : Json.AllFinite (positionRecord p) :=
    .object (by simpa using ⟨.int _, .int _⟩)
  exact .object (by simpa using ⟨.text _, .text _, .text _, hposition _, hposition _⟩)

theorem record_injective (h : r.record = s.record) : r = s := by
  obtain ⟨path, comment, content, ⟨row, column⟩, ⟨row', column'⟩⟩ := r
  obtain ⟨path₂, comment₂, content₂, ⟨row₂, column₂⟩, ⟨row₂', column₂'⟩⟩ := s
  simpa [record, positionRecord] using h

end Region

namespace Draft

variable {regions : List Region}

@[simp] theorem ofLiteral?_record (r : Region) :
    Json.ofLiteral? (ofRegion r).record = some r.record := rfl

theorem ofItems?_map_record (regions : List Region) :
    Json.ofItems? ((regions.map ofRegion).map record) = some (regions.map Region.record) := by
  induction regions with
  | nil => rfl
  | cons r regions ih =>
    simp only [List.map_cons, Json.ofItems?, ofLiteral?_record, ih]
    rfl

theorem digitBound_eq : digitBound = 10 ^ Json.digitLimit := by
  unfold digitBound
  generalize Json.digitLimit = limit
  exact Nat.pow_eq

theorem isPrintable_record_iff {r : Region} : isPrintable r.record = true ↔ r.Printable := by
  rw [Region.printable_iff, ← digitBound_eq]
  simp [Region.record, Region.positionRecord, isPrintable, membersPrintable, and_assoc]

theorem itemsPrintable_iff :
    itemsPrintable (regions.map Region.record) = true ↔ ∀ r ∈ regions, r.Printable := by
  induction regions with
  | nil => simp [itemsPrintable]
  | cons r regions ih =>
    rw [List.map_cons, itemsPrintable, Bool.and_eq_true, isPrintable_record_iff, ih,
      List.forall_mem_cons]

/-- Regions are **listed as the drafts** that they are. -/
theorem listing_ofRegion (h : ∀ r ∈ regions, r.Printable) :
    listing (regions.map ofRegion) = .ok (Report.listing regions) := by
  rw [listing, ofItems?_map_record]
  simp only [itemsPrintable_iff.2 h, if_true]
  rfl

end Draft

/-! ## Listings -/

namespace Report

variable {regions : List Region}

theorem readable_listing (h : ∀ r ∈ regions, r.Printable) :
    Json.Readable (.list (regions.map Region.record)) := by
  refine .list fun v hv => ?_
  obtain ⟨r, hr, rfl⟩ := List.mem_map.1 hv
  exact Region.readable_record (h r hr)

/-- A listing of regions that can be printed is shown **as it is**. -/
theorem shown_listing (h : ∀ r ∈ regions, r.Printable) :
    Terminal.report (listing regions) = listing regions := by
  refine Terminal.report_eq_self fun hmem => ?_
  rw [listing, Json.render, String.toList_ofList] at hmem
  have hprinted : Json.Printed (Json.characters listingStyle (.list (regions.map Region.record))) :=
    Json.printed_characters (readable_listing h)
  exact absurd (hprinted _ hmem) (by decide)

/-- It is **read as the records** of the regions, whatever blanks stand behind it. -/
theorem parse_listing (h : ∀ r ∈ regions, r.Printable) {blanks : List Char}
    (hblanks : ∀ c ∈ blanks, Json.isBlank c = true) :
    Json.parse ((listing regions).toList ++ blanks)
      = .ok (.list (regions.map Region.record)) := by
  have hread : Json.Readable (if listingStyle.sortKeys then
      Json.sorted (.list (regions.map Region.record)) else .list (regions.map Region.record)) :=
    readable_listing h
  rw [listing, Json.render, String.toList_ofList]
  exact Json.parse_characters hread hblanks

/-- It is **valid JSON**, even if it has more digits than are read. -/
theorem valid_listing (regions : List Region) : Json.Valid (listing regions).toList := by
  have hfinite : Json.AllFinite (if listingStyle.sortKeys then
      Json.sorted (.list (regions.map Region.record)) else .list (regions.map Region.record)) := by
    refine .list fun v hv => ?_
    obtain ⟨r, -, rfl⟩ := List.mem_map.1 hv
    exact Region.allFinite_record r
  rw [listing, Json.render, String.toList_ofList]
  exact Json.valid_characters hfinite

/-- Regions that can be printed **are listed without a loss**: a listing is made of them, it is valid
JSON, it is read as a list of objects with all parts of the regions and nothing else, and
so no other regions have the same listing. -/
theorem listing_loses_nothing (h : ∀ r ∈ regions, r.Printable) :
    Draft.listing (regions.map Draft.ofRegion) = .ok (listing regions) ∧
    Json.Valid (listing regions).toList ∧
    Json.parse (listing regions).toList = .ok (.list (regions.map fun r => .object
      [("path", .text r.path), ("annotation", .text r.comment), ("content", .text r.content),
       ("start", .object [("row", .int r.start.row), ("column", .int r.start.column)]),
       ("end", .object [("row", .int r.stop.row), ("column", .int r.stop.column)])])) ∧
    ∀ others : List Region, (∀ r ∈ others, r.Printable) → listing others = listing regions →
      others = regions := by
  have hread {regions : List Region} (h : ∀ r ∈ regions, r.Printable) :
      Json.parse (listing regions).toList = .ok (.list (regions.map Region.record)) := by
    have hparse : Json.parse ((listing regions).toList ++ []) = _ := parse_listing h nofun
    rwa [List.append_nil] at hparse
  refine ⟨Draft.listing_ofRegion h, valid_listing regions, hread h, ?_⟩
  intro others hothers heq
  have hrecords := hread hothers
  rw [heq, hread h] at hrecords
  injection hrecords with hrecords
  injection hrecords with hrecords
  exact List.map_injective_iff.2 (fun _ _ => Region.record_injective) hrecords.symm

/-- A region whose texts look like escapes and like JSON, and whose coordinates have up to the most
digits that are printed. -/
def intricate : Region where
  path := "a\"b\\n.js"
  comment := "/* control T-1\n\",\"row\": 2\x7d */"
  content := "\\u0041\x00\x1f\t\r\x7f\\\"[\x7b\"é😀"
  start := ⟨2 ^ 64, 0⟩
  stop := ⟨10 ^ 4300 - 1, 7⟩

/-- A listing of it loses nothing. -/
theorem listing_loses_nothing_intricate :
    (∀ r ∈ [intricate, intricate], r.Printable) ∧
    Json.parse (listing [intricate, intricate]).toList
      = .ok (.list [intricate.record, intricate.record]) ∧
    listing [intricate] ≠ listing [intricate, intricate] := by
  have hone : intricate.Printable := Region.printable_iff.2 (by decide +kernel)
  have htwo : ∀ r ∈ [intricate, intricate], r.Printable := by simpa using hone
  obtain ⟨-, -, hparse, hdiffer⟩ := listing_loses_nothing htwo
  refine ⟨htwo, hparse, fun heq => ?_⟩
  exact absurd (congrArg List.length (hdiffer _ (List.forall_mem_singleton.2 hone) heq)) (by decide)

end Report

end Drift
