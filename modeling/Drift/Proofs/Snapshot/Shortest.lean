import Drift.Proofs.MessagePack.Shortest
import Drift.Proofs.Snapshot.Encoding
import Drift.Proofs.Snapshot.Truncation

/-!
# Payloads that are written are the shortest ones

* `brief_encodePosition`, `brief_encodeRegion`, `brief_encode` — the parts of a log, and a log, in any
  form are written, and in no more bytes.
* **`encode_shortest`** — regions that a payload gives are written, the payload that is written gives
  them too, and no payload that gives them is shorter.
-/

namespace Drift

open MessagePack

namespace Snapshot

variable {f g : Bytes}

theorem brief_nat_of_spells {n : Nat} (h : Spells (.int n) g) : Brief (nat n) g := by
  cases h.leaf nofun nofun with
  | scalar hscalar => exact brief_nat hscalar

theorem brief_encodePosition {p : Position} (h : Spells p.value g) : Brief (encodePosition p) g := by
  obtain ⟨head, body, hhead, hbody, rfl⟩ := h.array_inv
  obtain ⟨row, _, hrow, hrest, rfl⟩ := hbody.cons_inv
  obtain ⟨column, _, hcolumn, -, rfl⟩ := hrest.cons_inv
  obtain ⟨head', hhead', hhead⟩ := brief_arrayHead hhead
  obtain ⟨row', hrow', hrow⟩ := brief_nat_of_spells hrow
  obtain ⟨column', hcolumn', hcolumn⟩ := brief_nat_of_spells hcolumn
  refine ⟨head' ++ row' ++ column', ?_, ?_⟩
  · rw [encodePosition, show arrayHead 2 = .ok head' from hhead', hrow', hcolumn']
    rfl
  · simp only [List.length_append]
    omega

theorem brief_encodeRegion {r : Region} (h : Spells r.value g) : Brief (encodeRegion r) g := by
  obtain ⟨head, body, hhead, hbody, rfl⟩ := h.array_inv
  obtain ⟨path, _, hpath, h₁, rfl⟩ := hbody.cons_inv
  obtain ⟨comment, _, hcomment, h₂, rfl⟩ := h₁.cons_inv
  obtain ⟨content, _, hcontent, h₃, rfl⟩ := h₂.cons_inv
  obtain ⟨start, _, hstart, h₄, rfl⟩ := h₃.cons_inv
  obtain ⟨stop, _, hstop, -, rfl⟩ := h₄.cons_inv
  obtain ⟨head', hhead', hhead⟩ := brief_arrayHead hhead
  obtain ⟨path', hpath', hpath⟩ := brief_text hpath
  obtain ⟨comment', hcomment', hcomment⟩ := brief_text hcomment
  obtain ⟨content', hcontent', hcontent⟩ := brief_text hcontent
  obtain ⟨start', hstart', hstart⟩ := brief_encodePosition hstart
  obtain ⟨stop', hstop', hstop⟩ := brief_encodePosition hstop
  refine ⟨head' ++ path' ++ comment' ++ content' ++ start' ++ stop', ?_, ?_⟩
  · rw [encodeRegion, show arrayHead 5 = .ok head' from hhead', hpath', hcomment', hcontent',
      hstart', hstop']
    rfl
  · simp only [List.length_append]
    omega

theorem brief_encodeOnto {regions : List Region} (h : Row Spells (regions.map Region.value) g)
    (done : List Bytes) :
    ∃ body, encodeOnto done regions = .ok (done.reverse.flatten ++ body) ∧
      body.length ≤ g.length := by
  induction regions generalizing done g with
  | nil => exact ⟨[], by rw [encodeOnto, List.append_nil], Nat.zero_le _⟩
  | cons r regions ih =>
    obtain ⟨part, rest, hpart, hrest, rfl⟩ := h.cons_inv
    obtain ⟨part', hpart', hle⟩ := brief_encodeRegion hpart
    obtain ⟨body, hbody, hle'⟩ := ih hrest (part' :: done)
    refine ⟨part' ++ body, ?_, ?_⟩
    · simp only [encodeOnto, hpart', hbody, List.reverse_cons, List.flatten_append,
        List.flatten_singleton, List.append_assoc]
    · rw [List.length_append, List.length_append]
      omega

/-- A log **in any form** is written, and in no more bytes. Whichever value its version is, it takes no
less than the one byte of the number one. -/
theorem brief_encode {version : Value} {regions : List Region}
    (h : Spells (log version regions) g) : Brief (encode regions) g := by
  obtain ⟨head, body, hhead, hbody, rfl⟩ := h.array_inv
  obtain ⟨name, _, hname, h₁, rfl⟩ := hbody.cons_inv
  obtain ⟨number, _, ⟨_, hnumber⟩, h₂, rfl⟩ := h₁.cons_inv
  obtain ⟨list, _, hlist, -, rfl⟩ := h₂.cons_inv
  obtain ⟨count, items, hcount, hitems, rfl⟩ := hlist.array_inv
  rw [List.length_map] at hcount
  obtain ⟨head', hhead', hhead⟩ := brief_arrayHead hhead
  obtain ⟨name', hname', hname⟩ := brief_text hname
  obtain ⟨count', hcount', hcount⟩ := brief_arrayHead hcount
  obtain ⟨body, hbody, hitems⟩ := brief_encodeOnto hitems []
  have hversion : nat Snapshot.version = .ok [1] := rfl
  refine ⟨head' ++ name' ++ [1] ++ count' ++ ([].reverse.flatten ++ body), ?_, ?_⟩
  · rw [encode, show arrayHead 3 = .ok head' from hhead', hname', hversion, hcount', hbody]
    rfl
  · have hnumber := hnumber.length_pos
    simp only [List.length_append, List.reverse_nil, List.flatten_nil, List.length_nil,
      List.length_singleton]
    omega

/-- Regions that a payload gives are written, however they are spelled in it, and the payload that
is written gives the same regions. It is **the shortest** that does: none that gives these regions is
shorter. -/
theorem encode_shortest {d : Bytes} {regions : List Region} (h : decode d = .ok regions) :
    ∃ payload, encode regions = .ok payload ∧ decode payload = .ok regions ∧
      payload.length ≤ d.length ∧
      ∀ d', decode d' = .ok regions → payload.length ≤ d'.length := by
  obtain ⟨version, -, hspells⟩ := decode_eq_ok_iff.1 h
  obtain ⟨payload, hpayload, hle⟩ := brief_encode hspells
  refine ⟨payload, hpayload, decode_of_encode hpayload, hle, fun d' h' => ?_⟩
  obtain ⟨version', -, hspells'⟩ := decode_eq_ok_iff.1 h'
  obtain ⟨payload', hpayload', hle'⟩ := brief_encode hspells'
  cases hpayload.symm.trans hpayload'
  exact hle'

/-- A payload with wide heads and a float for its version is 53 bytes long. Written anew it has 30,
and no payload with the same region has less. -/
theorem encode_shortest_widePayload :
    widePayload.length = 53 ∧ ∃ payload,
      encode [⟨"p", "# c", "x", ⟨1, 0⟩, ⟨1, 4⟩⟩] = .ok payload ∧ payload.length = 30 ∧
      ∀ d, decode d = .ok [⟨"p", "# c", "x", ⟨1, 0⟩, ⟨1, 4⟩⟩] → 30 ≤ d.length := by
  have hwide : decode widePayload = .ok [⟨"p", "# c", "x", ⟨1, 0⟩, ⟨1, 4⟩⟩] :=
    eq_ok_of_toOption (by decide +kernel)
  obtain ⟨payload, hpayload, -, -, hleast⟩ := encode_shortest hwide
  have hlength : payload.length = 30 := by
    cases hpayload
    rfl
  exact ⟨rfl, payload, hpayload, hlength, fun d hd => hlength ▸ hleast d hd⟩

end Snapshot

end Drift
