import Drift.Proofs.Deflate.Writing
import Drift.Proofs.Snapshot.Loading

/-!
# Snapshots are read however they are compressed

A snapshot may be compressed anew by other means: what counts is the log that it expands to.

* **`load_of_legal_blocks`** — any legal blocks that expand to a log can be written, and each stream
  that they are written in gives the regions of the log, unless a block tells the lengths of words
  for more distances than there are.
* `load_of_threeBlocks` — blocks of each kind; `load_of_manyDistances` — one head that is too long.
-/

namespace Drift.Snapshot

open Deflate (Block Complete Expands Item Preface Repeats Runs Word Written deflated_of_written
  exists_written inOrder inflate_of_written)
open Zlib (Head)

/-! ## Legal blocks -/

theorem load_eq_error {data : Bytes} {fault : Zlib.Fault} (h : Zlib.decompress data = .error fault) :
    load data = .error fault.issue := by
  simp only [load, h]

/-- Legal blocks that expand to a log can be written, and **however they are written**, behind any
head and in front of the checksum of the log, they give the regions of the log, unless one of them
tells the lengths of words for more than 30 distances, which is refused. -/
theorem load_of_legal_blocks {regions : List Region} {payload : Bytes} {method flags : UInt8}
    {blocks : List Block} (hencode : encode regions = .ok payload) (hhead : Head method flags)
    (hne : blocks ≠ []) (hlegal : ∀ b ∈ blocks, b.Legal) (hexpand : Expands [] blocks payload) :
    (∃ body, Written blocks body) ∧
      ∀ body, Written blocks body →
        ((∀ b ∈ blocks, b.distanceCount ≤ 30) →
          load (method :: flags :: (body ++ Bytes.bigEndian 4 (adler32 payload))) = .ok regions) ∧
        ((∃ b ∈ blocks, 30 < b.distanceCount) →
          load (method :: flags :: (body ++ Bytes.bigEndian 4 (adler32 payload)))
            = .error (Zlib.Fault.data .tooManySymbols).issue) := by
  refine ⟨exists_written hne hlegal, fun body hbody => ⟨fun hcount => ?_, fun hcount => ?_⟩⟩
  · have hstream := Zlib.Stream.mk hhead (deflated_of_written hbody hlegal hcount hexpand)
    exact load_of_encode hencode ⟨_, [], (List.append_nil _).symm, hstream⟩
  · have htail : Zlib.afterHead (method :: flags :: (body ++ Bytes.bigEndian 4 (adler32 payload)))
        = .ok (body ++ Bytes.bigEndian 4 (adler32 payload)) :=
      Zlib.afterHead_eq_ok_iff.2 ⟨method, flags, rfl, hhead⟩
    refine load_eq_error ?_
    simp only [Zlib.decompress, htail, inflate_of_written hbody hlegal hcount hexpand]

/-- A region with a long path, without texts, at the start of a file. -/
def longPath : List Region := [⟨"aaaaaaaa", "", "", ⟨0, 0⟩, ⟨0, 0⟩⟩]

/-- The log of `longPath` up to its path. -/
def longPathHead : Bytes :=
  [0x93, 0xAB, 99, 111, 110, 116, 114, 111, 108, 45, 108, 111, 103, 1, 0x91, 0x95, 0xA8]

/-- The log of `longPath`. -/
def longPathLog : Bytes :=
  longPathHead ++ (List.replicate 8 97 ++ [0xA0, 0xA0, 0x92, 0, 0, 0x92, 0, 0])

/-- The log of `longPath` in a block of each kind. The path is a byte and seven copies of it, and the
last position is a copy of the one before, which lies in another block. -/
def threeBlocks : List Block :=
  [.stored longPathHead,
   .fixed [.literal 97, .copy 7 1, .literal 0xA0, .literal 0xA0, .literal 0x92, .literal 0,
     .literal 0],
   .dynamic (List.replicate 256 0 ++ [1, 1]) [0, 1, 1] [.copy 3 3]]

theorem legal_threeBlocks : ∀ b ∈ threeBlocks, b.Legal := by
  refine List.forall_mem_cons.2 ⟨?_, List.forall_mem_cons.2 ⟨?_, List.forall_mem_singleton.2 ?_⟩⟩
  · change 17 ≤ 65535
    decide
  · simp [Block.Legal, Item.Plain]
  · refine ⟨⟨by decide +kernel, by decide, by decide +kernel, by decide +kernel,
      .inl rfl, .inl (by decide)⟩, List.forall_mem_singleton.2 ⟨?_, ?_⟩⟩
    · exact ⟨0, (3, 0), rfl, by decide +kernel, by decide, by decide⟩
    · exact ⟨2, (3, 0), rfl, by decide, by decide, by decide⟩

theorem expands_threeBlocks : Expands [] threeBlocks longPathLog := by
  have hpath : Repeats (longPathHead ++ [97]) 7 1 (List.replicate 7 97) :=
    ⟨by decide, rfl, by decide⟩
  have hposition : Repeats
      (longPathHead ++ (97 :: (List.replicate 7 97 ++ [0xA0, 0xA0, 0x92, 0, 0]))) 3 3
      [0x92, 0, 0] := ⟨by decide, rfl, by decide⟩
  have hparts : Expands [] threeBlocks
      (longPathHead ++ ((97 :: (List.replicate 7 97 ++ [0xA0, 0xA0, 0x92, 0, 0])) ++
        (([0x92, 0, 0] ++ []) ++ []))) := by
    refine .cons rfl (.cons ?_ (.cons ?_ .nil))
    · exact .literal (.copy hpath (.literal (.literal (.literal (.literal (.literal .nil))))))
    · exact .copy hposition .nil
  exact hparts

/-- A region in three blocks, one of each kind. -/
theorem load_of_threeBlocks :
    (∃ body, Written threeBlocks body) ∧
      ∀ body, Written threeBlocks body →
        load (0x78 :: 0x9C :: (body ++ Bytes.bigEndian 4 (adler32 longPathLog)))
          = .ok longPath := by
  have hencode : encode longPath = .ok longPathLog := rfl
  have hhead : Head 0x78 0x9C := ⟨by decide, by decide, by decide, by decide⟩
  obtain ⟨hwritten, hload⟩ := load_of_legal_blocks hencode hhead (List.cons_ne_nil _ _)
    legal_threeBlocks expands_threeBlocks
  exact ⟨hwritten, fun body hbody => (hload body hbody).1 (by decide)⟩

/-! ## Heads for more distances than there are -/

/-- The log of no regions. -/
def emptyLog : Bytes := [0x93, 0xAB, 99, 111, 110, 116, 114, 111, 108, 45, 108, 111, 103, 1, 0x90]

/-- The lengths of two words, one of them for the end of a block. -/
def fewLiterals : List Nat := 1 :: (List.replicate 255 0 ++ [1])

/-- The lengths of two words for the two nearest distances, and no word for 29 other ones. -/
def manyDistances : List Nat := 1 :: 1 :: List.replicate 29 0

/-- The log of no regions as it is, and behind it an empty block that tells the lengths of words for
31 distances. -/
def manyDistancesBlocks : List Block :=
  [.stored emptyLog, .dynamic fewLiterals manyDistances []]

/-- The lengths of the code for code lengths of `manyDistancesBlocks`: a word for a length of one,
and one for many lengths of zero. -/
def onesAndZeros : List Nat := [0, 0, 1, 0, 0, 0, 0, 0, 0, 0, 0, 0, 0, 0, 0, 0, 0, 1]

/-- The bytes of `manyDistancesBlocks`. -/
def manyDistancesBody : Bytes :=
  [0, 15, 0, 240, 255, 0x93, 0xAB, 99, 111, 110, 116, 114, 111, 108, 45, 108, 111, 103, 1, 0x90,
   5, 222, 129, 0, 0, 0, 0, 0, 16, 255, 213, 40, 9]

theorem legal_manyDistances : ∀ b ∈ manyDistancesBlocks, b.Legal := by
  refine List.forall_mem_cons.2 ⟨?_, List.forall_mem_singleton.2 ⟨?_, nofun⟩⟩
  · change 15 ≤ 65535
    decide
  · exact ⟨by decide +kernel, by decide, by decide +kernel, by decide +kernel, .inl rfl,
      .inl (by decide)⟩

theorem expands_manyDistances : Expands [] manyDistancesBlocks emptyLog := by
  have hparts : Expands [] manyDistancesBlocks (emptyLog ++ ([] ++ [])) := by
    refine .cons rfl (.cons ?_ .nil)
    exact .nil
  exact hparts

theorem written_manyDistances : Written manyDistancesBlocks manyDistancesBody := by
  have hone : Word (inOrder onesAndZeros) [false] 1 := by decide
  have hzeros : Word (inOrder onesAndZeros) [true] 18 := by decide
  have hend : Word fewLiterals [true] 256 := by decide +kernel
  have hruns : Runs (inOrder onesAndZeros) [] _
      (1 :: (List.replicate (11 + 127) 0 ++ (List.replicate (11 + 106) 0 ++
        (1 :: 1 :: 1 :: (List.replicate (11 + 18) 0 ++ []))))) :=
    .single (by decide) hone (.repeated hzeros .manyZeros (by decide)
      (.repeated hzeros .manyZeros (by decide) (.single (by decide) hone
        (.single (by decide) hone (.single (by decide) hone
          (.repeated hzeros .manyZeros (by decide) .nil))))))
  have hlengths : 1 :: (List.replicate (11 + 127) 0 ++ (List.replicate (11 + 106) 0 ++
      (1 :: 1 :: 1 :: (List.replicate (11 + 18) 0 ++ [])))) = fewLiterals ++ manyDistances := by
    decide +kernel
  rw [hlengths] at hruns
  have hhead : Preface fewLiterals manyDistances _ :=
    .mk (by decide +kernel) (by decide +kernel) (by decide) (by decide) (by decide) (by decide)
      (by decide) hruns
  have hpad : (List.replicate 5 false).length < 8 := by decide
  have hlength : emptyLog.length = (15 : UInt8).toNat + 256 * (0 : UInt8).toNat := by decide
  exact ⟨_, List.replicate 4 false, by decide +kernel, by decide,
    .more (.stored hpad (by decide) hlength) (.last (.dynamic hhead (.done (.endOfBlock hend))))⟩

/-- Legal blocks with complete codes are **refused** when one of them tells the lengths of words for
31 distances, though none of the words is for a distance that there is not. -/
theorem load_of_manyDistances :
    encode [] = .ok emptyLog ∧ Head 0x78 0x9C ∧ Complete fewLiterals ∧ Complete manyDistances ∧
      (∀ b ∈ manyDistancesBlocks, b.Legal) ∧ Expands [] manyDistancesBlocks emptyLog ∧
      Written manyDistancesBlocks manyDistancesBody ∧
      load (0x78 :: 0x9C :: (manyDistancesBody ++ Bytes.bigEndian 4 (adler32 emptyLog)))
        ≠ .ok [] := by
  refine ⟨rfl, ⟨by decide, by decide, by decide, by decide⟩, rfl, by decide, legal_manyDistances,
    expands_manyDistances, written_manyDistances, fun h => ?_⟩
  have hnone : (load (0x78 :: 0x9C ::
      (manyDistancesBody ++ Bytes.bigEndian 4 (adler32 emptyLog)))).toOption = none := by
    decide +kernel
  rw [h] at hnone
  cases hnone

end Drift.Snapshot
