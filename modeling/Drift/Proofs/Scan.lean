import Drift.Proofs.Discovery
import Drift.Proofs.Extraction
import Drift.Proofs.Registry
import Drift.Scan
import Mathlib.Algebra.GroupWithZero.Nat

/-!
# What a scan notes

* `Extraction.Alone` — a control annotation with nothing to mark; `Extraction.Gathered` — what a
  relation gives to the nodes of a tree, in pre-order.
* `Scan.Block` — the notes of one source, with its regions; `Scan.Blocks` — those of several files
  that are all read; `Scan.Told` — what a scan of files notes and gives.
* `Extraction.extractFrom_eq`, `Scan.regionsIn_of_read` — one source; `Scan.concat_regionsIn` — the
  run over all files, up to the first that cannot be read; `Scan.told_run` — the run with its end.
* **`Scan.notes_tell_what_happened`** — a scan of a directory, with its parser and without.
-/

namespace Drift

/-! ## One tree -/

namespace Extraction

section

variable (kinds : List String) (bytes : Bytes)

/-- A control annotation **with nothing to mark**, by the number of its line. -/
structure Alone (c : Location Int) (line : Int) : Prop where
  annotates : ∃ text, Annotates kinds bytes c text
  noTarget : ¬ ∃ t, c.FirstNamed t
  line_eq : line = c.tree.span.startPoint.1 + 1

/-- What a relation gives to the nodes below the root of a tree, **in pre-order**. -/
def Gathered {α : Type} (R : Location Int → α → Prop) (t : Tree Int) (as : List α) : Prop :=
  ∃ part? : Location Int → Option α, (∀ c a, part? c = some a ↔ R c a) ∧
    as = (Location.root t).descendants.filterMap part?

/-- Everything in the tree that is looked at **can be read**: points are not negative, and the bytes
of comments and of what they mark are those of texts. -/
structure Legible (t : Tree Int) : Prop where
  points : ∀ c, (Location.root t).Below c → c.tree.span.NonNegative
  texts : ¬ ∃ c, (Location.root t).Below c ∧ Unreadable kinds bytes c

end

variable {kinds : List String} {path : String} {bytes : Bytes}

theorem legible_of_judged {t : Tree Int} (h : ∀ c ∈ (Location.root t).descendants,
    c.tree.span.NonNegative ∧ (judge path bytes c : Except Fault (Finding Region)).isOk = true) :
    Legible kinds bytes t where
  points c hc := (h c (Location.mem_descendants.2 hc)).1
  texts := by
    rintro ⟨c, hc, hunreadable⟩
    obtain ⟨fault, hfault⟩ := judge_eq_error_of_unreadable path hunreadable
    have hjudged := (h c (Location.mem_descendants.2 hc)).2
    rw [hfault] at hjudged
    cases hjudged

theorem judge_eq_alone_iff {c : Location Int} {line : Literal} (hkind : c.tree.kind ∈ kinds) :
    (judge path bytes c : Except Fault (Finding Region)) = .ok (.alone line) ↔
      ∃ n, line = .int n ∧ Alone kinds bytes c n := by
  constructor
  · intro h
    obtain ⟨text, htext, -⟩ := bind_eq_ok_iff.1 h
    have hreads := nodeText_eq_ok_iff.1 htext
    rw [judge_of_reads hreads] at h
    split at h
    · cases h
    next hcontrol =>
    split at h
    · next hnone =>
      cases h
      refine ⟨_, rfl, ⟨text, hkind, hreads, eq_true_of_ne_false hcontrol⟩, ?_, rfl⟩
      rintro ⟨t, ht⟩
      rw [Location.nextNamedSibling?_eq_some_iff.2 ht] at hnone
      cases hnone
    · next t _ =>
      cases hr : regionOf path text bytes t.tree <;> rw [hr] at h <;> cases h
  · rintro ⟨_, rfl, ⟨text, -, hreads, hcontrol⟩, htarget, rfl⟩
    have hnone : c.nextNamedSibling? = none := by
      refine Option.eq_none_iff_forall_ne_some.2 fun t ht => htarget ⟨t, ?_⟩
      exact Location.nextNamedSibling?_eq_some_iff.1 ht
    rw [judge_of_reads hreads, if_neg (by simp [hcontrol]), hnone]

/-- The line of an annotation that is alone. -/
def lineOf? : Finding Region → Option Int
  | .alone (.int n) => some n
  | _ => none

/-- The line of a comment that is an annotation with nothing to mark. -/
def alone? (kinds : List String) (path : String) (bytes : Bytes) (c : Location Int) : Option Int :=
  if c.tree.kind ∈ kinds then (judge path bytes c).toOption.bind lineOf? else none

theorem lineOf?_eq_some_iff {f : Finding Region} {n : Int} :
    lineOf? f = some n ↔ f = .alone (.int n) := by
  unfold lineOf?
  split
  · simp
  · next h => exact iff_of_false nofun fun heq => h n heq

theorem alone?_eq_some_iff {c : Location Int} {n : Int} :
    alone? kinds path bytes c = some n ↔ Alone kinds bytes c n := by
  unfold alone?
  split
  · next hkind =>
    have hjudge : judge path bytes c = .ok (.alone (.int n)) ↔
        ∃ m, Literal.int n = .int m ∧ Alone kinds bytes c m := judge_eq_alone_iff hkind
    simp only [Literal.int.injEq, exists_eq_left'] at hjudge
    rw [← hjudge]
    cases judge path bytes c with
    | error => simp [Except.toOption]
    | ok f => simp [Except.toOption, lineOf?_eq_some_iff]
  · next hkind =>
    refine iff_of_false (Option.some_ne_none n).symm fun h => ?_
    obtain ⟨text, hannotates⟩ := h.annotates
    exact hkind hannotates.kind

theorem eventOf?_of_judge {c : Location Int} {f : Finding Region}
    (h : judge path bytes c = .ok f) :
    eventOf? path f = (lineOf? f).map fun n => .annotationWithoutSibling path (.int n) := by
  cases f with
  | remark | region => rfl
  | alone line =>
    obtain ⟨n, rfl, -⟩ := (judge_eq_alone_iff (List.mem_singleton_self c.tree.kind)).1 h
    rfl

/-- What is noted of a tree, and the regions that it gives, **comment by comment**. -/
theorem extractFrom_eq {t : Tree Int} (h : Legible kinds bytes t) (path : String) :
    ∃ (lines : List Int) (regions : List Region),
      extractFrom kinds path bytes t =
        ⟨lines.map (fun n => .annotationWithoutSibling path (.int n))
          ++ [.fileExtracted path regions.length], .ok regions⟩ ∧
      Gathered (Alone kinds bytes) t lines ∧ Gathered (Marks kinds path bytes) t regions := by
  have hjudged := judge_comments_eq_ok path h.points h.texts
  obtain ⟨findings, hrun, hparts⟩ := judgeOnto_of_ok [] hjudged
  rw [List.reverse_nil, List.nil_append] at hrun
  have hgathered {α : Type} (part? : Finding Region → Option α) : findings.filterMap part? =
      (Location.root t).descendants.filterMap fun c =>
        if c.tree.kind ∈ kinds then (judge path bytes c).toOption.bind part? else none := by
    rw [hparts, comments_eq, List.filterMap_filter]
    simp only [decide_eq_true_eq]
  have hevents : findings.filterMap (eventOf? path) =
      (findings.filterMap lineOf?).map fun n => .annotationWithoutSibling path (.int n) := by
    rw [hparts, hparts, List.map_filterMap]
    refine List.filterMap_congr fun c hc => ?_
    obtain ⟨f, hf⟩ := hjudged c hc
    rw [hf]
    exact eventOf?_of_judge hf
  refine ⟨findings.filterMap lineOf?, findings.filterMap regionOf?, ?_,
    ⟨alone? kinds path bytes, fun c n => alone?_eq_some_iff, hgathered lineOf?⟩,
    ⟨marked? kinds path bytes, fun c r => marked?_eq_some_iff, hgathered regionOf?⟩⟩
  unfold extractFrom
  simp only [hrun, hevents]

variable {s : Source} {parse : Parse Int}

theorem extract_of_none (hbytes : s.bytes = .ok bytes) (h : parse bytes = none) :
    (extract kinds parse s : Logged (List Region)) = ⟨[.parseFailed s.path], .ok []⟩ := by
  unfold extract
  simp only [hbytes, h]

theorem extract_of_some {t : Tree Int} (hbytes : s.bytes = .ok bytes) (h : parse bytes = some t) :
    (extract kinds parse s : Logged (List Region)) = extractFrom kinds s.path bytes t := by
  unfold extract
  simp only [hbytes, h]

end Extraction

/-! ## Reading a file -/

theorem Logged.bind_mk {α β : Type} (events : List Event) (a : α) (f : α → Logged β) :
    (⟨events, .ok a⟩ : Logged α).bind f = ⟨events ++ (f a).events, (f a).result⟩ := rfl

theorem Logged.bind_error {α β : Type} (events : List Event) (e : Failure) (f : α → Logged β) :
    (⟨events, .error e⟩ : Logged α).bind f = ⟨events, .error e⟩ := rfl

namespace Source

theorem undecodable_of_decode {bytes : Bytes} {fault : Fault}
    (h : decode defaultEncoding bytes = .error fault) : ∃ f, fault = .undecodable f := by
  unfold decode at h
  simp only [encodingOf_default, Encoding.decode] at h
  cases hdecode : Encoding.decodeUtf8 bytes with
  | ok => simp [hdecode, Except.mapError] at h
  | error f =>
    simp only [hdecode, Except.mapError, Except.error.injEq] at h
    exact ⟨f, h.symm⟩

theorem ofFile_cases (fs : FileSystem) {p : Path} (hnul : '\x00' ∉ p.text.toList) :
    (∃ content, ofFile fs p defaultEncoding = .ok ⟨p.text, content, defaultEncoding⟩) ∨
      ∃ reason, ofFile fs p defaultEncoding = .error (.issue (.sourceUnreadable p.text reason)) := by
  unfold ofFile
  cases hread : fs.read p with
  | error fault =>
    obtain ⟨e, rfl⟩ := FileSystem.fault_of_read hnul hread
    exact .inr ⟨_, rfl⟩
  | ok bytes =>
    cases hdecode : decode defaultEncoding bytes with
    | error fault =>
      obtain ⟨f, rfl⟩ := undecodable_of_decode hdecode
      exact .inr ⟨f.message, by simp only [hdecode]; rfl⟩
    | ok content => exact .inl ⟨content, by simp only [hdecode]⟩

theorem bytes_default (path content : String) :
    bytes ⟨path, content, defaultEncoding⟩ = .ok (Utf8.encodeString content) := by
  unfold bytes
  simp only [encodingOf_default, Encoding.encode]
  rfl

end Source

/-! ## Names without NUL -/

/-- **No name holds NUL**, as no name of a file can. -/
inductive Entry.NulFree : Entry → Prop where
  | file (content : Bytes) : NulFree (.file content)
  | link (target : String) : NulFree (.link target)
  | sink : NulFree .sink
  | directory {entries : List (String × Entry)} (hname : ∀ e ∈ entries, '\x00' ∉ e.1.toList)
      (hbelow : ∀ e ∈ entries, NulFree e.2) : NulFree (.directory entries)

namespace Discovery

theorem descend_of_mem_filesBelow {view : View} {e : Entry} (h : e.NulFree) {p q : Path}
    (hq : q ∈ filesBelow view p e) :
    ∃ names, q = p.descend names ∧ ∀ name ∈ names, '\x00' ∉ name.toList := by
  induction h generalizing p q with
  | file | link | sink =>
    rw [filesBelow] at hq
    · cases hq
    · intro entries hdirectory
      cases hdirectory
  | @directory entries hname _ ih =>
    rw [filesBelow] at hq
    split at hq
    · rcases List.mem_append.1 hq with hq | hq
      · obtain ⟨⟨name, child⟩, hmem, rfl⟩ := List.mem_map.1 hq
        have hmem : (name, child) ∈ entries := mem_byName_iff.1 (List.mem_filter.1 hmem).1
        refine ⟨[name], ?_, List.forall_mem_singleton.2 (hname _ hmem)⟩
        rw [Path.descend_cons, Path.descend_nil]
      · obtain ⟨item, hitem, hq⟩ := List.mem_flatMap.1 hq
        rw [mem_byName_iff, filesOfEach_eq] at hitem
        obtain ⟨⟨name, child⟩, hmem, rfl⟩ := List.mem_map.1 hitem
        obtain ⟨names, rfl, hnames⟩ := ih _ hmem hq
        exact ⟨name :: names, (Path.descend_cons ..).symm,
          List.forall_mem_cons.2 ⟨hname _ hmem, hnames⟩⟩
    · cases hq

theorem candidates_of_directory {fs : FileSystem} {root : Path} {entries : List (String × Entry)}
    (hroot : fs.entry? root = .ok (some (.directory entries)))
    (hnames : (Entry.directory entries).NulFree) (extensions : List String) :
    ∃ files : List Path, candidates fs root extensions = .ok (files.map (⟨·, true⟩)) ∧
      ∀ p ∈ files, '\x00' ∉ p.text.toList := by
  refine ⟨_, by unfold candidates; simp only [hroot]; rfl, fun p hp => ?_⟩
  obtain ⟨names, rfl, hnul⟩ := descend_of_mem_filesBelow hnames (List.mem_filter.1 hp).1
  obtain ⟨_, hlocate⟩ := FileSystem.locate_of_entry? hroot
  rw [Path.nul_mem_text_iff]
  rintro ⟨part, hpart, hc⟩
  rcases List.mem_append.1 hpart with hpart | hpart
  · exact (FileSystem.spelled_of_locate hlocate).nul_not_mem
      ((Path.nul_mem_text_iff _).2 ⟨part, hpart, hc⟩)
  · exact hnul part hpart hc

end Discovery

/-! ## No parser -/

namespace Registry

theorem events_of_unavailable {loader : Loader} {r r' : Registry} {name : String}
    {events : List Event} {failure : Failure}
    (h : r.parser loader name = (r', ⟨events, .error failure⟩)) {e : Event} (he : e ∈ events) :
    ∃ l reason, e = .grammarLoadFailed l reason := by
  have hgiven := parser_given loader r name
  rw [h] at hgiven
  cases hgiven with
  | unknown => cases he
  | refused l reason => exact ⟨l.name, reason, List.mem_singleton.1 he⟩

end Registry

/-! ## Files in their order -/

namespace Scan

open ControlComment (commentKinds)
open Extraction (Alone Gathered Legible Marks)

/-- The **notes of one source** that has been found and read, with its regions. Every control
annotation with nothing to mark is noted, in pre-order. -/
inductive Block (parse : Parse Int) (s : Source) : List Event → List Region → Prop where
  | withoutTree (h : parse (Utf8.encodeString s.content) = none) :
      Block parse s [.sourceDiscovered s.path, .parseFailed s.path] []
  | withTree {t : Tree Int} {lines : List Int} {regions : List Region}
      (h : parse (Utf8.encodeString s.content) = some t)
      (hlines : Gathered (Alone commentKinds (Utf8.encodeString s.content)) t lines)
      (hregions :
        Gathered (Marks commentKinds s.path (Utf8.encodeString s.content)) t regions) :
      Block parse s
        (.sourceDiscovered s.path :: (lines.map fun n => .annotationWithoutSibling s.path (.int n))
          ++ [.fileExtracted s.path regions.length]) regions

/-- The blocks of files **that are all read**, one after the other. -/
inductive Blocks (fs : FileSystem) (parse : Parse Int) :
    List Path → List Event → List Region → Prop where
  | nil : Blocks fs parse [] [] []
  | cons {file : Path} {files : List Path} {content : String} {events events' : List Event}
      {regions regions' : List Region}
      (hread : Source.ofFile fs file Source.defaultEncoding
        = .ok ⟨file.text, content, Source.defaultEncoding⟩)
      (hblock : Block parse ⟨file.text, content, Source.defaultEncoding⟩ events regions)
      (hrest : Blocks fs parse files events' regions') :
      Blocks fs parse (file :: files) (events ++ events') (regions ++ regions')

/-- The regions that a note counts for a file. -/
def counted : Event → Nat
  | .fileExtracted _ n => n
  | _ => 0

variable {fs : FileSystem} {parse : Parse Int} {file : Path} {files : List Path}

theorem Block.sum_counted {s : Source} {events : List Event} {regions : List Region}
    (h : Block parse s events regions) : (events.map counted).sum = regions.length := by
  cases h with
  | withoutTree => rfl
  | withTree => simp [counted, Function.comp_def]

theorem Blocks.sum_counted {events : List Event} {regions : List Region}
    (h : Blocks fs parse files events regions) : (events.map counted).sum = regions.length := by
  induction h with
  | nil => rfl
  | cons _ hblock _ ih => simp [hblock.sum_counted, ih]

/-- A file that is read is noted by its block. -/
theorem regionsIn_of_read (htrees : ∀ bytes t, parse bytes = some t → Legible commentKinds bytes t)
    {content : String} (hread : Source.ofFile fs file Source.defaultEncoding
      = .ok ⟨file.text, content, Source.defaultEncoding⟩) :
    ∃ events regions, regionsIn fs parse ⟨file, true⟩ = ⟨events, .ok regions⟩ ∧
      Block parse ⟨file.text, content, Source.defaultEncoding⟩ events regions := by
  have hregions : regionsIn fs parse ⟨file, true⟩ = (⟨[.sourceDiscovered file.text],
      .ok ⟨file.text, content, Source.defaultEncoding⟩⟩ : Logged Source).bind
        (Extraction.extract commentKinds parse) := by
    rw [← hread]
    rfl
  rw [hregions, Logged.bind_mk]
  have hbytes := Source.bytes_default file.text content
  cases hparse : parse (Utf8.encodeString content) with
  | none =>
    rw [Extraction.extract_of_none hbytes hparse]
    exact ⟨_, _, rfl, .withoutTree hparse⟩
  | some t =>
    obtain ⟨lines, regions, heq, hlines, hmarked⟩ :=
      Extraction.extractFrom_eq (htrees _ _ hparse) file.text
    rw [Extraction.extract_of_some hbytes hparse, heq]
    exact ⟨_, regions, rfl, .withTree hparse hlines hmarked⟩

theorem regionsIn_of_unread {failure : Failure}
    (hunread : Source.ofFile fs file Source.defaultEncoding = .error failure) :
    regionsIn fs parse ⟨file, true⟩ = ⟨[.sourceDiscovered file.text], .error failure⟩ := by
  unfold regionsIn Discovery.load Logged.bind
  simp only [hunread]
  rfl

/-- A run over files **notes their blocks**, up to the first file that is not read. -/
theorem concat_regionsIn
    (htrees : ∀ bytes t, parse bytes = some t → Legible commentKinds bytes t)
    (hnul : ∀ p ∈ files, '\x00' ∉ p.text.toList) :
    (∃ events regions, Blocks fs parse files events regions ∧
      Logged.concat (regionsIn fs parse) (files.map (⟨·, true⟩)) = ⟨events, .ok regions⟩) ∨
    ∃ before file after reason events regions, files = before ++ file :: after ∧
      Blocks fs parse before events regions ∧
      Source.ofFile fs file Source.defaultEncoding
        = .error (.issue (.sourceUnreadable file.text reason)) ∧
      Logged.concat (regionsIn fs parse) (files.map (⟨·, true⟩)) =
        ⟨events ++ [.sourceDiscovered file.text],
          .error (.issue (.sourceUnreadable file.text reason))⟩ := by
  induction files with
  | nil => exact .inl ⟨[], [], .nil, rfl⟩
  | cons file files ih =>
    rw [List.forall_mem_cons] at hnul
    rw [List.map_cons, Logged.concat]
    rcases Source.ofFile_cases fs hnul.1 with ⟨content, hread⟩ | ⟨reason, hunread⟩
    · obtain ⟨events, regions, hfirst, hblock⟩ := regionsIn_of_read htrees hread
      rw [hfirst]
      rcases ih hnul.2 with ⟨events', regions', hblocks, hrest⟩ |
        ⟨before, last, after, reason, events', regions', rfl, hblocks, hunread, hrest⟩
      · left
        refine ⟨_, _, .cons hread hblock hblocks, ?_⟩
        rw [Logged.bind_mk, hrest, Logged.bind_mk, Logged.ok, List.append_nil]
      · right
        refine ⟨file :: before, last, after, reason, _, _, rfl, .cons hread hblock hblocks,
          hunread, ?_⟩
        rw [Logged.bind_mk, hrest, Logged.bind_error, List.append_assoc]
    · right
      refine ⟨[], file, files, reason, [], [], rfl, .nil, hunread, ?_⟩
      rw [regionsIn_of_unread hunread, Logged.bind_error, List.nil_append]

theorem concat_congr {fs' : FileSystem} {before after : List Path} {failure : Failure}
    (hunread : Source.ofFile fs file Source.defaultEncoding = .error failure)
    (hsame : ∀ p ∈ before ++ [file], Source.ofFile fs' p Source.defaultEncoding
      = Source.ofFile fs p Source.defaultEncoding) :
    Logged.concat (regionsIn fs' parse) ((before ++ file :: after).map (⟨·, true⟩)) =
      Logged.concat (regionsIn fs parse) ((before ++ file :: after).map (⟨·, true⟩)) := by
  have hregions {p : Path} (hp : Source.ofFile fs' p Source.defaultEncoding
      = Source.ofFile fs p Source.defaultEncoding) :
      regionsIn fs' parse ⟨p, true⟩ = regionsIn fs parse ⟨p, true⟩ := by
    unfold regionsIn Discovery.load
    rw [hp]
  induction before with
  | nil =>
    have hfile := hsame file (List.mem_singleton_self file)
    rw [List.nil_append, List.map_cons, Logged.concat, Logged.concat, hregions hfile,
      regionsIn_of_unread hunread, Logged.bind_error, Logged.bind_error]
  | cons p before ih =>
    rw [List.cons_append, List.forall_mem_cons] at hsame
    rw [List.cons_append, List.map_cons, Logged.concat, Logged.concat, hregions hsame.1,
      ih hsame.2]

/-! ## The whole operation -/

/-- The named values of the notes on a scan. -/
def given (root language : String) : Named := [("root", .text root), ("language", .text language)]

/-- What a scan that stops at a file **notes at its end**. -/
def stopped (root language : String) (failure : Failure) : Note :=
  ⟨"extract_regions_failed", .debug, "code_control.extraction.extractor",
    ("error_type", .ofText "SourceReadError") :: ("error_message", .ofText failure.message)
      :: ("duration_ms", .measure) :: Detail.ofNamed (given root language)⟩

/-- What a scan of files, in their order, **notes and gives**. -/
inductive Told (fs : FileSystem) (parse : Parse Int) (root language : String)
    (extensions : List String) (files : List Path) : Logged (List Region) → Prop where
  | complete {events : List Event} {regions : List Region}
      (hblocks : Blocks fs parse files events regions)
      (hsum : (events.map counted).sum = regions.length) :
      Told fs parse root language extensions files
        ⟨events ++ [.operationComplete (.text operation) (given root language),
          .regionsExtracted root regions.length], .ok regions⟩
  | failed {before after : List Path} {file : Path} {reason : String} {failure : Failure}
      {events : List Event} {regions : List Region}
      (hfiles : files = before ++ file :: after) (hblocks : Blocks fs parse before events regions)
      (hfailure : failure = .issue (.sourceUnreadable file.text reason))
      (hunread : Source.ofFile fs file Source.defaultEncoding = .error failure)
      (hnote : (Event.operationFailed (.text operation) failure (given root language)).note
        = stopped root language failure)
      -- No later file is read: what they hold makes no difference.
      (hlater : ∀ fs' : FileSystem,
        Discovery.candidates fs' (Path.ofString root) (Extensions.normalize extensions)
          = .ok (files.map (⟨·, true⟩)) →
        (∀ p ∈ before ++ [file], Source.ofFile fs' p Source.defaultEncoding
          = Source.ofFile fs p Source.defaultEncoding) →
        run fs' parse root language extensions = run fs parse root language extensions) :
      Told fs parse root language extensions files
        ⟨events ++ [.sourceDiscovered file.text,
          .operationFailed (.text operation) failure (given root language)], .error failure⟩

variable {root language : String} {extensions : List String}

theorem framed_ok (events : List Event) (regions : List Region) :
    framed root language ⟨events, .ok regions⟩ =
      ⟨events ++ [.operationComplete (.text operation) (given root language),
        .regionsExtracted root regions.length], .ok regions⟩ := by
  have htimed : Logged.timed (.text operation) (given root language) ⟨events, .ok regions⟩
      = ⟨events ++ [.operationComplete (.text operation) (given root language)], .ok regions⟩ := rfl
  unfold framed
  rw [← given, htimed, Logged.bind_mk]
  simp [Logged.note, Logged.bind, Logged.ok]

theorem framed_error (events : List Event) (failure : Failure) :
    framed root language ⟨events, .error failure⟩ =
      ⟨events ++ [.operationFailed (.text operation) failure (given root language)],
        .error failure⟩ := rfl

theorem run_eq
    (hfiles : Discovery.candidates fs (Path.ofString root) (Extensions.normalize extensions)
      = .ok (files.map (⟨·, true⟩))) :
    run fs parse root language extensions = framed root language
      (Logged.concat (regionsIn fs parse) (files.map (⟨·, true⟩))) := by
  unfold run regionsBelow
  rw [hfiles]

theorem told_run (htrees : ∀ bytes t, parse bytes = some t → Legible commentKinds bytes t)
    (hfiles : Discovery.candidates fs (Path.ofString root) (Extensions.normalize extensions)
      = .ok (files.map (⟨·, true⟩)))
    (hnul : ∀ p ∈ files, '\x00' ∉ p.text.toList) :
    Told fs parse root language extensions files (run fs parse root language extensions) := by
  have hrun : run fs parse root language extensions = framed root language
      (Logged.concat (regionsIn fs parse) (files.map (⟨·, true⟩))) := run_eq hfiles
  rcases concat_regionsIn htrees hnul with ⟨events, regions, hblocks, hconcat⟩ |
    ⟨before, file, after, reason, events, regions, hsplit, hblocks, hunread, hconcat⟩
  · rw [hrun, hconcat, framed_ok]
    exact .complete hblocks hblocks.sum_counted
  · have hlater : ∀ fs' : FileSystem,
        Discovery.candidates fs' (Path.ofString root) (Extensions.normalize extensions)
          = .ok (files.map (⟨·, true⟩)) →
        (∀ p ∈ before ++ [file], Source.ofFile fs' p Source.defaultEncoding
          = Source.ofFile fs p Source.defaultEncoding) →
        run fs' parse root language extensions = run fs parse root language extensions := by
      intro fs' hfiles' hsame
      rw [run_eq hfiles', hrun, hsplit, concat_congr hunread hsame]
    rw [hrun, hconcat, framed_error, List.append_assoc]
    exact .failed hsplit hblocks rfl hunread rfl hlater

/-- **What a scan of a directory notes**: when there is no parser, no file is looked at; otherwise
the files are told in the order of their discovery, up to the first that cannot be read. -/
theorem notes_tell_what_happened {grammars : Grammars} {entries : List (String × Entry)}
    (hroot : fs.entry? (Path.ofString root) = .ok (some (.directory entries)))
    (hnames : (Entry.directory entries).NulFree)
    (htrees : ∀ l bytes t, grammars.parse l bytes = some t → Legible commentKinds bytes t)
    (r : Registry) (language : String) (extensions : List String) :
    (∃ r' events failure, r.parser grammars.load language = (r', ⟨events, .error failure⟩) ∧
      (∀ e ∈ events, ∃ l reason, e = .grammarLoadFailed l reason) ∧
      ∀ fs' root' extensions', regions fs' grammars r root' language extensions'
        = (r', ⟨events, .error failure⟩)) ∨
    ∃ r' events parser found files,
      r.parser grammars.load language = (r', ⟨events, .ok parser⟩) ∧
      regions fs grammars r root language extensions
        = (r', ⟨events ++ found.events, found.result⟩) ∧
      Discovery.candidates fs (Path.ofString root) (Extensions.normalize extensions)
        = .ok (files.map (⟨·, true⟩)) ∧
      Told fs (grammars.parse parser.language) root language extensions files found := by
  rcases hparser : r.parser grammars.load language with ⟨r', events, failure | parser⟩
  · refine .inl ⟨r', events, failure, rfl, fun e he => ?_, fun fs' root' extensions' => ?_⟩
    · exact Registry.events_of_unavailable hparser he
    · unfold regions byParser
      rw [hparser]
  · obtain ⟨files, hfiles, hnul⟩ :=
      Discovery.candidates_of_directory hroot hnames (Extensions.normalize extensions)
    refine .inr ⟨r', events, parser, _, files, rfl, ?_, hfiles,
      told_run (htrees parser.language) hfiles hnul⟩
    unfold regions byParser
    rw [hparser]

/-! ### An annotation with nothing to mark -/

/-- A source with an annotation that has nothing to mark. -/
def sampleSource : Bytes := Utf8.encodeString "# control A\n"

/-- Its tree. -/
def sampleTree : Tree Int :=
  .node "module" true ⟨0, 12, (0, 0), (1, 0)⟩
    [.node "comment" true ⟨0, 11, (0, 0), (0, 11)⟩ []]

/-- The source in the directory `p`. -/
def sampleFiles : FileSystem := ⟨.directory [("p", .directory [("a.py", .file sampleSource)])], []⟩

/-- The grammars that give the tree. -/
def sampleGrammars : Grammars := ⟨[], [(.python, sampleSource, sampleTree)]⟩

theorem legible_of_sampleGrammars {l : Language} {bytes : Bytes} {t : Tree Int}
    (h : sampleGrammars.parse l bytes = some t) : Legible commentKinds bytes t := by
  have hjudged : ∀ c ∈ (Location.root sampleTree).descendants, c.tree.span.NonNegative ∧
      (Extraction.judge "p/a.py" sampleSource c : Except Fault (Finding Region)).isOk = true := by
    decide +kernel
  obtain ⟨found, hfind, rfl⟩ := Option.map_eq_some_iff.1 h
  obtain rfl := List.mem_singleton.1 (List.mem_of_find?_eq_some hfind)
  obtain ⟨-, rfl⟩ : _ ∧ sampleSource = bytes := by simpa using List.find?_some hfind
  exact Extraction.legible_of_judged hjudged

/-- The annotation is noted, and the scan gives no regions. -/
theorem notes_tell_what_happened_sampleFiles : ∃ r' found,
    regions sampleFiles sampleGrammars .fresh "p" "python" ["py"]
      = (r', ⟨.grammarLoaded "python" :: found.events, found.result⟩) ∧
    Told sampleFiles (sampleGrammars.parse .python) "p" "python" ["py"] [Path.ofString "p/a.py"]
      found ∧
    found.result = .ok [] := by
  have hnames : (Entry.directory [("a.py", .file sampleSource)]).NulFree :=
    .directory (by decide) (List.forall_mem_singleton.2 (.file _))
  have hparser : Registry.fresh.parser sampleGrammars.load "python"
      = (_, ⟨[.grammarLoaded "python"], .ok ⟨.python, 0⟩⟩) := rfl
  have hcandidates : Discovery.candidates sampleFiles (Path.ofString "p")
      (Extensions.normalize ["py"]) = .ok ([Path.ofString "p/a.py"].map (⟨·, true⟩)) :=
    eq_ok_of_toOption (by decide +kernel)
  have hresult : (regions sampleFiles sampleGrammars .fresh "p" "python" ["py"]).2.result = .ok [] :=
    eq_ok_of_toOption (by decide +kernel)
  have hroot : sampleFiles.entry? (Path.ofString "p")
      = .ok (some (.directory [("a.py", .file sampleSource)])) := rfl
  rcases notes_tell_what_happened hroot hnames (fun _ _ _ => legible_of_sampleGrammars)
      .fresh "python" ["py"] with
    ⟨_, _, _, hfailed, -⟩ | ⟨r', _, _, found, files, hmade, hfound, hfiles, htold⟩
  · rw [hparser] at hfailed
    cases hfailed
  · rw [hparser] at hmade
    cases hmade
    have hmap := Except.ok.inj (hfiles.symm.trans hcandidates)
    obtain rfl : files = [Path.ofString "p/a.py"] :=
      List.map_injective_iff.2 (fun p q h => congrArg Candidate.path h) hmap
    rw [hfound] at hresult
    exact ⟨_, found, hfound, htold, hresult⟩

end Scan

end Drift
