import Drift.FileSystem

/-!
# Source files

* `Source` — a file's text with its path and the name of its encoding.
* `Source.ofFile` — reads a source from a file, byte for byte: line ends and marks stay.
* `Source.bytes` — the bytes that the text stands for.
-/

namespace Drift

/-- A **source file** held in memory. -/
structure Source where
  path : String
  content : String
  encoding : String
  deriving DecidableEq, Repr

namespace Source

/-- The encoding used when none is named. -/
def defaultEncoding : String := "utf-8"

/-- The encoding of that name. -/
def encodingOf (use : Encoding.Use) (name : String) : Except Fault Encoding :=
  (Encoding.ofName name).mapError (.encodingName · name use)

/-- The content as bytes. -/
def bytes (s : Source) : Except Fault Bytes :=
  match encodingOf .encoding s.encoding with
  | .error fault => .error fault
  | .ok e =>
    (e.encode s.content.toList).mapError fun
      | .run run => .unencodable run
      | .whole unfit => .unfit unfit s.encoding .encoding

/-- The text of bytes in a named encoding. Where there are no bytes, any name will do that holds no
NUL. -/
def decode (encoding : String) (bytes : Bytes) : Except Fault String :=
  match encodingOf .decoding encoding with
  | .error fault =>
    if bytes.isEmpty ∧ !encoding.toList.contains '\x00' then .ok "" else .error fault
  | .ok e =>
    match e.decode bytes with
    | .error (.run run) => .error (.undecodable run)
    | .error (.whole unfit) => .error (.unfit unfit encoding .decoding)
    | .ok text => .ok (String.ofList text)

/-- A failure to read a file or to decode it is reported with the path; any other is passed on. -/
def unreadable (path : String) : Fault → Failure
  | .file e file => .issue (.sourceUnreadable path (e.message file))
  | .undecodable fault => .issue (.sourceUnreadable path fault.message)
  | fault => .fault fault

/-- Reads a **source from a file**. -/
def ofFile (fs : FileSystem) (p : Path) (encoding : String) : Except Failure Source :=
  match fs.read p with
  | .error fault => .error (unreadable p.text fault)
  | .ok bytes =>
    match decode encoding bytes with
    | .error fault => .error (unreadable p.text fault)
    | .ok content => .ok ⟨p.text, content, encoding⟩

end Source

end Drift
