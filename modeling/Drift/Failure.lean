import Drift.FileError
import Drift.Issue
import Drift.Json.Parser
import Drift.Region
import Drift.Snapshot
import Drift.Text.EncodingName
import Drift.Zlib

/-!
# Failures

* `ArgumentFault`, `VariableFault` — why an argument does not fit its use, and why a variable of the
  environment cannot be set.
* `Fault` — a failure that is no report to the user, by its cause.
* `Failure` — an issue or a fault; `Failure.label` and `Failure.message` name it in logs.
* `Snapshot.Fault.issue`, `Zlib.Fault.issue` — the issues that refused snapshots give rise to.
-/

namespace Drift

/-! ## Parts of faults -/

/-- Why an argument **does not fit its use**. -/
inductive ArgumentFault where
  /-- A named value is not given. -/
  | nameMissing (name : String)
  /-- There is no item at an index. -/
  | noItem
  /-- A value of a kind does not offer an operation. -/
  | lacks (kind operation : String)
  /-- A value of a kind has no parts. -/
  | noParts (kind : String)
  /-- A value has fewer parts than are expected. -/
  | tooFewParts (expected found : Nat)
  /-- A value has more parts than are expected. -/
  | tooManyParts (expected : Nat)
  /-- Digits are no bytes, from an index on. -/
  | noBytes (index : Nat)
  /-- A value of a kind is no path. -/
  | noPath (kind : String)

namespace ArgumentFault

/-- The name by which logs call the fault. -/
def label : ArgumentFault → String
  | nameMissing _ => "KeyError"
  | noItem => "IndexError"
  | lacks .. => "AttributeError"
  | noParts _ | noPath _ => "TypeError"
  | tooFewParts .. | tooManyParts _ | noBytes _ => "ValueError"

/-- The words for a fault. -/
def message : ArgumentFault → String
  | nameMissing name => Literal.quote name
  | noItem => "list index out of range"
  | lacks kind operation =>
    String.join ["'", kind, "' object has no attribute '", operation, "'"]
  | noParts kind => String.join ["'", kind, "' object is not iterable"]
  | tooFewParts expected found =>
    String.join
      ["not enough values to unpack (expected ", toString expected, ", got ", toString found, ")"]
  | tooManyParts expected =>
    String.join ["too many values to unpack (expected ", toString expected, ")"]
  | noBytes index =>
    String.join
      ["non-hexadecimal number found in fromhex() arg at position ", toString index]
  | noPath kind => String.join ["expected str, bytes or os.PathLike object, not ", kind]

end ArgumentFault

/-- Why a variable of the environment **cannot be set**. -/
inductive VariableFault where
  /-- Its name or its value holds the character NUL. -/
  | nul
  /-- Its name holds an equals sign. -/
  | equalsSign
  /-- Its name is empty. -/
  | noName
  deriving DecidableEq, Repr

namespace VariableFault

/-- The name by which logs call the fault. -/
def label : VariableFault → String
  | nul | equalsSign => "ValueError"
  | noName => "OSError"

/-- The words for a fault. -/
def message : VariableFault → String
  | nul => "embedded null byte"
  | equalsSign => "illegal environment variable name"
  | noName => "[Errno 22] Invalid argument"

end VariableFault

/-- The name by which logs call what a message cannot hold. -/
def MessagePack.WriteFault.label : MessagePack.WriteFault → String
  | .numberTooLarge => "OverflowError"
  | .tooLong _ | .tooDeep => "ValueError"

/-- The words for what a message cannot hold. -/
def MessagePack.WriteFault.message : MessagePack.WriteFault → String
  | .numberTooLarge => "Integer value out of range"
  | .tooLong .text => "unicode string is too large"
  | .tooLong .binary => "bytes object is too large"
  | .tooLong .array => "list is too large"
  | .tooLong .map => "dict is too large"
  | .tooLong .extension => "EXT data is too large"
  | .tooDeep => "recursion limit exceeded."

/-- The name by which logs call what is no level. -/
def Zlib.Level.Fault.label : Zlib.Level.Fault → String
  | .unknown => "error"
  | .outOfRange => "OverflowError"
  | .noNumber => "TypeError"

/-- The words for what is no level. -/
def Zlib.Level.Fault.message : Zlib.Level.Fault → String
  | .unknown => "Bad compression level"
  | .outOfRange => "Python int too large to convert to C int"
  | .noNumber => ""

/-! ## Faults -/

/-- A failure that is **no report to the user**. -/
inductive Fault where
  /-- A point is no position. -/
  | point (fault : PointFault)
  /-- Bytes are no text. -/
  | undecodable (fault : Undecodable)
  /-- A text has no bytes. -/
  | unencodable (fault : Unencodable)
  /-- A text that is to be printed has no bytes. -/
  | unprintable (fault : Unencodable)
  /-- A name stands for no encoding. -/
  | encodingName (fault : Encoding.NameFault) (name : String) (use : Encoding.Use)
  /-- An encoding refuses a text or bytes as a whole. -/
  | unfit (fault : Encoding.Unfit) (name : String) (use : Encoding.Use)
  /-- A message cannot hold a value. -/
  | write (fault : MessagePack.WriteFault)
  /-- There is no such level of compression. -/
  | level (fault : Zlib.Level.Fault)
  /-- A whole number has more digits than are written. -/
  | tooManyDigits
  /-- An operation on a file is refused. -/
  | file (error : FileError) (path : String)
  /-- A path holds the character NUL. -/
  | nulInPath
  /-- A variable cannot be set. -/
  | environment (fault : VariableFault)
  /-- A text is no JSON, or holds too long a number. -/
  | json (text : List Char) (fault : Json.Fault)
  /-- A text is no whole number. -/
  | noNumeral (text : String)
  /-- An element of a list of pairs has a length other than two. -/
  | notAPair (index length : Nat)
  /-- A key of a list of pairs is no text. -/
  | keyWithoutText
  /-- A named value takes a name that is given already. -/
  | nameTaken (name : String)
  /-- An argument does not fit its use. -/
  | argument (fault : ArgumentFault)
  /-- A value has a form that does not fit its use. -/
  | wrongForm
  /-- The directory of a named user is not known. -/
  | noHome
  /-- Any other failure, by its kind and its words. -/
  | other (kind message : String)

namespace Fault

/-- The name by which logs call the fault. -/
def label : Fault → String
  | point _ | nulInPath | tooManyDigits | json _ (.tooManyDigits _) | noNumeral _
  | notAPair .. => "ValueError"
  | json _ (.malformed ..) => "JSONDecodeError"
  | undecodable _ => "UnicodeDecodeError"
  | unencodable _ | unprintable _ => "UnicodeEncodeError"
  | encodingName .unknown .. | encodingName .noText .. => "LookupError"
  | encodingName .refusing .. => "UnicodeError"
  | encodingName .nul .. => "ValueError"
  | unfit fault .. => fault.kind
  | write fault => fault.label
  | level fault => fault.label
  | file e _ => e.label
  | environment fault => fault.label
  | argument fault => fault.label
  | keyWithoutText => "AttributeError"
  | nameTaken _ => "KeyError"
  | wrongForm => "TypeError"
  | noHome => "RuntimeError"
  | other kind _ => kind

/-- The words for a fault. -/
def message : Fault → String
  | point fault => fault.message
  | undecodable fault => fault.message
  | unencodable fault => fault.message
  | unprintable fault =>
    String.join
      [fault.message,
       "\n*** You may need to add PYTHONIOENCODING=utf-8 to your environment ***"]
  | encodingName fault name use => fault.message name use
  | unfit fault name use => fault.message use name
  | write fault => fault.message
  | level fault => fault.message
  | file e path => e.message path
  | nulInPath => "embedded null byte"
  | environment fault => fault.message
  | argument fault => fault.message
  | tooManyDigits =>
    String.join
      ["Exceeds the limit (4300 digits) for integer string conversion; use ",
       "sys.set_int_max_str_digits() to increase the limit"]
  | json text fault => fault.message text
  | noNumeral text =>
    String.join ["invalid literal for int() with base 10: ", Literal.quote text]
  | notAPair index length =>
    String.join
      ["dictionary update sequence element #", toString index, " has length ", toString length,
       "; 2 is required"]
  | nameTaken name => Literal.quote name
  | keyWithoutText | wrongForm => ""
  | noHome => "Could not determine home directory."
  | other _ message => message

end Fault

/-- Why something **failed**. -/
inductive Failure where
  | issue (i : Issue)
  | fault (f : Fault)

namespace Failure

/-- The name by which logs call the failure. -/
def label : Failure → String
  | issue i => i.kind.label
  | fault f => f.label

/-- The words for a failure. -/
def message : Failure → String
  | issue i => i.text
  | fault f => f.message

/-- The failure is a report to the user. -/
def isIssue : Failure → Bool
  | issue _ => true
  | fault _ => false

end Failure

/-! ## Snapshots -/

/-- The issue that a refused stream gives rise to. -/
def Zlib.Fault.issue (f : Zlib.Fault) : Issue := .notCompressed f.message

/-- The issue that a refused payload gives rise to. -/
def Snapshot.Fault.issue : Snapshot.Fault → Issue
  | .version found => .version found.literal (.int Snapshot.version)
  | fault => .malformed fault.reason

end Drift
