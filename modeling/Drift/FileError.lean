import Drift.Literal

/-!
# File errors

* `FileError` — why an operation on a file is refused.
* `FileError.text`, `FileError.message` — the system's words for it, without and with the path.
-/

namespace Drift

/-- Why an operation on a file is **refused**. -/
inductive FileError where
  | noEntry
  | busy
  | exists
  | notDirectory
  | isDirectory
  | nameTooLong
  | tooManyLinks
  /-- None of the names tried for a new file is free. -/
  | noFreeName
  deriving DecidableEq, Repr

namespace FileError

/-- The system's number. -/
def number : FileError → Nat
  | noEntry => 2
  | busy => 16
  | .exists | noFreeName => 17
  | notDirectory => 20
  | isDirectory => 21
  | nameTooLong => 36
  | tooManyLinks => 40

/-- The system's words. -/
def text : FileError → String
  | noEntry => "No such file or directory"
  | busy => "Device or resource busy"
  | .exists => "File exists"
  | notDirectory => "Not a directory"
  | isDirectory => "Is a directory"
  | nameTooLong => "File name too long"
  | tooManyLinks => "Too many levels of symbolic links"
  | noFreeName => "No usable temporary file name found"

/-- The number and the words. -/
def numbered (e : FileError) : String := String.join ["[Errno ", toString e.number, "] ", e.text]

/-- The number, the words and the path. -/
def message (e : FileError) (path : String) : String :=
  e.numbered ++ ": " ++ Literal.quote path

/-- The name by which reports call the error. -/
def label : FileError → String
  | noEntry => "FileNotFoundError"
  | .exists | noFreeName => "FileExistsError"
  | notDirectory => "NotADirectoryError"
  | isDirectory => "IsADirectoryError"
  | busy | nameTooLong | tooManyLinks => "OSError"

end FileError

end Drift
