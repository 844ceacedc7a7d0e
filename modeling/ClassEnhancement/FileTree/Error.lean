/-!
# Errors of file operations

Causes that the system numbers, and errors that bring their own text.
-/

namespace ClassEnhancement

/-- Causes that the system distinguishes. -/
inductive SystemError where
  /-- A component of the path does not exist. -/
  | notFound
  /-- The operation was interrupted and may be tried again. -/
  | interrupted
  /-- The operation is not permitted on this file. -/
  | accessDenied
  /-- What was to be created exists. -/
  | alreadyExists
  /-- A component on the way is no directory. -/
  | notDirectory
  /-- A directory stands where a file is needed. -/
  | isDirectory
  /-- The device is full. -/
  | noSpace
  /-- Symbolic links lead on without end. -/
  | tooManyLinks
  /-- Any other cause, by its number. -/
  | other (number : Nat)
  deriving DecidableEq, Repr

namespace SystemError

/-- Number of a cause. -/
def number : SystemError → Nat
  | notFound => 2
  | interrupted => 4
  | accessDenied => 13
  | alreadyExists => 17
  | notDirectory => 20
  | isDirectory => 21
  | noSpace => 28
  | tooManyLinks => 40
  | other number => number

/-- Causes with a name of their own. -/
def named : List SystemError :=
  [notFound, interrupted, accessDenied, alreadyExists, notDirectory, isDirectory, noSpace,
    tooManyLinks]

/-- The cause with a number. -/
def ofNumber (number : Nat) : SystemError :=
  (named.find? fun cause => cause.number == number).getD (other number)

/-- Description of a cause. -/
def description : SystemError → String
  | notFound => "No such file or directory"
  | interrupted => "Interrupted system call"
  | accessDenied => "Permission denied"
  | alreadyExists => "File exists"
  | notDirectory => "Not a directory"
  | isDirectory => "Is a directory"
  | noSpace => "No space left on device"
  | tooManyLinks => "Too many levels of symbolic links"
  | other 1 => "Operation not permitted"
  | other 5 => "Input/output error"
  | other 22 => "Invalid argument"
  | other 30 => "Read-only file system"
  | other 32 => "Broken pipe"
  | other 36 => "File name too long"
  | other 39 => "Directory not empty"
  | other number => s!"Unknown error {number}"

/-- Wording of a cause, with its number. -/
def message (cause : SystemError) : String := s!"{cause.description} (os error {cause.number})"

end SystemError

/-- Why a file operation failed. -/
inductive FileError where
  /-- The system refused. -/
  | system (cause : SystemError)
  /-- A file that should hold text is no UTF-8. -/
  | notText
  /-- The error brings its own text. -/
  | reported (text : String)
  deriving DecidableEq, Repr

/-- Wording of a file error. -/
def FileError.message : FileError → String
  | .system cause => cause.message
  | .notText => "stream did not contain valid UTF-8"
  | .reported text => text

instance : ToString FileError := ⟨FileError.message⟩

end ClassEnhancement
