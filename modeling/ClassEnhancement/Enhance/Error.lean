import ClassEnhancement.FilePath
import ClassEnhancement.FileTree.Error

/-!
# Errors of an enhancement

A class may fail to be transformed; such an error, a refused setup and a panic each end a whole
batch.  A batch error is reported with the name of its kind, its text and the texts of its causes,
innermost last.
-/

namespace ClassEnhancement

/-- Why one class could not be transformed. -/
inductive TransformError where
  /-- The compiled file cannot be opened. -/
  | cannotOpen (path : FilePath) (cause : FileError)
  /-- Reading the octets of the class failed midway. -/
  | cannotRead (name : String) (cause : FileError)
  /-- The transformer rejected the format of the class file. -/
  | illegalFormat (name reason : String)
  /-- The transformer failed for a reason of its own. -/
  | agent (name reason : String)
  deriving DecidableEq, Repr

namespace TransformError

/-- Name of the kind of error. -/
def kind : TransformError → String
  | cannotOpen _ _ => "TransformError::Open"
  | cannotRead _ _ => "TransformError::Read"
  | illegalFormat _ _ => "TransformError::IllegalClassFormat"
  | agent _ _ => "TransformError::Agent"

/-- Wording of the error. -/
def message : TransformError → String
  | cannotOpen path cause => s!"cannot open {path.text}: {cause.message}"
  | cannotRead name cause => s!"io error reading class {name}: {cause.message}"
  | illegalFormat name reason => s!"illegal class format for {name}: {reason}"
  | agent name reason => s!"transformer failed on {name}: {reason}"

/-- Texts of the causes, innermost last. -/
def causes : TransformError → List String
  | cannotOpen _ cause => [cause.message]
  | cannotRead _ cause => [cause.message]
  | _ => []

end TransformError

/-- What ends a batch. -/
inductive EnhanceError where
  /-- A class could not be transformed. -/
  | transform (error : TransformError)
  /-- No transformer could be created. -/
  | setup (reason : String)
  /-- The transformer panicked. -/
  | panicked (reason : String)
  deriving DecidableEq, Repr

namespace EnhanceError

/-- Name of the kind of error. -/
def kind : EnhanceError → String
  | transform error => error.kind
  | setup _ => "EnhanceError::TransformerSetup"
  | panicked _ => "EnhanceError::Panicked"

/-- Wording of the error. -/
def message : EnhanceError → String
  | transform error => s!"transform error: {error.message}"
  | setup reason => s!"transformer setup failed: {reason}"
  | panicked reason => s!"panic during enhancement: {reason}"

/-- Texts of the causes, innermost last, between brackets. -/
def trace : EnhanceError → String
  | transform error => "[" ++ ", ".intercalate (error.message :: error.causes) ++ "]"
  | _ => "[]"

/-- The error as a batch reports it. -/
def report (error : EnhanceError) : String := s!"{error.kind}:{error.message}{error.trace}"

end EnhanceError
end ClassEnhancement
