import ClassEnhancement.FileTree.Operations
import ClassEnhancement.Json.Render
import ClassEnhancement.Settings.State

/-!
# The settings file

The state of a project lives in a document that other components share, one member for each.
Saving reads the document, replaces one member and writes the document back; a document that
cannot be read is never overwritten.
-/

namespace ClassEnhancement

/-- Why settings could not be used. -/
inductive SettingsError where
  /-- The file exists and cannot be read. -/
  | unreadable (path : FilePath) (cause : FileError)
  /-- The file cannot be written. -/
  | unwritable (path : FilePath) (cause : FileError)
  /-- The file is not the document expected. -/
  | invalid (path : FilePath)
  deriving DecidableEq, Repr

/-- Wording of a settings error. -/
def SettingsError.message : SettingsError → String
  | .unreadable path cause => s!"failed to read settings {path.text}: {cause.message}"
  | .unwritable path cause => s!"failed to write settings {path.text}: {cause.message}"
  | .invalid path => s!"invalid settings {path.text}"

/-- A settings file. -/
structure SettingsStore where
  /-- Path of the file. -/
  path : FilePath
  deriving DecidableEq, Repr

namespace SettingsStore

/-- Member of the document that holds the state. -/
def stateKey : String := "avajeTypeQueryEnhancement"

/-- Members of the document, or nothing where there is no file. -/
def readDocument (store : SettingsStore) (tree : FileTree) :
    Except SettingsError (Option (List (String × JsonValue))) :=
  match tree.readText store.path with
  | .error (.system .notFound) => .ok none
  | .error cause => .error (.unreadable store.path cause)
  | .ok text =>
    match JsonValue.parseMembers? text with
    | some members => .ok (some members)
    | none => .error (.invalid store.path)

/-- The stored state, or nothing where none was stored. -/
def load (store : SettingsStore) (tree : FileTree) :
    Except SettingsError (Option EnhancementState) :=
  match store.readDocument tree with
  | .error error => .error error
  | .ok none => .ok none
  | .ok (some members) =>
    match members.lookup stateKey with
    | none => .ok none
    | some value =>
      match EnhancementState.ofJson? value with
      | some state => .ok (some state)
      | none => .error (.invalid store.path)

/-- A document with the state put into it. -/
def withState (state : EnhancementState) (members : List (String × JsonValue)) :
    List (String × JsonValue) :=
  JsonValue.putMember stateKey state.toJson members

/-- Text of a document with the state put into it. -/
def documentText (state : EnhancementState) (members : List (String × JsonValue)) : String :=
  (JsonValue.object (withState state members)).render

/-- Creates the directories above the file. -/
def prepare (store : SettingsStore) (tree : FileTree) : FileTree × Except FileError Unit :=
  match store.path.parent? with
  | some parent => tree.createDirectories parent
  | none => (tree, .ok ())

/-- Stores a state.  The tree is as it was when the document cannot be read. -/
def save (store : SettingsStore) (tree : FileTree) (state : EnhancementState) :
    FileTree × Except SettingsError Unit :=
  match store.readDocument tree with
  | .error error => (tree, .error error)
  | .ok document =>
    match store.prepare tree with
    | (prepared, .error cause) => (prepared, .error (.unwritable store.path cause))
    | (prepared, .ok ()) =>
      match prepared.write store.path (Utf8.encode (documentText state (document.getD []))) with
      | .error cause => (prepared, .error (.unwritable store.path cause))
      | .ok written => (written, .ok ())

end SettingsStore
end ClassEnhancement
