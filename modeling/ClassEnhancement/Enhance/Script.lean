import ClassEnhancement.Enhance.Marking

/-!
# Scripts before the marking transformer

A script lists, for chosen classes, actions that a transformer takes before anything else: it logs,
loads other classes, changes files, or ends the call in one way or another.  Where no action ends
the call, the marking transformer goes on.
-/

namespace ClassEnhancement

/-- One action of a script. -/
inductive ScriptAction where
  /-- Logs output. -/
  | log (output : String)
  /-- Loads a class by its slash spelling, and records the answer. -/
  | load (classPath : String)
  /-- Puts a file, a directory or a link at a path. -/
  | place (path : FilePath) (entry : Entry)
  /-- Removes what a path names. -/
  | remove (path : FilePath)
  /-- Fails. -/
  | fail (reason : String)
  /-- Rejects the format of the class. -/
  | reject (reason : String)
  /-- Panics, with a payload that is a text or something else. -/
  | panic (payload : Option String)
  /-- Declines the class. -/
  | decline
  /-- Gives the bytes of the class back. -/
  | same
  /-- Gives other bytes. -/
  | replace (bytes : Bytes)
  /-- Gives the bytes of the class back in reverse. -/
  | reverse
  deriving DecidableEq, Repr

/-- What a scripted transformer was asked, and what its script loaded. -/
structure ScriptRecord where
  /-- The record of the marking transformer. -/
  marking : MarkingRecord
  /-- Classes that scripts loaded, with the answers. -/
  loads : List (String × Option Bytes)
  deriving DecidableEq

namespace ScriptRecord

/-- The record of a transformer that was asked nothing. -/
def blank : ScriptRecord := ⟨.blank, []⟩

instance : Inhabited ScriptRecord := ⟨blank⟩

end ScriptRecord

/-- Actions for each class of a script, and the transformer behind it. -/
structure Script where
  /-- Actions by the dotted name of a class. -/
  actions : OrderedMap String (List ScriptAction)
  /-- The transformer behind the script. -/
  marking : Marking

namespace Script

/-- Text of a panic. -/
def panicText (payload : Option String) : String := payload.getD unknownPanic

/-- A tree with an entry put at a path, or the tree as it was where that fails. -/
def placeIn (path : FilePath) (entry : Entry) (tree : FileTree) : FileTree :=
  (tree.place path entry).toOption.getD tree

/-- A tree without what a path names. -/
def removeIn (path : FilePath) (tree : FileTree) : FileTree := (tree.remove path).getD tree

/-- Takes actions in order, and then goes on unless one of them ends the call. -/
def play (name : ClassName) (bytes : Bytes) (next : ScriptRecord → Work ScriptRecord) :
    List ScriptAction → ScriptRecord → Work ScriptRecord
  | [], record => next record
  | action :: rest, record =>
    match action with
    | .log output => .log output (play name bytes next rest record)
    | .load classPath =>
      .load classPath fun answer =>
        play name bytes next rest { record with loads := record.loads ++ [(classPath, answer)] }
    | .place path entry => .touch (placeIn path entry) fun _ => play name bytes next rest record
    | .remove path => .touch (removeIn path) fun _ => play name bytes next rest record
    | .fail reason => .finish record (.failed (.agent name.dotted reason))
    | .reject reason => .finish record (.failed (.illegalFormat name.dotted reason))
    | .panic payload => .finish record (.panicked (panicText payload))
    | .decline => .finish record .declined
    | .same => .finish record (.replaced bytes)
    | .replace bytes => .finish record (.replaced bytes)
    | .reverse => .finish record (.replaced bytes.reverse)

/-- Work on a larger state. -/
def withMarking (record : ScriptRecord) : Work MarkingRecord → Work ScriptRecord
  | .finish marking outcome => .finish { record with marking } outcome
  | .log output next => .log output (withMarking record next)
  | .load classPath next => .load classPath fun answer => withMarking record (next answer)
  | .touch change next => .touch change fun tree => withMarking record (next tree)

/-- The work on one class. -/
def transform (script : Script) (packages : PackageSet) (record : ScriptRecord) (name : ClassName)
    (bytes : Bytes) : Work ScriptRecord :=
  play name bytes
    (fun record =>
      withMarking record (script.marking.transform packages record.marking name bytes))
    ((script.actions.find? name.dotted).getD []) record

/-- Creates scripted transformers. -/
def factory (script : Script) : TransformerFactory ScriptRecord where
  create record options packages :=
    match script.marking.factory.create record.marking options packages with
    | (marking, .ready _) =>
      ({ record with marking },
        .ready ⟨fun record name bytes => script.transform packages record name bytes⟩)
    | (marking, .refused error) => ({ record with marking }, .refused error)
    | (marking, .panicked reason) => ({ record with marking }, .panicked reason)

end Script
end ClassEnhancement
