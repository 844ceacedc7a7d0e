import ClassEnhancement.Shell.Expansion
import ClassEnhancement.Shell.Format

/-!
# Utilities

The commands that scripts are made of: copying files and input, formatted output, removing files,
tests, variables, and ending loops, functions and the script.
-/

namespace ClassEnhancement
namespace Shell
namespace State

/-- Wording of a failed file operation, without its number. -/
def reasonOf : FileError → String
  | .system cause => cause.description
  | cause => cause.message

/-! ## Copying -/

/-- Writes all input that is left. -/
def copyInput (state : State) : State := { state.write state.input with input := [] }

/-- Writes a file, or the input under its own names. -/
def copy (state : State) (path : String) : State :=
  if path = "-" ∨ path = "/dev/stdin" then state.copyInput
  else if path = "/dev/null" then state
  else
    match state.tree.read (pathOfText path) with
    | .ok bytes => state.write bytes
    | .error cause => state.complain s!"cat: {path}: {reasonOf cause}" 1

/-- Writes files one after another, or the input if no file is named. -/
def concatenate (arguments : List String) (state : State) : State :=
  let paths := arguments.filter fun argument => argument ≠ "-u" ∧ argument ≠ "--"
  if paths.isEmpty then copyInput (state.withStatus 0)
  else paths.foldl copy (state.withStatus 0)

/-! ## Output -/

/-- Writes arguments on a line of their own. -/
def echo (arguments : List String) (state : State) : State :=
  let silent := arguments.head? = some "-n"
  let listed := if silent then arguments.tail else arguments
  let (text, ended) := Format.unescape (" ".intercalate listed)
  (state.writeText (if silent ∨ ended then text else text ++ "\n")).withStatus 0

/-- Writes arguments as they are on a line of their own. -/
def echoPlain (arguments : List String) (state : State) : State :=
  let silent := arguments.head? = some "-n"
  let text := " ".intercalate (if silent then arguments.tail else arguments)
  (state.writeText (if silent then text else text ++ "\n")).withStatus 0

/-- Writes formatted arguments. -/
def printFormatted (arguments : List String) (state : State) : State :=
  match arguments with
  | [] => state.complainAt "printf: usage: printf format [arg ...]" 2
  | format :: rest =>
    if format = "--" then
      match rest with
      | [] => state.complainAt "printf: usage: printf format [arg ...]" 2
      | format :: rest => written format rest
    else
      match format.toList with
      | '-' :: letter :: _ => state.complainAt s!"printf: Illegal option -{letter}" 2
      | _ => written format rest
where
  /-- Writes a format with arguments. -/
  written (format : String) (arguments : List String) : State :=
    let formatted := Format.apply format arguments
    let state := formatted.errors.foldl
      (fun state error => state.complainAt s!"printf: {error}" 1) state
    (state.writeText formatted.output).withStatus formatted.status

/-! ## Removing -/

/-- Whether an argument is made of options. -/
def isOption (argument : String) : Bool :=
  match argument.toList with
  | '-' :: _ :: _ => true
  | _ => false

/-- Removes what a path names; a directory only together with its contents. -/
def removeOne (force deep : Bool) (state : State) (name : String) : State :=
  let path := pathOfText name
  let refuse (reason : String) : State :=
    state.complain s!"rm: cannot remove '{name}': {reason}" 1
  match state.tree.remove path with
  | none =>
    if force then state
    else
      match state.tree.locate path with
      | .error cause => refuse (reasonOf cause)
      | .ok _ => refuse (SystemError.description .notDirectory)
  | some removed =>
    let isDirectory : Bool :=
      match state.tree.lastStep path with
      | .ok (directory, name) => state.tree.lookup? (directory ++ [name]) == some .directory
      | .error _ => false
    if isDirectory && !deep then refuse (SystemError.description .isDirectory)
    else { state with tree := removed }

/-- Removes files. -/
def removeAll (arguments : List String) (state : State) : State :=
  let options := (arguments.takeWhile isOption).flatMap fun option => option.toList
  let paths := (arguments.dropWhile isOption).filter (· ≠ "--")
  let force := options.contains 'f'
  let deep := options.contains 'r' || options.contains 'R'
  if paths.isEmpty ∧ !force then
    (state.complain "rm: missing operand" 1).complain
      "Try 'rm --help' for more information." 1
  else paths.foldl (removeOne force deep) (state.withStatus 0)

/-! ## Tests -/

/-- A comparison of numbers, by its name. -/
def comparison? : String → Option (Int → Int → Bool)
  | "-eq" => some fun left right => left == right
  | "-ne" => some fun left right => left != right
  | "-lt" => some fun left right => left < right
  | "-le" => some fun left right => left ≤ right
  | "-gt" => some fun left right => right < left
  | "-ge" => some fun left right => right ≤ left
  | _ => none

/-- Whether a text or a file has a property, by the name of the property. -/
def property (state : State) (name operand : String) : Bool :=
  let path := pathOfText operand
  match name with
  | "-n" => operand ≠ ""
  | "-z" => operand = ""
  | "-e" => (state.tree.find? path).isSome
  | "-f" => state.tree.isFile path
  | "-d" => state.tree.isDirectory path
  | "-r" => (state.tree.find? path).isSome
  | "-w" => (state.tree.find? path).isSome
  | "-s" =>
    match state.tree.find? path with
    | some (.file content) => !content.isEmpty
    | some _ => true
    | none => false
  | _ => false

/-- The number that a text is, for a comparison. -/
def numberFor (text : String) : Except String Int :=
  let trimmed := (text.toList.dropWhile Char.isWhitespace).reverse.dropWhile Char.isWhitespace
  match (String.ofList trimmed.reverse).toInt? with
  | some value => .ok value
  | none => .error s!"Illegal number: {text}"

/-- Whether a test of few words holds, or why it makes no sense. -/
def plainTest (state : State) : List String → Except String Bool
  | [] => .ok false
  | [text] => .ok (text ≠ "")
  | [name, operand] =>
    if name = "!" then .ok (operand = "") else .ok (state.property name operand)
  | [left, name, right] =>
    match comparison? name with
    | some compare => do
      let first ← numberFor left
      let second ← numberFor right
      return compare first second
    | none =>
      if name = "=" then .ok (left = right)
      else if name = "!=" then .ok (left ≠ right)
      else if left = "!" then .ok (!state.property name right)
      else .error s!"{left}: unexpected operator"
  | "!" :: rest => (plainTest state rest).map (!·)
  | _ => .error "too many arguments"

/-- Whether a test holds, put together from others. -/
def test (state : State) (words : List String) : Except String Bool :=
  let combine (parts : List (List String)) (join : Bool → Bool → Bool) (start : Bool) :
      Except String Bool :=
    parts.foldlM (fun result part => do return join result (← state.plainTest part)) start
  if words.length ≤ 4 then state.plainTest words
  else if words.contains "-o" then
    (words.splitOn "-o").foldlM
      (fun result part => do return result || (← combine (part.splitOn "-a") and true)) false
  else combine (words.splitOn "-a") and true

/-- Sets the status by a test. -/
def runTest (name : String) (words : List String) (state : State) : State :=
  match state.test words with
  | .ok result => state.holds result
  | .error reason => state.complainAt s!"{name}: {reason}" 2

/-! ## Ending loops, functions and the script -/

/-- The number that an argument gives, or a number where there is no argument. -/
def numberOr (fallback : Nat) (arguments : List String) : Option Nat :=
  match arguments with
  | [] => some fallback
  | text :: _ => text.toNat?

/-- Ends the script because the first argument is no number. -/
def failNumber (state : State) (name : String) (arguments : List String) : State :=
  let text := arguments.headD ""
  state.fail s!"{name}: Illegal number: {text}"

/-- Ends the script with the number given, or with the last status. -/
def exit (arguments : List String) (state : State) : State :=
  match numberOr state.status arguments with
  | some code => state.finish (.code (code % 256))
  | none => state.failNumber "exit" arguments

/-- Ends the function that runs, or the script where none does. -/
def returnFrom (arguments : List String) (state : State) : State :=
  match numberOr state.status arguments with
  | some code => { state.withStatus (code % 256) with ended := some .function }
  | none => state.failNumber "return" arguments

/-- Ends a number of loops, or goes on with the next round. -/
def leaveLoops (again : Bool) (arguments : List String) (state : State) : State :=
  let name := if again then "continue" else "break"
  match numberOr 1 arguments with
  | none => state.failNumber name arguments
  | some 0 => state.failNumber name arguments
  | some count =>
    if state.loops = 0 then state.withStatus 0
    else { state.withStatus 0 with ended := some (.loop (min count state.loops) again) }

/-- The signal that a text names by its number or name. -/
def signalOf? (text : String) : Option Nat :=
  match text.toNat? with
  | some number => some number
  | none =>
    let names := ExitStatus.signalNames
    let position := names.idxOf (if names.contains text then text else "SIG" ++ text)
    if position < names.length then some (position + 1) else none

/-- Sends a signal; the script can only end itself. -/
def kill (arguments : List String) (state : State) : State :=
  let (signal, targets) :=
    match arguments with
    | "-s" :: name :: rest => (signalOf? name, rest)
    | argument :: rest =>
      if isOption argument then (signalOf? (String.ofList (argument.toList.drop 1)), rest)
      else (some 15, arguments)
    | [] => (some 15, [])
  match signal with
  | none => state.complainAt "kill: Illegal option" 2
  | some number =>
    if targets = [processNumber] then
      if number = 0 then state.withStatus 0 else state.finish (.signal number)
    else state.complainAt "kill: No such process" 1

/-! ## Variables and arguments -/

/-- Drops arguments of the script. -/
def shift (arguments : List String) (state : State) : State :=
  match numberOr 1 arguments with
  | none => state.failNumber "shift" arguments
  | some count =>
    if count ≤ state.arguments.length then
      { state with arguments := state.arguments.drop count, status := 0 }
    else state.fail "shift: can't shift that many"

/-- Changes options and arguments of the script. -/
def change (arguments : List String) (state : State) : State :=
  match arguments with
  | [] => state.withStatus 0
  | argument :: rest =>
    let letters := argument.toList
    if argument = "--" then { state with arguments := rest, status := 0 }
    else if isOption argument then
      change rest { state with options := state.options.switch letters true }
    else if letters.head? = some '+' then
      change rest { state with options := state.options.switch letters false }
    else { state with arguments := argument :: rest, status := 0 }

/-- Name and value of an argument that is an assignment. -/
def assignmentIn (argument : String) : String × Option String :=
  match argument.toList.dropWhile (· != '=') with
  | _ :: value =>
    (String.ofList (argument.toList.takeWhile (· != '=')), some (String.ofList value))
  | [] => (argument, none)

/-- Makes assignments. -/
def declare (arguments : List String) (state : State) : State :=
  arguments.foldl
    (fun state argument =>
      match assignmentIn argument with
      | (name, some value) => state.setVariable name value
      | (_, none) => state)
    (state.withStatus 0)

/-- Makes assignments and lets programs get the variables. -/
def exportAll (arguments : List String) (state : State) : State :=
  let declared := declare arguments state
  { declared with
    exported := declared.exported ++ arguments.map fun argument => (assignmentIn argument).1 }

/-- Forgets variables and functions. -/
def unset (arguments : List String) (state : State) : State :=
  let functionsOnly := arguments.contains "-f"
  (arguments.filter fun argument => !isOption argument).foldl
    (fun state name =>
      if functionsOnly then { state with functions := state.functions.erase name }
      else { state with bindings := state.bindings.erase name })
    (state.withStatus 0)

/-! ## Reading lines -/

/-- The next line of a text with whether each character is quoted, and the text after the line, if
the line has an end.  Unless it is raw, a backslash quotes a character and joins lines. -/
def lineAt (raw : Bool) : List Char → Marked × Option (List Char)
  | [] => ([], none)
  | '\n' :: rest => ([], some rest)
  | '\\' :: c :: rest =>
    if raw then
      let (line, after) := lineAt raw (c :: rest)
      (('\\', false) :: line, after)
    else
      let (line, after) := lineAt raw rest
      (if c = '\n' then line else (c, true) :: line, after)
  | c :: rest =>
    let (line, after) := lineAt raw rest
    ((c, false) :: line, after)

/-- Values for a number of variables: fields of a line, the last one with all that is left. -/
def valuesOf (separators : List Char) : Nat → Marked → List String
  | 0, _ => []
  | count + 1, line =>
    let isSeparator (mark : Char × Bool) : Bool := !mark.2 && separators.contains mark.1
    let isBlank (mark : Char × Bool) : Bool := isSeparator mark && " \t\n".toList.contains mark.1
    let line := line.dropWhile isBlank
    if count = 0 then [Marked.text (line.reverse.dropWhile isBlank).reverse]
    else
      let field := line.takeWhile (!isSeparator ·)
      let rest := (line.drop field.length).dropWhile isBlank
      let rest :=
        match rest with
        | mark :: more => if isSeparator mark then more else rest
        | [] => []
      Marked.text field :: valuesOf separators count rest

/-- Reads a line of the input into variables. -/
def read (arguments : List String) (state : State) : State :=
  let raw := (arguments.takeWhile isOption).any fun option => option.toList.contains 'r'
  match arguments.dropWhile isOption with
  | [] => state.complainAt "read: arg count" 2
  | names =>
    let (line, after) := lineAt raw (textOfBytes state.input).toList
    let values := valuesOf state.separators names.length line
    let assigned := (names.zip values).foldl
      (fun state (name, value) => state.setVariable name value) state
    { assigned with
      input := bytesOfText (String.ofList (after.getD []))
      status := if after.isSome then 0 else 1 }

/-! ## All of them -/

/-- A utility by its name. -/
def utility? : String → Option (List String → State → State)
  | "cat" => some concatenate
  | "echo" => some echo
  | "printf" => some printFormatted
  | "rm" => some removeAll
  | "true" => some fun _ state => state.withStatus 0
  | ":" => some fun _ state => state.withStatus 0
  | "wait" => some fun _ state => state.withStatus 0
  | "false" => some fun _ state => state.withStatus 1
  | "test" => some (runTest "test")
  | "[" => some fun arguments state =>
    if arguments.getLast? = some "]" then runTest "[" arguments.dropLast state
    else state.complainAt "[: missing ]" 2
  | "exit" => some exit
  | "return" => some returnFrom
  | "break" => some (leaveLoops false)
  | "continue" => some (leaveLoops true)
  | "kill" => some kill
  | "shift" => some shift
  | "set" => some change
  | "export" => some exportAll
  | "local" => some declare
  | "readonly" => some declare
  | "unset" => some unset
  | "read" => some read
  | _ => none

/-- Runs a utility; one that does not exist is an error on a line of the script. -/
def runUtility (name : String) (arguments : List String) (state : State) : State :=
  match utility? name with
  | some utility => utility arguments state
  | none =>
    if name.toList.contains '/' ∧ (state.tree.find? (pathOfText name)).isSome then
      state.complainAt s!"{name}: Permission denied" 126
    else state.complainAt s!"{name}: not found" 127

end State
end Shell
end ClassEnhancement
