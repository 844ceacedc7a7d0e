import ClassEnhancement.Shell.Run

/-!
# Programs of a small system

The system has a shell and a few utilities, which are found by name or in the directories of
programs.  Files of the tree are no programs.
-/

namespace ClassEnhancement
namespace Shell

/-- The utilities that are programs of their own. -/
def standalone? : String → Option (List String → State → State)
  | "cat" => some State.concatenate
  | "echo" => some State.echoPlain
  | "printf" => some State.printFormatted
  | "rm" => some State.removeAll
  | "true" => some fun _ state => state.withStatus 0
  | "false" => some fun _ state => state.withStatus 1
  | "test" => some (State.runTest "test")
  | "sh" => some (State.runShell State.runCommand)
  | _ => none

/-- Directories of programs. -/
def programDirectories : List String := ["/bin/", "/usr/bin/"]

/-- The name of a program without the directory of programs that it is in. -/
def baseName (program : String) : String :=
  let below := programDirectories.filterMap fun directory =>
    if directory.toList.isPrefixOf program.toList then
      some (String.ofList (program.toList.drop directory.length))
    else none
  below.headD program

/-- Why a program that is no utility cannot be run. -/
def refusal (tree : FileTree) (program : String) : FileError :=
  if program.toList.contains '/' then
    match tree.locate ⟨program⟩ with
    | .ok _ => .system .accessDenied
    | .error cause => cause
  else .system .notFound

/-- Runs a program. -/
def runProgram (tree : FileTree) (invocation : Invocation) :
    FileTree × Except FileError Execution :=
  let texts := invocation.program :: invocation.arguments
  if texts.any fun text => text.toList.contains '\x00' then
    (tree, .error (.reported "nul byte found in provided data"))
  else
    match standalone? (baseName invocation.program) with
    | none => (tree, .error (refusal tree invocation.program))
    | some utility =>
      let environment := invocation.environment.map fun (name, value) => (name, textFrom value)
      let start := State.initial tree invocation.input environment
      let after := utility (invocation.arguments.map textFrom) start
      (after.tree, .ok after.execution)

/-- The programs of the system. -/
def programs : Programs := ⟨runProgram⟩

end Shell
end ClassEnhancement
