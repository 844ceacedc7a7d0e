import ClassEnhancement.Enhance.Transformer
import ClassEnhancement.Program.Basic

/-!
# Transformers from commands

A command is run once for each class.  It gets the dotted name of the class as its last argument,
the bytes of the class as its input, and the packages and options in its environment.  Its output,
unless empty, is the new class; its error output goes to the log; and an end other than success is
an error.
-/

namespace ClassEnhancement

/-- Words of a command line; none of them means that no command is configured. -/
structure TransformCommand where
  /-- The program and its arguments. -/
  words : List String
  deriving DecidableEq, Repr

namespace TransformCommand

/-- The command of a line, split at blanks. -/
def ofLine (line : String) : TransformCommand := ⟨(Text.words line.toList).map String.ofList⟩

/-- Variable that carries the packages. -/
def packagesVariable : String := "TQE_PACKAGES"

/-- Variable that carries the options. -/
def optionsVariable : String := "TQE_AGENT"

/-- The request for one class. -/
def invocation (program : String) (arguments : List String) (options : AgentOptions)
    (packages : PackageSet) (name : ClassName) (bytes : Bytes) : Invocation where
  program
  arguments := arguments ++ [name.dotted]
  environment := [(packagesVariable, packages.wireForm), (optionsVariable, options.arguments)]
  input := bytes

/-- What the end of a program means for the class. -/
def outcome (program : String) (name : ClassName) (execution : Execution) : Outcome :=
  if execution.status.succeeded then
    if execution.output.isEmpty then .declined else .replaced execution.output
  else .failed (.agent name.dotted s!"{program} exited with {execution.status.message}")

/-- Work that logs the error output of a program, if there is any, and goes on. -/
def logged {σ : Type} (errors : Bytes) (next : Work σ) : Work σ :=
  let text := Utf8.decodeLenient errors
  if (Text.trim text.toList).isEmpty then next else .log text next

/-- The work on one class after the program has run. -/
def conclude {σ : Type} (program : String) (state : σ) (name : ClassName) :
    Except FileError Execution → Work σ
  | .error cause =>
    .finish state (.failed (.agent name.dotted s!"cannot run {program}: {cause.message}"))
  | .ok execution => logged execution.errors (.finish state (outcome program name execution))

/-- The work on one class: the program may change files. -/
def transform {σ : Type} (programs : Programs) (program : String) (state : σ) (name : ClassName)
    (request : Invocation) : Work σ :=
  .touch (fun tree => (programs.run tree request).1) fun tree =>
    conclude program state name (programs.run tree request).2

/-- Creates transformers that run the command. -/
def factory {σ : Type} (programs : Programs) (command : TransformCommand) :
    TransformerFactory σ where
  create state options packages :=
    match command.words with
    | [] => (state, .refused (.setup "no transformer command configured"))
    | program :: arguments =>
      (state,
        .ready ⟨fun state name bytes =>
          transform programs program state name
            (invocation program arguments options packages name bytes)⟩)

end TransformCommand
end ClassEnhancement
