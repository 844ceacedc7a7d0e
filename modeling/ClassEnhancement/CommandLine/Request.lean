import ClassEnhancement.FilePath

/-!
# Requests of the command line

A command line names a subcommand and its arguments.  Options come in any order and at most once,
before, between or after other arguments; after two hyphens everything is an argument.  A request
for help ends the reading where it stands.
-/

namespace ClassEnhancement
namespace CommandLine

/-- The subcommands. -/
inductive Subcommand where
  /-- Enhances compiled classes. -/
  | enhance
  /-- Switches the enhancement on. -/
  | enable
  /-- Switches the enhancement off. -/
  | disable
  /-- Tells whether the enhancement is on. -/
  | status
  /-- Tells the packages to enhance. -/
  | packages
  deriving DecidableEq, Repr

namespace Subcommand

/-- All subcommands in the order of the help. -/
def all : List Subcommand := [enhance, enable, disable, status, packages]

/-- Name of a subcommand. -/
def name : Subcommand → String
  | enhance => "enhance"
  | enable => "enable"
  | disable => "disable"
  | status => "status"
  | packages => "packages"

/-- The subcommand of a name. -/
def ofName? (name : String) : Option Subcommand := all.find? fun command => command.name == name

@[simp]
theorem ofName?_name (command : Subcommand) : ofName? command.name = some command := by
  cases command <;> rfl

end Subcommand

/-- What help is asked for. -/
inductive HelpTopic where
  /-- The whole program. -/
  | program
  /-- A subcommand. -/
  | subcommand (command : Subcommand)
  /-- The help itself. -/
  | help
  deriving DecidableEq, Repr

/-- The project that a request is about. -/
structure Target where
  /-- Directory of the project. -/
  root : FilePath
  /-- A settings file to use in place of the one in the directory. -/
  config : Option FilePath
  deriving DecidableEq, Repr

/-- A request. -/
inductive Request where
  /-- Enhances compiled classes with a transformer command, even if the enhancement is off when
  that is forced. -/
  | enhance (target : Target) (transformer : Option String) (force : Bool)
      (classes : List FilePath)
  /-- Switches the enhancement on or off. -/
  | switch (target : Target) (on : Bool)
  /-- Tells whether the enhancement is on. -/
  | status (target : Target)
  /-- Tells the packages to enhance. -/
  | packages (target : Target)
  /-- Explains something. -/
  | help (topic : HelpTopic)
  /-- Tells the version. -/
  | version
  deriving DecidableEq, Repr

/-! ## Options -/

/-- Options with a value. -/
inductive ValueOption where
  /-- The directory of the project. -/
  | project
  /-- The settings file. -/
  | config
  /-- The transformer command. -/
  | transformer
  deriving DecidableEq, Repr

/-- What the arguments of a subcommand have given so far. -/
structure Given where
  /-- Values by option. -/
  values : List (ValueOption × String)
  /-- Whether the enhancement is forced. -/
  force : Bool
  /-- Arguments that are no options. -/
  operands : List String
  deriving DecidableEq, Repr

/-- What the arguments of a subcommand come to. -/
inductive Reading where
  /-- Help is asked for. -/
  | help
  /-- All arguments are read. -/
  | given (given : Given)
  deriving DecidableEq, Repr

/-- The form of one argument. -/
inductive Form where
  /-- Two hyphens. -/
  | separator
  /-- The help option. -/
  | help
  /-- The option that forces. -/
  | force
  /-- An option, with its value if that is attached. -/
  | option (option : ValueOption) (value : Option String)
  /-- No option. -/
  | operand
  /-- An option that there is not, or not so. -/
  | unknown
  deriving DecidableEq, Repr

namespace Subcommand

/-- Whether a subcommand takes a transformer, class files and the option that forces. -/
def isEnhance (command : Subcommand) : Bool := command == enhance

/-- The option of a long name. -/
def longOption? (command : Subcommand) (name : String) : Option ValueOption :=
  match name with
  | "project" => some .project
  | "config" => some .config
  | "transformer" => if command.isEnhance then some .transformer else none
  | _ => none

/-- The option of a letter. -/
def shortOption? (command : Subcommand) (letter : Char) : Option ValueOption :=
  match letter with
  | 'p' => some .project
  | 't' => if command.isEnhance then some .transformer else none
  | _ => none

/-- The form of an argument that begins with two hyphens, given the rest of it. -/
def longForm (command : Subcommand) (rest : List Char) : Form :=
  let name := String.ofList (rest.takeWhile (· != '='))
  let value : Option String :=
    match rest.dropWhile (· != '=') with
    | '=' :: value => some (String.ofList value)
    | _ => none
  if name = "help" ∧ value = none then .help
  else if name = "force" ∧ value = none ∧ command.isEnhance then .force
  else
    match command.longOption? name with
    | some option => .option option value
    | none => .unknown

/-- The form of an argument that begins with one hyphen and a letter, given what follows. -/
def shortForm (command : Subcommand) (letter : Char) (rest : List Char) : Form :=
  if letter = 'h' then .help
  else
    match command.shortOption? letter, rest with
    | none, _ => .unknown
    | some option, [] => .option option none
    | some option, '=' :: value => .option option (some (String.ofList value))
    | some option, value => .option option (some (String.ofList value))

/-- The form of an argument. -/
def formOf (command : Subcommand) (argument : String) : Form :=
  match argument.toList with
  | ['-', '-'] => .separator
  | '-' :: '-' :: rest => command.longForm rest
  | '-' :: letter :: rest => command.shortForm letter rest
  | _ => .operand

end Subcommand

/-- Whether an argument can be the value of the option before it. -/
def isValue (argument : String) : Bool :=
  match argument.toList with
  | '-' :: _ :: _ => false
  | _ => true

namespace Given

/-- Nothing. -/
def nothing : Given := ⟨[], false, []⟩

/-- Adds a value.  An option is given once, and a path is not empty. -/
def addValue? (given : Given) (option : ValueOption) (value : String) : Option Given :=
  if (given.values.lookup option).isSome then none
  else if option ≠ .transformer ∧ value = "" then none
  else some { given with values := given.values ++ [(option, value)] }

/-- Adds an argument that is no option; only class files are taken, and none is empty. -/
def addOperand? (command : Subcommand) (given : Given) (operand : String) : Option Given :=
  if command.isEnhance ∧ operand ≠ "" then
    some { given with operands := given.operands ++ [operand] }
  else none

/-- Adds the option that forces, which is given once. -/
def addForce? (given : Given) : Option Given :=
  if given.force then none else some { given with force := true }

/-- Reads the arguments of a subcommand in order. -/
def read (command : Subcommand) (given : Given) : List String → Option Reading
  | [] => some (.given given)
  | argument :: rest =>
    match command.formOf argument with
    | .separator => (rest.foldlM (addOperand? command) given).map .given
    | .help => some .help
    | .force => given.addForce?.bind fun given => read command given rest
    | .unknown => none
    | .operand => (addOperand? command given argument).bind fun given => read command given rest
    | .option option (some value) =>
      (given.addValue? option value).bind fun given => read command given rest
    | .option option none =>
      match rest with
      | [] => none
      | value :: more =>
        if isValue value then
          (given.addValue? option value).bind fun given => read command given more
        else none

/-- The project that was named, or the working directory. -/
def target (given : Given) : Target where
  root := ⟨(given.values.lookup .project).getD "."⟩
  config := (given.values.lookup .config).map FilePath.mk

/-- The request of a subcommand.  There is no enhancement without class files. -/
def request? (command : Subcommand) (given : Given) : Option Request :=
  match command with
  | .enhance =>
    if given.operands.isEmpty then none
    else
      some (.enhance given.target (given.values.lookup .transformer) given.force
        (given.operands.map FilePath.mk))
  | .enable => some (.switch given.target true)
  | .disable => some (.switch given.target false)
  | .status => some (.status given.target)
  | .packages => some (.packages given.target)

end Given

/-! ## Whole command lines -/

/-- The request for help on subcommands. -/
def helpRequest? : List String → Option Request
  | [] => some (.help .program)
  | [name] =>
    if name = "help" then some (.help .help)
    else (Subcommand.ofName? name).map fun command => .help (.subcommand command)
  | _ => none

/-- The request of a command line; a command line that makes no sense has none. -/
def Request.ofArguments? : List String → Option Request
  | [] => none
  | first :: rest =>
    match Subcommand.ofName? first with
    | some command =>
      match Given.read command .nothing rest with
      | some .help => some (.help (.subcommand command))
      | some (.given given) => given.request? command
      | none => none
    | none =>
      if first = "help" then helpRequest? rest
      else if first = "--help" then some (.help .program)
      else if first = "--version" then some .version
      else
        match first.toList with
        | '-' :: 'h' :: _ => some (.help .program)
        | '-' :: 'V' :: _ => some .version
        | _ => none

example :
    Request.ofArguments? ["status", "-pp"] = some (.status ⟨⟨"p"⟩, none⟩) := by rfl

end CommandLine
end ClassEnhancement
