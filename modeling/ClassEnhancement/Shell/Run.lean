import ClassEnhancement.Shell.Parse
import ClassEnhancement.Shell.Utility

/-!
# Running commands

A command changes the state of the shell, up to the point where the script ends.  Whether a failure
ends the script depends on whether something tests the status.  A script takes a bounded number of
steps.
-/

namespace ClassEnhancement
namespace Shell
namespace State

/-- Runs a command, whose status may be tested by something around it. -/
abbrev Runner := Bool → Command → State → State

/-! ## Scripts -/

/-- Runs a script in a state. -/
def runIn (run : Runner) (script : String) (state : State) : State :=
  match parse? script with
  | some command => run false command state
  | none =>
    let reason :=
      if (Token.ofText? script).isNone then "Unterminated quoted string"
      else "end of file unexpected"
    state.fail s!"Syntax error: {reason}"

/-- Runs scripts inside words. -/
def captureBy (run : Runner) : Capture := fun script state =>
  let index := state.buffers.length
  let start :=
    { state with
      buffers := state.buffers ++ [[]]
      streams := { state.streams with output := .buffer index } }
  let after := leave state (runIn run script start)
  let written := (after.buffers[index]?.getD []).filter (· != 0)
  ({ after with
      buffers := after.buffers.take index
      inner := some after.status
      status := state.status },
    withoutLineEnds (textOfBytes written))

/-! ## Redirections -/

/-- Wording of a file that cannot be opened; a text of its own where something is missing. -/
def missingOr (missing : String) : FileError → String
  | .system .notFound => missing
  | .system .notDirectory => missing
  | cause => reasonOf cause

/-- Why a file cannot be read. -/
def openingReason (cause : FileError) : String := missingOr "No such file" cause

/-- Why a file cannot be written. -/
def creatingReason (cause : FileError) : String := missingOr "Directory nonexistent" cause

/-- The sink that the name of an output file denotes, with the file made ready. -/
def openOutput (state : State) (extending : Bool) (name : String) :
    Except String (Sink × State) :=
  if name = "/dev/null" then .ok (.nowhere, state)
  else if name = "/dev/stdout" then .ok (state.streams.output, state)
  else if name = "/dev/stderr" then .ok (state.streams.errors, state)
  else
    let path := pathOfText name
    let before := if extending then (state.tree.read path).toOption.getD [] else []
    match state.tree.write path before with
    | .ok tree => .ok (.file path, { state with tree })
    | .error cause => .error s!"cannot create {name}: {creatingReason cause}"

/-- The sink that the number of a descriptor denotes. -/
def sinkOf (streams : Streams) (number : String) : Except String Sink :=
  match number with
  | "1" => .ok streams.output
  | "2" => .ok streams.errors
  | "-" => .ok .nowhere
  | _ => .error s!"{number}: Bad file descriptor"

/-- The state with the contents of a file as its input. -/
def openInput (state : State) (name : String) : Except String State :=
  if name = "/dev/null" then .ok { state with input := [] }
  else if name = "/dev/stdin" then .ok state
  else
    match state.tree.read (pathOfText name) with
    | .ok input => .ok { state with input }
    | .error cause => .error s!"cannot open {name}: {openingReason cause}"

/-- The state with another sink for a descriptor. -/
def putSink (state : State) (descriptor : Nat) (sink : Sink) : State :=
  { state with streams := state.streams.put descriptor sink }

/-- Applies one redirection, and says what keeps it from being applied. -/
def redirect (capture : Capture) (state : State) (redirection : Redirection) :
    State × Option String :=
  let (state, target) := textOf capture redirection.target state
  let result : Except String State :=
    match redirection.direction with
    | .read => state.openInput target
    | .document => .ok { state with input := bytesOfText target }
    | .duplicate =>
      if redirection.descriptor = 0 then .ok state
      else (sinkOf state.streams target).map (state.putSink redirection.descriptor)
    | direction =>
      (state.openOutput (direction == .append) target).map fun (sink, opened) =>
        opened.putSink redirection.descriptor sink
  match result with
  | .ok redirected => (redirected, none)
  | .error reason => (state, some reason)

/-- Applies redirections in order, up to one that cannot be applied. -/
def redirectAll (capture : Capture) (state : State) : List Redirection → State × Option String
  | [] => (state, none)
  | redirection :: rest =>
    match redirect capture state redirection with
    | (redirected, none) => redirectAll capture redirected rest
    | (redirected, some reason) => (redirected, some reason)

/-- Whether a redirection gives a command other input. -/
def changesInput (redirection : Redirection) : Bool :=
  redirection.direction == .read || redirection.direction == .document

/-- The state after a command with redirections, without them. -/
def withoutRedirections (before after : State) (redirections : List Redirection) : State :=
  { after with
    streams := before.streams
    input := if redirections.any changesInput then before.input else after.input }

/-- Does something with redirections.  Where they cannot be applied, it is not done. -/
def redirected (capture : Capture) (redirections : List Redirection) (act : State → State)
    (state : State) : State :=
  match redirectAll capture state redirections with
  | (opened, none) =>
    withoutRedirections state (if opened.hasEnded then opened else act opened) redirections
  | (opened, some reason) =>
    (withoutRedirections state opened redirections).complainAt reason 2

/-! ## Simple commands -/

/-- The state with assignments made. -/
def assignAll (capture : Capture) (state : State) (assignments : List (String × Word)) : State :=
  assignments.foldl
    (fun state (name, word) =>
      let (state, text) := textOf capture word state
      state.setVariable name text)
    state

/-- The state after a command, with the variables that were assigned for it as they were. -/
def restoreVariables (before after : State) (names : List String) : State :=
  let bindings := names.foldl
    (fun bindings name =>
      match before.bindings.find? name with
      | some value => bindings.insert name value
      | none => bindings.erase name)
    after.bindings
  { after with bindings, exported := after.exported.filter fun name =>
      !names.contains name || before.exported.contains name }

/-- Calls a function. -/
def call (run : Runner) (tested : Bool) (body : Command) (arguments : List String)
    (state : State) : State :=
  let after := run tested body { state with arguments, loops := 0 }
  { after with
    arguments := state.arguments
    loops := state.loops
    ended := if after.ended = some .function then none else after.ended }

/-- Leading options of a shell and the rest of its arguments. -/
def shellOptions : List String → List Char × List String
  | [] => ([], [])
  | argument :: rest =>
    match argument.toList with
    | '-' :: option :: more =>
      let (options, after) := shellOptions rest
      (option :: more ++ options, after)
    | _ => ([], argument :: rest)

/-- Runs a shell with arguments, from the state in which it begins. -/
def runShell (run : Runner) (arguments : List String) (start : State) : State :=
  let (letters, rest) := shellOptions arguments
  let start := { start with options := start.options.switch letters true }
  if letters.contains 'c' then
    match rest with
    | [] => start.complain "sh: 0: -c requires an argument" 2
    | script :: rest =>
      runIn run script { start with name := rest.headD "sh", arguments := rest.tail }
  else
    match rest with
    | [] => runIn run (textOfBytes start.input) { start with input := [] }
    | path :: rest =>
      match start.tree.read (pathOfText path) with
      | .ok script => runIn run (textOfBytes script) { start with name := path, arguments := rest }
      | .error _ => start.complain s!"sh: 0: cannot open {path}: No such file" 2

/-- What is said about a program that was ended by a signal. -/
def signalRemark? (number : Nat) : Option String :=
  match number with
  | 1 => some "Hangup"
  | 9 => some "Killed"
  | 15 => some "Terminated"
  | _ => none

/-- Runs a shell inside a script. -/
def runInnerShell (run : Runner) (arguments : List String) (state : State) : State :=
  let start :=
    { initial state.tree state.input state.environment with
      buffers := state.buffers
      streams := state.streams }
  let after := runShell run arguments start
  let left := { state with tree := after.tree, input := after.input, buffers := after.buffers }
  match after.exitStatus with
  | .code code => left.withStatus code
  | .signal number =>
    match signalRemark? number with
    | some remark => left.complain remark (128 + number)
    | none => left.withStatus (128 + number)

/-- Runs a command by its name. -/
def invoke (run : Runner) (tested : Bool) (name : String) (arguments : List String)
    (state : State) : State :=
  match state.functions.find? name with
  | some body => call run tested body arguments state
  | none =>
    if name = "sh" ∨ name = "/bin/sh" then runInnerShell run arguments state
    else if name = "eval" then runIn run (" ".intercalate arguments) (state.withStatus 0)
    else if name = "." then
      let path := arguments.headD ""
      match (state.tree.read (pathOfText path)).toOption with
      | some script => runIn run (textOfBytes script) (state.withStatus 0)
      | none => state.fail s!".: cannot open {path}: No such file"
    else runUtility name arguments state

/-- Runs a simple command.  Assignments before a command end with it. -/
def runSimple (run : Runner) (tested : Bool) (assignments : List (String × Word))
    (words : List Word) (redirections : List Redirection) (state : State) : State :=
  let capture := captureBy run
  let (state, fields) := fieldsOfAll capture words { state with inner := none }
  if state.hasEnded then state
  else
    match fields with
    | [] =>
      redirected capture redirections
        (fun state =>
          let assigned := assignAll capture state assignments
          assigned.withStatus
            (if assigned.hasEnded then assigned.status else assigned.inner.getD 0))
        state
    | ["exec"] =>
      match redirectAll capture state redirections with
      | (opened, none) => opened.withStatus 0
      | (opened, some reason) => opened.fail reason
    | name :: arguments =>
      redirected capture redirections
        (fun state =>
          let names := assignments.map Prod.fst
          let assigned := assignAll capture state assignments
          let start := { assigned with exported := assigned.exported ++ names }
          let after :=
            if start.hasEnded then start
            else
              match name, arguments with
              | "exec", name :: arguments =>
                let after := invoke run tested name arguments { start with functions := .empty }
                after.finish after.exitStatus
              | name, arguments => invoke run tested name arguments start
          restoreVariables state after names)
        state

/-! ## All commands -/

/-- The state after a command, with the script ended where a failure ends it. -/
def settle (tested : Bool) (state : State) : State :=
  if state.options.stopsOnFailure && !tested && state.status != 0 && !state.hasEnded then
    state.finish (.code state.status)
  else state

/-- The state after the body of a loop, ready for the next round if there is one. -/
def endRound (state : State) : State :=
  if state.ended = some (.loop 1 true) then { state with ended := none } else state

/-- The state after a loop, given the number of loops around it. -/
def endLoop (around : Nat) (state : State) : State :=
  let ended : Option Ending :=
    match state.ended with
    | some (.loop 0 _) => none
    | some (.loop 1 _) => none
    | some (.loop count again) => some (.loop (count - 1) again)
    | other => other
  { state with ended, loops := around }

/-- A choice whose subject is known. -/
def withSubject (subject : String) : Command → Command
  | .choose _ patterns body otherwise => .choose [.text subject true] patterns body otherwise
  | command => command

/-- Whether a text matches one of some patterns, which are expanded one after another. -/
def matchesAny (capture : Capture) (text : String) : List Word → State → State × Bool
  | [], state => (state, false)
  | word :: rest, state =>
    let (state, pattern) := patternOf capture word state
    if pattern.matchesText text.toList then (state, true)
    else matchesAny capture text rest state

/-- Runs a command, in at most a number of steps on the way to the innermost one. -/
def run : Nat → Runner
  | 0, _, _, state => state.finish (.code 2)
  | bound + 1, tested, command, state =>
    let capture := captureBy (run bound)
    match command with
    | .skip => state
    | .simple line assignments words redirections =>
      settle tested
        (runSimple (run bound) tested assignments words redirections { state with line })
    | .sequence first second =>
      let after := run bound tested first state
      if after.hasEnded then after else run bound tested second after
    | .both first second =>
      let after := run bound true first state
      if after.hasEnded ∨ after.status ≠ 0 then after else run bound tested second after
    | .either first second =>
      let after := run bound true first state
      if after.hasEnded ∨ after.status = 0 then after else run bound tested second after
    | .negate command =>
      let after := run bound true command state
      if after.hasEnded then after else after.holds (after.status != 0)
    | .pipe first second =>
      let index := state.buffers.length
      let writer := run bound true first
        { state with
          buffers := state.buffers ++ [[]]
          streams := { state.streams with output := .buffer index } }
      let middle := leave state writer
      if middle.hasEnded then middle
      else
        let piped :=
          { middle with
            buffers := middle.buffers.take index, input := middle.buffers[index]?.getD [] }
        let reader := run bound true second piped
        settle tested { leave state reader with input := middle.input }
    | .branch condition positive negative =>
      let after := run bound true condition state
      if after.hasEnded then after
      else if after.status = 0 then run bound tested positive after
      else run bound tested negative (after.withStatus 0)
    | .choose subject patterns body otherwise =>
      let (state, text) := textOf capture subject state
      let (state, matched) := matchesAny capture text patterns state
      if state.hasEnded then state
      else if matched then run bound tested body (state.withStatus 0)
      else run bound tested (withSubject text otherwise) (state.withStatus 0)
    | .forEach name words body =>
      let (state, fields) := fieldsOfAll capture words state
      if state.hasEnded then state
      else
        let start := { state.withStatus 0 with loops := state.loops + 1 }
        endLoop state.loops
          (fields.foldl
            (fun state field =>
              if state.hasEnded then state
              else endRound (run bound tested body (state.setVariable name field)))
            start)
    | .loop last positive condition body =>
      let start := run bound true condition { state with loops := state.loops + 1 }
      if start.hasEnded then endLoop state.loops start
      else if (start.status == 0) = positive then
        let after := endRound (run bound tested body start)
        let closed := endLoop state.loops after
        if after.hasEnded then closed
        else run bound tested (.loop after.status positive condition body) closed
      else endLoop state.loops (start.withStatus last)
    | .define name body =>
      { state.withStatus 0 with functions := state.functions.insert name body }
    | .subshell command =>
      settle tested (leave state (run bound tested command state))
    | .redirected command redirections =>
      redirected capture redirections (run bound tested command) state

/-- A number of steps that no sensible script takes on the way to a command. -/
def stepLimit : Nat := 100000

/-- Runs a command of a script. -/
def runCommand : Runner := run stepLimit

end State
end Shell
end ClassEnhancement
