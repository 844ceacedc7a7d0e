import ClassEnhancement.Text.Lines
import ClassEnhancement.Text.Quoted

/-!
# Build messages

Everything that goes wrong, and what is worth knowing, is a message with a severity on the build
output.  Messages have no source position.  The output of a transformer becomes one message for
each of its lines that is not blank.
-/

namespace ClassEnhancement

/-- How grave a message is. -/
inductive Severity where
  /-- Worth knowing. -/
  | information
  /-- Something was left out. -/
  | warning
  /-- Something failed. -/
  | error
  deriving DecidableEq, Repr

namespace Severity

/-- Label on the build output. -/
def label : Severity → String
  | information => "INFORMATION"
  | warning => "WARNING"
  | error => "ERROR"

/-- Name in diagnostic text. -/
def describe : Severity → String
  | information => "Information"
  | warning => "Warning"
  | error => "Error"

/-- Graver severities have greater ranks. -/
def rank : Severity → Nat
  | information => 0
  | warning => 1
  | error => 2

/-- The graver of two severities. -/
def worse (left right : Severity) : Severity := if left.rank < right.rank then right else left

end Severity

/-- One message. -/
structure Message where
  /-- How grave it is. -/
  severity : Severity
  /-- What it says. -/
  text : String
  deriving DecidableEq, Repr

namespace Message

/-- A message worth knowing. -/
def info (text : String) : Message := ⟨.information, text⟩

/-- A message about something left out. -/
def warning (text : String) : Message := ⟨.warning, text⟩

/-- A message about a failure. -/
def failure (text : String) : Message := ⟨.error, text⟩

/-- The message as it stands on the build output. -/
def render (message : Message) : String := message.severity.label ++ ": " ++ message.text

instance : ToString Message := ⟨render⟩

/-- Diagnostic text. -/
def describe (message : Message) : String :=
  s!"Message \x7b severity: {message.severity.describe}, text: {Text.quoted message.text} \x7d"

/-- Messages for the output of a transformer, one for each line that is not blank. -/
def ofOutput (output : String) : List Message :=
  ((Text.lines output.toList).filter fun line => !(Text.trim line).isEmpty).map fun line =>
    info (String.ofList line)

end Message

/-- Messages in the order in which they were added. -/
abbrev MessageLog := List Message

namespace MessageLog

/-- Messages of one severity. -/
def ofSeverity (log : MessageLog) (severity : Severity) : List Message :=
  List.filter (fun message => message.severity == severity) log

/-- Texts of the messages of one severity. -/
def texts (log : MessageLog) (severity : Severity) : List String :=
  (log.ofSeverity severity).map Message.text

/-- Whether one text occurs inside another. -/
def occursIn (needle : List Char) : List Char → Bool
  | [] => needle.isEmpty
  | c :: rest => needle.isPrefixOf (c :: rest) || occursIn needle rest

/-- Whether some message of a severity contains a text. -/
def mentions (log : MessageLog) (severity : Severity) (needle : String) : Bool :=
  (log.texts severity).any fun text => occursIn needle.toList text.toList

/-- The gravest severity of the log. -/
def worst? (log : MessageLog) : Option Severity :=
  match log with
  | [] => none
  | first :: rest => some (rest.foldl (fun grave next => grave.worse next.severity) first.severity)

/-- Diagnostic text. -/
def describe (log : MessageLog) : String :=
  let listed := Text.bracketed (log.map Message.describe)
  s!"MessageLog \x7b messages: Mutex \x7b data: {listed} \x7d \x7d"

end MessageLog
end ClassEnhancement
