import ClassEnhancement.CommandLine.Request

/-!
# Help texts

The help of the program lists its subcommands; that of a subcommand lists its arguments and options,
and the help on help itself its argument.
-/

namespace ClassEnhancement
namespace CommandLine

/-- A row of a table: a term and what it means. -/
abbrev Row := String × String

/-- A table with its meanings below each other. -/
def table (rows : List Row) : List String :=
  let width := ((rows.map fun row => row.1.length).max?).getD 0
  rows.map fun row =>
    let gap := String.ofList (List.replicate (width - row.1.length + 2) ' ')
    "  " ++ row.1 ++ gap ++ row.2

namespace Subcommand

/-- What a subcommand does. -/
def summary : Subcommand → String
  | enhance => "Raise a compilation-finished event for the given class files"
  | enable => "Turn enhancement on for the project"
  | disable => "Turn enhancement off for the project"
  | status => "Show whether enhancement is on for the project"
  | packages => "Print the packages manifests declare for enhancement"

/-- How the arguments of a subcommand are written. -/
def usage (command : Subcommand) : String :=
  s!"Usage: tqe {command.name} [OPTIONS]" ++ (if command.isEnhance then " <classes>..." else "")

/-- Arguments of a subcommand that are no options. -/
def operandRows (command : Subcommand) : List Row :=
  if command.isEnhance then [("<classes>...", "Freshly compiled class files")] else []

/-- Options of a subcommand. -/
def optionRows (command : Subcommand) : List Row :=
  [("-p, --project <project>", "Project root directory [default: .]"),
    ("    --config <config>", "Config file to use instead of <project>/tqe.toml")]
  ++ (if command.isEnhance then
      [("-t, --transformer <transformer>",
          "Transformer command; class bytes on stdin, class name appended"),
        ("    --force", "Enhance even if enhancement is disabled for the project")]
    else [])
  ++ [("-h, --help", "Print help")]

/-- Lines of the help of a subcommand. -/
def helpLines (command : Subcommand) : List String :=
  [command.summary, "", command.usage, ""]
  ++ (if command.operandRows.isEmpty then []
    else ["Arguments:"] ++ table command.operandRows ++ [""])
  ++ ["Options:"] ++ table command.optionRows

end Subcommand

/-- What the help does. -/
def helpSummary : String := "Print this message or the help of the given subcommand(s)"

/-- Lines of the help of the program. -/
def helpLines : List String :=
  ["Type query bean enhancement for compiled classes", "", "Usage: tqe <COMMAND>", "", "Commands:"]
  ++ table
    ((Subcommand.all.map fun command => (command.name, command.summary)) ++ [("help", helpSummary)])
  ++ ["", "Options:"]
  ++ table [("-h, --help", "Print help"), ("-V, --version", "Print version")]

/-- Lines of the help on help. -/
def helpOnHelp : List String :=
  [helpSummary, "", "Usage: tqe help [COMMAND]...", "", "Arguments:"]
  ++ table [("[COMMAND]...", "Print help for the subcommand(s)")]

namespace HelpTopic

/-- Lines of the help on a topic. -/
def lines : HelpTopic → List String
  | program => helpLines
  | subcommand command => command.helpLines
  | help => helpOnHelp

/-- The help on a topic. -/
def text (topic : HelpTopic) : String := String.join (topic.lines.map fun line => line ++ "\n")

end HelpTopic

/-- The version of the program. -/
def versionText : String := "tqe 0.1.0\n"

end CommandLine
end ClassEnhancement
