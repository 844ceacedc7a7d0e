/-!
# Commands of a shell

A script is one command, put together from simple commands.  Words keep what was quoted apart from
what was not, because only the latter is split and matched.  What stands inside a word, such as a
script whose output is a part of it, stays a text until the word is expanded.
-/

namespace ClassEnhancement
namespace Shell

/-- Which end of a value a pattern takes away, and how much of it. -/
inductive Cut where
  /-- The shortest beginning. -/
  | shortStart
  /-- The longest beginning. -/
  | longStart
  /-- The shortest ending. -/
  | shortEnd
  /-- The longest ending. -/
  | longEnd
  deriving DecidableEq, Repr

/-- What is made of the value of a parameter. -/
inductive Change where
  /-- The value itself. -/
  | value
  /-- Its length. -/
  | length
  /-- A word where the parameter is not set, or is empty when that counts too. -/
  | orElse (orEmpty : Bool) (word : String)
  /-- The same, and the word becomes the value. -/
  | orAssign (orEmpty : Bool) (word : String)
  /-- An error where the parameter is not set, or is empty when that counts too. -/
  | orFail (orEmpty : Bool) (word : String)
  /-- A word where the parameter is set, and is not empty when that counts too. -/
  | whenSet (orEmpty : Bool) (word : String)
  /-- The value without what a pattern takes away. -/
  | cut (cut : Cut) (pattern : String)
  deriving DecidableEq, Repr

/-- A part of a word. -/
inductive WordPart where
  /-- Text. -/
  | text (content : String) (quoted : Bool)
  /-- A parameter. -/
  | parameter (name : String) (change : Change) (quoted : Bool)
  /-- The output of a script. -/
  | output (script : String) (quoted : Bool)
  /-- The value of an expression. -/
  | arithmetic (expression : String) (quoted : Bool)
  deriving DecidableEq, Repr

/-- A word. -/
abbrev Word := List WordPart

/-- What a redirection does. -/
inductive Direction where
  /-- Reads a file. -/
  | read
  /-- Replaces a file. -/
  | write
  /-- Extends a file. -/
  | append
  /-- Goes where another descriptor goes. -/
  | duplicate
  /-- Reads a text that stands in the script. -/
  | document
  deriving DecidableEq, Repr

/-- A redirection. -/
structure Redirection where
  /-- The descriptor that is redirected. -/
  descriptor : Nat
  /-- What is done to it. -/
  direction : Direction
  /-- A file, another descriptor, or a text. -/
  target : Word
  deriving DecidableEq, Repr

/-- A command. -/
inductive Command where
  /-- Nothing. -/
  | skip
  /-- Assignments, then a command with its arguments. -/
  | simple (line : Nat) (assignments : List (String × Word)) (words : List Word)
      (redirections : List Redirection)
  /-- One command after another. -/
  | sequence (first second : Command)
  /-- The second command runs if the first one succeeds. -/
  | both (first second : Command)
  /-- The second command runs if the first one fails. -/
  | either (first second : Command)
  /-- The status is turned around. -/
  | negate (command : Command)
  /-- The output of the first command is the input of the second. -/
  | pipe (first second : Command)
  /-- One command or another, by the status of a third. -/
  | branch (condition positive negative : Command)
  /-- One command if a word matches one of some patterns, and another if not. -/
  | choose (subject : Word) (patterns : List Word) (body otherwise : Command)
  /-- A command for each word. -/
  | forEach (name : String) (words : List Word) (body : Command)
  /-- A command as long as another one succeeds, or as long as it fails, with the status that the
  command had before. -/
  | loop (last : Nat) (positive : Bool) (condition body : Command)
  /-- A command gets a name. -/
  | define (name : String) (body : Command)
  /-- A command whose variables and end stay its own. -/
  | subshell (command : Command)
  /-- A command with redirections. -/
  | redirected (command : Command) (redirections : List Redirection)
  deriving Repr

end Shell
end ClassEnhancement
