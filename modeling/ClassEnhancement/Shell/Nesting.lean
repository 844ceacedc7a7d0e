/-!
# Brackets and quotes inside words

A word may hold scripts and other words, between brackets and braces.  Where such a part ends is
found by counting what opens and closes, without brackets that are quoted.
-/

namespace ClassEnhancement
namespace Shell

/-- What has to be closed. -/
inductive Opened where
  /-- A round bracket. -/
  | bracket
  /-- A brace. -/
  | brace
  /-- A double quote. -/
  | double
  /-- A single quote. -/
  | single
  deriving DecidableEq, Repr

/-- What is open inside a part of a word. -/
structure Nesting where
  /-- Whether the part stands between double quotes. -/
  quoted : Bool
  /-- What is open, innermost first. -/
  opened : List Opened
  /-- The character before, or a blank where it does not matter. -/
  previous : Char
  deriving DecidableEq, Repr

namespace Nesting

/-- The nesting after something is opened. -/
def push (nesting : Nesting) (opened : Opened) : Nesting :=
  { nesting with opened := opened :: nesting.opened, previous := ' ' }

/-- The nesting after the innermost opening is closed. -/
def pop (nesting : Nesting) : Nesting :=
  { nesting with opened := nesting.opened.tail, previous := ' ' }

/-- The nesting after a character that opens and closes nothing. -/
def pass (nesting : Nesting) (c : Char) : Nesting := { nesting with previous := c }

/-- Whether a single quote quotes nothing. -/
def isLiteralQuote (nesting : Nesting) (top : Opened) : Bool :=
  top == .double || (top == .brace && nesting.quoted)

/-- The nesting after a character. -/
def step (nesting : Nesting) (c : Char) : Nesting :=
  match nesting.opened with
  | [] => nesting
  | .single :: _ => if c = '\'' then nesting.pop else nesting
  | top :: _ =>
    if nesting.previous = '\\' then nesting.pass ' '
    else if c = '"' then if top = .double then nesting.pop else nesting.push .double
    else if c = '\'' then
      if nesting.isLiteralQuote top then nesting.pass c else nesting.push .single
    else if c = '(' then
      if top = .bracket ∨ nesting.previous = '$' then nesting.push .bracket else nesting.pass c
    else if c = ')' then if top = .bracket then nesting.pop else nesting.pass c
    else if c = '{' then if nesting.previous = '$' then nesting.push .brace else nesting.pass c
    else if c = '}' then if top = .brace then nesting.pop else nesting.pass c
    else nesting.pass c

/-- The text up to the character that closes everything, and what follows that character. -/
def textUpToEnd (nesting : Nesting) : List Char → Option (List Char × List Char)
  | [] => none
  | c :: rest =>
    if (nesting.step c).opened.isEmpty then some ([], rest)
    else (textUpToEnd (nesting.step c) rest).map fun (text, after) => (c :: text, after)

end Nesting

/-- The text up to the end of a part of a word that has just been opened, and what follows it. -/
def textUpToEnd (quoted : Bool) (opened : Opened) (text : List Char) :
    Option (List Char × List Char) :=
  (Nesting.mk quoted [opened] ' ').textUpToEnd text

example : textUpToEnd false .bracket "a \")\" (b) ')') c".toList
    = some ("a \")\" (b) ')'".toList, " c".toList) := by decide

end Shell
end ClassEnhancement
