import ClassEnhancement.Shell.Nesting
import ClassEnhancement.Shell.Syntax

/-!
# Tokens of a shell script

A script is cut into words, operators and line ends.  Quotes and parameters are recognised here, so
that a word is read once.  A text that a redirection takes from the following lines becomes a word.
-/

namespace ClassEnhancement
namespace Shell

/-- A token. -/
inductive Token where
  /-- A word, with the number of its line. -/
  | word (line : Nat) (parts : Word)
  /-- The start of a redirection. -/
  | redirection (descriptor : Nat) (direction : Direction)
  /-- The end of a line. -/
  | newline
  /-- Between commands. -/
  | separator
  /-- After the commands of a pattern. -/
  | endOfCase
  /-- Between the commands of a pipeline, and between patterns. -/
  | bar
  /-- Between commands of which both have to succeed. -/
  | bothSign
  /-- Between commands of which one has to succeed. -/
  | eitherSign
  /-- An opening bracket. -/
  | opening
  /-- A closing bracket. -/
  | closing
  deriving DecidableEq, Repr

namespace Token

/-! ## Parameters -/

/-- Characters that begin a name. -/
def isNameStart (c : Char) : Bool := c.isAlpha || c == '_'

/-- Characters that continue a name. -/
def isNamePart (c : Char) : Bool := c.isAlphanum || c == '_'

/-- Names of one character that is no letter. -/
def isSpecial (c : Char) : Bool := c.isDigit || "#*@?$!-".toList.contains c

/-- What the text after a name in braces makes of the value. -/
def changeOf? : List Char → Option Change
  | [] => some .value
  | ':' :: '-' :: text => some (.orElse true (String.ofList text))
  | '-' :: text => some (.orElse false (String.ofList text))
  | ':' :: '=' :: text => some (.orAssign true (String.ofList text))
  | '=' :: text => some (.orAssign false (String.ofList text))
  | ':' :: '?' :: text => some (.orFail true (String.ofList text))
  | '?' :: text => some (.orFail false (String.ofList text))
  | ':' :: '+' :: text => some (.whenSet true (String.ofList text))
  | '+' :: text => some (.whenSet false (String.ofList text))
  | '#' :: '#' :: text => some (.cut .longStart (String.ofList text))
  | '#' :: text => some (.cut .shortStart (String.ofList text))
  | '%' :: '%' :: text => some (.cut .longEnd (String.ofList text))
  | '%' :: text => some (.cut .shortEnd (String.ofList text))
  | _ => none

/-- The name at the start of a text, with what follows. -/
def nameAt? : List Char → Option (String × List Char)
  | [] => none
  | c :: rest =>
    if isNameStart c then
      some (String.ofList (c :: rest.takeWhile isNamePart), rest.dropWhile isNamePart)
    else if isSpecial c then some (c.toString, rest)
    else none

/-- The name at the start of a text in braces, where numbers may have several digits. -/
def bracedNameAt? (text : List Char) : Option (String × List Char) :=
  match text.takeWhile Char.isDigit with
  | [] => nameAt? text
  | digits => some (String.ofList digits, text.dropWhile Char.isDigit)

/-- The parameter that a text in braces denotes. -/
def bracedParameter? (quoted : Bool) (text : List Char) : Option WordPart :=
  match text with
  | '#' :: c :: rest =>
    match bracedNameAt? (c :: rest) with
    | some (name, []) => some (.parameter name .length quoted)
    | _ => (changeOf? (c :: rest)).map fun change => .parameter "#" change quoted
  | text =>
    match bracedNameAt? text with
    | some (name, after) => (changeOf? after).map fun change => .parameter name change quoted
    | none => none

/-- The part of a word between brackets: an expression between further brackets, or a script. -/
def bracketed (quoted : Bool) (text : List Char) : WordPart :=
  match text, text.getLast? with
  | '(' :: inner, some ')' => .arithmetic (String.ofList inner.dropLast) quoted
  | _, _ => .output (String.ofList text) quoted

/-- The part of a word after a dollar sign, with what follows. -/
def parameterAt? (quoted : Bool) : List Char → Option (WordPart × List Char)
  | '{' :: rest => do
    let (text, after) ← textUpToEnd quoted .brace rest
    let part ← bracedParameter? quoted text
    some (part, after)
  | '(' :: rest => do
    let (text, after) ← textUpToEnd quoted .bracket rest
    some (bracketed quoted text, after)
  | text =>
    match nameAt? text with
    | some (name, after) => some (.parameter name .value quoted, after)
    | none => some (.text "$" quoted, text)

/-- The script before a closing grave accent, with what follows.  A backslash quotes few
characters. -/
def accentedAt? (quoted : Bool) : List Char → Option (List Char × List Char)
  | [] => none
  | '\\' :: c :: rest =>
    let isQuoted := c == '\x60' || c == '\\' || c == '$' || (quoted && c == '"')
    (accentedAt? quoted rest).map fun (text, after) =>
      (if isQuoted then c :: text else '\\' :: c :: text, after)
  | c :: rest =>
    if c = '\x60' then some ([], rest)
    else (accentedAt? quoted rest).map fun (text, after) => (c :: text, after)

/-! ## Words -/

/-- What a word is read from. -/
inductive Surroundings where
  /-- A script, in which the word ends at a blank or an operator. -/
  | script
  /-- A text that is the word. -/
  | whole
  /-- A text that is the word, and in which quotes stand for themselves. -/
  | document
  deriving DecidableEq, Repr

/-- Characters that end a word that is not quoted. -/
def endsWord (c : Char) : Bool := " \t\n;&|<>()".toList.contains c

/-- Parts of a word, latest first, with more text. -/
def addText (text : String) (quoted : Bool) : List WordPart → List WordPart
  | .text before wasQuoted :: rest =>
    if wasQuoted = quoted then .text (before ++ text) quoted :: rest
    else .text text quoted :: .text before wasQuoted :: rest
  | parts => .text text quoted :: parts

/-- Whether a backslash between double quotes quotes a character. -/
def isQuotable (around : Surroundings) (c : Char) : Bool :=
  c == '$' || c == '\\' || c == '\x60' || (c == '"' && around != .document)

/-- The rest of a word, inside or outside double quotes, given its parts so far. -/
def wordAt? (around : Surroundings) :
    Nat → Bool → List WordPart → List Char → Option (List WordPart × List Char)
  | 0, _, _, _ => none
  | _ + 1, inside, parts, [] => if inside ∧ around = .script then none else some (parts, [])
  | bound + 1, inside, parts, c :: rest =>
    if c = '"' ∧ around ≠ .document then
      wordAt? around bound (!inside) (addText "" true parts) rest
    else if c = '$' then
      match parameterAt? inside rest with
      | none => none
      | some (.text text quoted, after) =>
        wordAt? around bound inside (addText text quoted parts) after
      | some (part, after) => wordAt? around bound inside (part :: parts) after
    else if c = '\x60' then
      match accentedAt? inside rest with
      | none => none
      | some (script, after) =>
        wordAt? around bound inside (.output (String.ofList script) inside :: parts) after
    else if c = '\\' then
      match rest with
      | [] => wordAt? around bound inside (addText "\\" true parts) []
      | '\n' :: after => wordAt? around bound inside parts after
      | d :: after =>
        let text :=
          if inside ∧ !isQuotable around d then String.ofList ['\\', d] else d.toString
        wordAt? around bound inside (addText text true parts) after
    else if inside then wordAt? around bound true (addText c.toString true parts) rest
    else if c = '\'' then
      match rest.dropWhile (· != '\'') with
      | _ :: after =>
        let text := String.ofList (rest.takeWhile (· != '\''))
        wordAt? around bound false (addText text true parts) after
      | [] => none
    else if endsWord c ∧ around = .script then some (parts, c :: rest)
    else wordAt? around bound false (addText c.toString false parts) rest

/-- The word that a text is as a whole, inside or outside double quotes. -/
def wordOfText? (around : Surroundings) (inside : Bool) (text : String) : Option Word :=
  (wordAt? around (text.length + 1) inside [] text.toList).map fun (parts, _) => parts.reverse

/-! ## Texts for redirections -/

/-- Whether some part of a word is quoted. -/
def isQuotedWord (parts : Word) : Bool :=
  parts.any fun
    | .text _ quoted => quoted
    | _ => false

/-- The text of a word in which nothing is expanded. -/
def literalText (parts : Word) : List Char :=
  parts.flatMap fun
    | .text content _ => content.toList
    | _ => []

/-- The lines of a text up to one that ends it, as a text, and the text without all of these.  The
lines begin after the rest of the current line; they may be indented by tabs that do not count. -/
def documentAt (indented : Bool) (last text : List Char) : List Char × List Char :=
  match text.splitOn '\n' with
  | [] => ([], [])
  | current :: following =>
    let line (spelled : List Char) : List Char :=
      if indented then spelled.dropWhile (· == '\t') else spelled
    let body := following.takeWhile fun spelled => line spelled != last
    let after := following.drop (body.length + 1)
    (body.flatMap fun spelled => line spelled ++ ['\n'],
      List.intercalate ['\n'] (current :: after))

/-- The text that a redirection takes from the following lines, as a word, and the script without
it. -/
def documentWord? (text : List Char) : Option (Word × List Char) := do
  let (indented, text) :=
    match text with
    | '-' :: rest => (true, rest)
    | rest => (false, rest)
  let (parts, after) ← wordAt? .script (text.length + 1) false [] (text.dropWhile (· == ' '))
  let (body, rest) := documentAt indented (literalText parts.reverse) after
  let text := String.ofList body
  let document ←
    if isQuotedWord parts then some [.text text true] else wordOfText? .document true text
  some (document, rest)

/-! ## The whole script -/

/-- The descriptor that a redirection names by a number before it. -/
def descriptorOf? : List WordPart → Option Nat
  | [.text digits false] => digits.toNat?
  | _ => none

/-- The redirection at the start of a text. -/
def redirectionAt? (descriptor : Option Nat) : List Char → Option (Token × List Char)
  | '>' :: '>' :: rest => some (.redirection (descriptor.getD 1) .append, rest)
  | '>' :: '&' :: rest => some (.redirection (descriptor.getD 1) .duplicate, rest)
  | '>' :: '|' :: rest => some (.redirection (descriptor.getD 1) .write, rest)
  | '>' :: rest => some (.redirection (descriptor.getD 1) .write, rest)
  | '<' :: '&' :: rest => some (.redirection (descriptor.getD 0) .duplicate, rest)
  | '<' :: rest => some (.redirection (descriptor.getD 0) .read, rest)
  | _ => none

/-- The operator at the start of a text. -/
def operatorAt? : List Char → Option (Token × List Char)
  | '\n' :: rest => some (.newline, rest)
  | ';' :: ';' :: rest => some (.endOfCase, rest)
  | ';' :: rest => some (.separator, rest)
  | '&' :: '&' :: rest => some (.bothSign, rest)
  | '&' :: rest => some (.separator, rest)
  | '|' :: '|' :: rest => some (.eitherSign, rest)
  | '|' :: rest => some (.bar, rest)
  | '(' :: rest => some (.opening, rest)
  | ')' :: rest => some (.closing, rest)
  | text => redirectionAt? none text

/-- Number of line ends between a text and what is left of it. -/
def linesBetween (text rest : List Char) : Nat :=
  (text.take (text.length - rest.length)).count '\n'

/-- Tokens of a text, of which no more than a bound are read. -/
def tokensWithin : Nat → Nat → List Char → Option (List Token)
  | 0, _, _ => none
  | _ + 1, _, [] => some []
  | bound + 1, line, '<' :: '<' :: rest =>
    match documentWord? rest with
    | none => none
    | some (document, after) =>
      (tokensWithin bound line after).map fun tokens =>
        .redirection 0 .document :: .word line document :: tokens
  | bound + 1, line, c :: rest =>
    if c = ' ' ∨ c = '\t' then tokensWithin bound line rest
    else if c = '#' then tokensWithin bound line (rest.dropWhile (· != '\n'))
    else if endsWord c then
      match operatorAt? (c :: rest) with
      | none => none
      | some (token, after) =>
        (tokensWithin bound (line + linesBetween (c :: rest) after) after).map (token :: ·)
    else
      match wordAt? .script (rest.length + 2) false [] (c :: rest) with
      | none => none
      | some (parts, after) =>
        let parts := parts.reverse
        match descriptorOf? parts, redirectionAt? (descriptorOf? parts) after with
        | some _, some (token, after) => (tokensWithin bound line after).map (token :: ·)
        | _, _ =>
          let next := line + linesBetween (c :: rest) after
          (tokensWithin bound next after).map fun tokens =>
            if parts.isEmpty then tokens else .word line parts :: tokens

/-- Tokens of a script. -/
def ofText? (text : String) : Option (List Token) :=
  tokensWithin (text.toList.length + 1) 1 text.toList

end Token
end Shell
end ClassEnhancement
