import ClassEnhancement.Shell.Token

/-!
# Reading shell scripts

Commands are read from tokens.  A word has a meaning of its own only where a command begins and only
when nothing of it is quoted.
-/

namespace ClassEnhancement
namespace Shell

/-- A command with the tokens after it. -/
abbrev Parsed := Option (Command × List Token)

/-- The text of a word of which nothing is quoted. -/
def plainText? : Word → Option String
  | [.text content false] => some content
  | _ => none

/-- Whether tokens begin with a word that stands for itself. -/
def startsWith (word : String) : List Token → Bool
  | .word _ parts :: _ => plainText? parts = some word
  | _ => false

/-- Words that end the commands before them. -/
def endingWords : List String := ["then", "else", "elif", "fi", "do", "done", "esac", "\x7d"]

/-- Whether no further command begins here. -/
def endsCommands (tokens : List Token) : Bool :=
  match tokens with
  | [] => true
  | .closing :: _ => true
  | .endOfCase :: _ => true
  | _ => endingWords.any fun word => startsWith word tokens

/-- Tokens after line ends. -/
def skipLines (tokens : List Token) : List Token := tokens.dropWhile (· == .newline)

/-- Tokens after a word that has to stand here. -/
def expect? (word : String) (tokens : List Token) : Option (List Token) :=
  if startsWith word (skipLines tokens) then some (skipLines tokens).tail else none

/-- The assignment that a word is, if it is one. -/
def assignment? : Word → Option (String × Word)
  | .text content false :: rest =>
    let chars := content.toList
    match chars.dropWhile Token.isNamePart with
    | '=' :: value =>
      let name := chars.takeWhile Token.isNamePart
      if name.head?.any Token.isNameStart then
        some (String.ofList name,
          if value.isEmpty then rest else .text (String.ofList value) false :: rest)
      else none
    | _ => none
  | _ => none

/-- Redirections at the start of tokens. -/
def redirections : List Token → List Redirection × List Token
  | .redirection descriptor direction :: .word _ target :: rest =>
    let (more, after) := redirections rest
    (⟨descriptor, direction, target⟩ :: more, after)
  | tokens => ([], tokens)

/-- A simple command under construction. -/
structure Simple where
  /-- Line of the first word. -/
  line : Nat
  /-- Assignments. -/
  assignments : List (String × Word)
  /-- Words. -/
  words : List Word
  /-- Redirections. -/
  redirections : List Redirection

/-- Words, assignments and redirections up to the next operator. -/
def simpleAt (built : Simple) : List Token → Simple × List Token
  | .word line parts :: rest =>
    match built.words, assignment? parts with
    | [], some assigned =>
      simpleAt { built with line, assignments := built.assignments ++ [assigned] } rest
    | [], none => simpleAt { built with line, words := [parts] } rest
    | words, _ => simpleAt { built with words := words ++ [parts] } rest
  | .redirection descriptor direction :: .word _ target :: rest =>
    simpleAt
      { built with
        redirections := built.redirections ++ [⟨descriptor, direction, target⟩] } rest
  | tokens => (built, tokens)

/-- A simple command; it is not empty. -/
def simple? (tokens : List Token) : Parsed :=
  match simpleAt ⟨1, [], [], []⟩ tokens with
  | (⟨_, [], [], []⟩, _) => none
  | (built, rest) =>
    some (.simple built.line built.assignments built.words built.redirections, rest)

/-- Patterns up to the bracket that closes them. -/
def patterns? : List Token → Option (List Word × List Token)
  | .word _ parts :: .closing :: rest => some ([parts], rest)
  | .word _ parts :: .bar :: rest =>
    (patterns? rest).map fun (more, after) => (parts :: more, after)
  | _ => none

/-- Words up to the end of the line. -/
def wordsAt : List Token → List Word × List Token
  | .word _ parts :: rest =>
    let (more, after) := wordsAt rest
    (parts :: more, after)
  | tokens => ([], tokens)

/-- A command with the redirections after it. -/
def withRedirections (command : Command) (tokens : List Token) : Parsed :=
  match redirections tokens with
  | ([], rest) => some (command, rest)
  | (found, rest) => some (.redirected command found, rest)

mutual

/-- Commands up to one that ends them. -/
def commands? : Nat → List Token → Parsed
  | 0, _ => none
  | bound + 1, tokens =>
    let tokens := skipLines tokens
    if endsCommands tokens then some (.skip, tokens)
    else
      match chain? bound tokens with
      | some (first, .separator :: rest) =>
        (commands? bound rest).map fun (second, after) => (.sequence first second, after)
      | some (first, .newline :: rest) =>
        (commands? bound rest).map fun (second, after) => (.sequence first second, after)
      | some (first, rest) => if endsCommands rest then some (first, rest) else none
      | none => none

/-- Pipelines of which each depends on the status before it. -/
def chain? : Nat → List Token → Parsed
  | 0, _ => none
  | bound + 1, tokens =>
    match pipeline? bound tokens with
    | some (first, rest) => links? bound first rest
    | none => none

/-- The rest of a chain. -/
def links? : Nat → Command → List Token → Parsed
  | 0, _, _ => none
  | bound + 1, first, tokens =>
    match tokens with
    | .bothSign :: rest =>
      match pipeline? bound (skipLines rest) with
      | some (second, after) => links? bound (.both first second) after
      | none => none
    | .eitherSign :: rest =>
      match pipeline? bound (skipLines rest) with
      | some (second, after) => links? bound (.either first second) after
      | none => none
    | _ => some (first, tokens)

/-- Commands of which each reads what the one before it writes. -/
def pipeline? : Nat → List Token → Parsed
  | 0, _ => none
  | bound + 1, tokens =>
    if startsWith "!" tokens then
      (pipeline? bound tokens.tail).map fun (command, rest) => (.negate command, rest)
    else
      match command? bound tokens with
      | some (first, .bar :: rest) =>
        (pipeline? bound (skipLines rest)).map fun (second, after) => (.pipe first second, after)
      | parsed => parsed

/-- One command. -/
def command? : Nat → List Token → Parsed
  | 0, _ => none
  | bound + 1, tokens =>
    match tokens with
    | .opening :: rest =>
      match commands? bound rest with
      | some (body, .closing :: after) => withRedirections (.subshell body) after
      | _ => none
    | .word _ parts :: .opening :: .closing :: rest => do
      let name ← plainText? parts
      let (body, after) ← command? bound (skipLines rest)
      some (.define name body, after)
    | .word _ parts :: rest =>
      match plainText? parts with
      | some "while" => loop? bound true rest
      | some "until" => loop? bound false rest
      | some "if" => conditional? bound rest
      | some "case" => choice? bound rest
      | some "for" => repetition? bound rest
      | some "\x7b" => do
        let (body, after) ← commands? bound rest
        let after ← expect? "\x7d" after
        withRedirections body after
      | _ => simple? tokens
    | _ => simple? tokens

/-- A conditional after its first word. -/
def conditional? : Nat → List Token → Parsed
  | 0, _ => none
  | bound + 1, tokens => do
    let (condition, after) ← commands? bound tokens
    let after ← expect? "then" after
    let (positive, after) ← commands? bound after
    if startsWith "elif" after then
      let (negative, rest) ← conditional? bound after.tail
      some (.branch condition positive negative, rest)
    else if startsWith "else" after then
      let (negative, rest) ← commands? bound after.tail
      let rest ← expect? "fi" rest
      withRedirections (.branch condition positive negative) rest
    else
      let rest ← expect? "fi" after
      withRedirections (.branch condition positive .skip) rest

/-- A choice after its first word. -/
def choice? : Nat → List Token → Parsed
  | 0, _ => none
  | bound + 1, tokens =>
    match tokens with
    | .word _ subject :: rest => do
      let rest ← expect? "in" rest
      let (arms, after) ← arms? bound subject (skipLines rest)
      withRedirections arms after
    | _ => none

/-- The arms of a choice. -/
def arms? : Nat → Word → List Token → Parsed
  | 0, _, _ => none
  | bound + 1, subject, tokens =>
    if startsWith "esac" tokens then some (.skip, tokens.tail)
    else do
      let listed := if tokens.head? = some .opening then tokens.tail else tokens
      let (patterns, rest) ← patterns? listed
      let (body, after) ← commands? bound rest
      let next :=
        match after with
        | .endOfCase :: rest => skipLines rest
        | tokens => tokens
      let (otherwise, after) ← arms? bound subject next
      some (.choose subject patterns body otherwise, after)

/-- A repetition after its first word. -/
def repetition? : Nat → List Token → Parsed
  | 0, _ => none
  | bound + 1, tokens =>
    match tokens with
    | .word _ parts :: rest => do
      let name ← plainText? parts
      let (words, rest) :=
        match expect? "in" rest with
        | some listed => wordsAt listed
        | none => ([[.parameter "@" .value true]], rest)
      let rest := if rest.head? = some .separator then rest.tail else rest
      let rest ← expect? "do" rest
      let (body, after) ← commands? bound rest
      let after ← expect? "done" after
      withRedirections (.forEach name words body) after
    | _ => none

/-- A loop after its first word. -/
def loop? : Nat → Bool → List Token → Parsed
  | 0, _, _ => none
  | bound + 1, positive, tokens => do
    let (condition, after) ← commands? bound tokens
    let after ← expect? "do" after
    let (body, after) ← commands? bound after
    let after ← expect? "done" after
    withRedirections (.loop 0 positive condition body) after

end

/-- The command that a script is. -/
def parse? (script : String) : Option Command := do
  let tokens ← Token.ofText? script
  match ← commands? (8 * tokens.length + 8) tokens with
  | (command, []) => some command
  | _ => none

end Shell
end ClassEnhancement
