import ClassEnhancement.Toml.Scalar

/-!
# TOML documents

Keys, values and statements.  Arrays may span lines and end in a comma; inline tables may not.
Values are nested to a limited depth, and keys have a limited number of parts.
-/

namespace ClassEnhancement
namespace Toml

/-! ## Keys -/

/-- Characters of a key without quotes. -/
def isBareChar (c : Char) : Bool := c.isAlphanum || c == '-' || c == '_'

/-- One part of a key. -/
def keyPart : List Char → Option (String × List Char)
  | '"' :: rest => (basicString rest).map fun (text, rest) => (String.ofList text, rest)
  | '\'' :: rest => (literalString rest).map fun (text, rest) => (String.ofList text, rest)
  | text =>
    let bare := text.takeWhile isBareChar
    if bare.isEmpty then none else some (String.ofList bare, text.dropWhile isBareChar)

/-- At most a number of key parts between dots, with the blanks around them. -/
def keyWithin : Nat → List Char → Option (List String × List Char)
  | 0, _ => none
  | bound + 1, text => do
    let (part, rest) ← keyPart (skipBlanks text)
    match skipBlanks rest with
    | '.' :: rest => do
      let (parts, rest) ← keyWithin bound rest
      some (part :: parts, rest)
    | rest => some ([part], rest)

/-- Greatest number of parts of a key, and greatest depth of nested values. -/
def nestingLimit : Nat := 79

/-- A key. -/
def key (text : List Char) : Option (List String × List Char) := keyWithin nestingLimit text

/-! ## Values -/

mutual

/-- A value of a limited depth. -/
def value : Nat → Nat → List Char → Option (TomlSyntax × List Char)
  | 0, _, _ => none
  | bound + 1, depth, '[' :: rest =>
    match depth, skipTrivia false rest with
    | 0, _ => none
    | _ + 1, ']' :: rest => some (.array [], rest)
    | depth + 1, rest =>
      match items bound depth rest with
      | some (values, rest) => some (.array values, rest)
      | none => none
  | bound + 1, depth, '{' :: rest =>
    match depth, skipBlanks rest with
    | 0, _ => none
    | _ + 1, '}' :: rest => some (.inlineTable [], rest)
    | depth + 1, rest =>
      match pairs bound depth rest with
      | some (members, rest) => some (.inlineTable members, rest)
      | none => none
  | _ + 1, _, text => scalar text

/-- Items up to the closing bracket. -/
def items : Nat → Nat → List Char → Option (List TomlSyntax × List Char)
  | 0, _, _ => none
  | bound + 1, depth, text =>
    match value bound depth text with
    | none => none
    | some (item, rest) =>
      match skipTrivia false rest with
      | ']' :: rest => some ([item], rest)
      | ',' :: rest =>
        match skipTrivia false rest with
        | ']' :: rest => some ([item], rest)
        | rest =>
          match items bound depth rest with
          | some (more, rest) => some (item :: more, rest)
          | none => none
      | _ => none

/-- Pairs up to the closing brace. -/
def pairs : Nat → Nat → List Char → Option (List (List String × TomlSyntax) × List Char)
  | 0, _, _ => none
  | bound + 1, depth, text =>
    match key text with
    | some (parts, '=' :: rest) =>
      match value bound depth (skipBlanks rest) with
      | none => none
      | some (member, rest) =>
        match skipBlanks rest with
        | '}' :: rest => some ([(parts, member)], rest)
        | ',' :: rest =>
          match pairs bound depth rest with
          | some (more, rest) => some ((parts, member) :: more, rest)
          | none => none
        | _ => none
    | _ => none

end

/-! ## Statements -/

/-- What follows a line after its statement: blanks, a comment and the line end. -/
def lineTail? (text : List Char) : Option (List Char) :=
  match skipComment (skipBlanks text) with
  | [] => some []
  | rest => lineEnd? rest

/-- One statement without what follows it on its line. -/
def statement (bound : Nat) : List Char → Option (Statement × List Char)
  | '[' :: '[' :: rest =>
    match key rest with
    | some (parts, ']' :: ']' :: rest) => some (.arrayTable parts, rest)
    | _ => none
  | '[' :: rest =>
    match key rest with
    | some (parts, ']' :: rest) => some (.table parts, rest)
    | _ => none
  | text =>
    match key text with
    | some (parts, '=' :: rest) => do
      let (assigned, rest) ← value bound nestingLimit (skipBlanks rest)
      some (.pair parts assigned, rest)
    | _ => none

/-- The statements of at most a number of lines. -/
def statementsWithin : Nat → Nat → List Char → Option (List Statement)
  | 0, _, _ => none
  | lines + 1, bound, text =>
    match skipBlanks text with
    | [] => some []
    | c :: rest =>
      if c = '#' ∨ c = '\n' ∨ c = '\r' then do
        let rest ← lineTail? (c :: rest)
        statementsWithin lines bound rest
      else do
        let (first, rest) ← statement bound (c :: rest)
        let rest ← lineTail? rest
        let more ← statementsWithin lines bound rest
        some (first :: more)

/-- The statements of a document, which may begin with a byte order mark.  Every step of a reader
consumes a character, so their number bounds the steps. -/
def statements (text : String) : Option (List Statement) :=
  let chars := match text.toList with
    | '\ufeff' :: rest => rest
    | chars => chars
  statementsWithin (chars.length + 1) (2 * chars.length + 2) chars

end Toml
end ClassEnhancement
