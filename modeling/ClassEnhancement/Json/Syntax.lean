import ClassEnhancement.Json.Token

/-!
# JSON syntax

A text as it is spelled: repeated members stay, numbers keep their digits, and a string may lack a
text.  What a value needs beyond syntax is decided where values are made.
-/

namespace ClassEnhancement

/-- A text by its syntax alone. -/
inductive JsonSyntax where
  /-- The word `null`. -/
  | null
  /-- The words `true` and `false`. -/
  | bool (value : Bool)
  /-- A number as spelled. -/
  | number (spelling : Json.NumberText)
  /-- A string, without text when it holds half of a surrogate pair. -/
  | string (text : Option String)
  /-- Items in order. -/
  | array (items : List JsonSyntax)
  /-- Members in order, repetitions included. -/
  | object (members : List (Option String × JsonSyntax))

namespace Json

mutual

/-- A value at the beginning of tokens, and what follows. -/
def readValue : Nat → List Token → Option (JsonSyntax × List Token)
  | 0, _ => none
  | _ + 1, .null :: rest => some (.null, rest)
  | _ + 1, .bool value :: rest => some (.bool value, rest)
  | _ + 1, .number spelling :: rest => some (.number spelling, rest)
  | _ + 1, .string text :: rest => some (.string text, rest)
  | _ + 1, .openBracket :: .closeBracket :: rest => some (.array [], rest)
  | bound + 1, .openBracket :: rest =>
    match readItems bound rest with
    | some (items, rest) => some (.array items, rest)
    | none => none
  | _ + 1, .openBrace :: .closeBrace :: rest => some (.object [], rest)
  | bound + 1, .openBrace :: rest =>
    match readMembers bound rest with
    | some (members, rest) => some (.object members, rest)
    | none => none
  | _ + 1, _ => none

/-- Items up to the closing bracket, and what follows. -/
def readItems : Nat → List Token → Option (List JsonSyntax × List Token)
  | 0, _ => none
  | bound + 1, tokens =>
    match readValue bound tokens with
    | some (item, .closeBracket :: rest) => some ([item], rest)
    | some (item, .comma :: rest) =>
      match readItems bound rest with
      | some (items, rest) => some (item :: items, rest)
      | none => none
    | _ => none

/-- Members up to the closing brace, and what follows. -/
def readMembers : Nat → List Token → Option (List (Option String × JsonSyntax) × List Token)
  | bound + 1, .string key :: .colon :: tokens =>
    match readValue bound tokens with
    | some (value, .closeBrace :: rest) => some ([(key, value)], rest)
    | some (value, .comma :: rest) =>
      match readMembers bound rest with
      | some (members, rest) => some ((key, value) :: members, rest)
      | none => none
    | _ => none
  | _, _ => none

end

end Json

/-- Reads a text that is one value.  Every second step of the reader at the latest consumes a
token, so twice their number bounds the steps. -/
def JsonSyntax.parse? (text : String) : Option JsonSyntax := do
  let tokens ← Json.tokens text
  match Json.readValue (2 * tokens.length + 2) tokens with
  | some (value, []) => some value
  | _ => none

end ClassEnhancement
