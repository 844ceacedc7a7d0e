import ClassEnhancement.Text.Split

/-!
# Tokens of JSON text

Punctuation, words, numbers as spelled, and strings.  A string keeps its characters; escapes may
also name half of a surrogate pair, and a string with an unpaired half has no text.
-/

namespace ClassEnhancement
namespace Json

/-- A number as spelled. -/
structure NumberText where
  /-- Whether a minus sign comes first. -/
  negative : Bool
  /-- Digits before the point. -/
  whole : List Char
  /-- Digits after the point, where there is one. -/
  fraction : Option (List Char)
  /-- Sign and digits of the exponent, where there is one. -/
  exponent : Option (Bool × List Char)
  deriving DecidableEq, Repr

/-- A token. -/
inductive Token where
  | openBrace | closeBrace | openBracket | closeBracket | comma | colon
  | null
  | bool (value : Bool)
  | number (spelling : NumberText)
  | string (text : Option String)
  deriving DecidableEq, Repr

/-- White space between tokens. -/
def isSpace (c : Char) : Bool := c == ' ' || c == '\n' || c == '\t' || c == '\r'

/-! ## Strings -/

/-- One unit of a string: a character, or an escaped half of a surrogate pair. -/
inductive Unit16 where
  /-- A character. -/
  | char (value : Char)
  /-- The first half of a pair. -/
  | high (code : Nat)
  /-- The second half of a pair. -/
  | low (code : Nat)
  deriving DecidableEq, Repr

/-- The unit that an escaped code names. -/
def Unit16.ofCode (code : Nat) : Unit16 :=
  if 0xd800 ≤ code ∧ code < 0xdc00 then .high code
  else if 0xdc00 ≤ code ∧ code < 0xe000 then .low code
  else .char (Char.ofNat code)

/-- Joins the halves of pairs; an unpaired half has no text. -/
def joinUnits : List Unit16 → Option (List Char)
  | [] => some []
  | .char c :: rest => (joinUnits rest).map (c :: ·)
  | .high first :: .low second :: rest =>
    (joinUnits rest).map
      (Char.ofNat (0x10000 + (first - 0xd800) * 0x400 + (second - 0xdc00)) :: ·)
  | _ => none

/-- Value of a hexadecimal digit. -/
def hexDigit? (c : Char) : Option Nat :=
  if '0' ≤ c ∧ c ≤ '9' then some (c.toNat - '0'.toNat)
  else if 'a' ≤ c ∧ c ≤ 'f' then some (c.toNat - 'a'.toNat + 10)
  else if 'A' ≤ c ∧ c ≤ 'F' then some (c.toNat - 'A'.toNat + 10)
  else none

/-- Value of four hexadecimal digits. -/
def hexCode? (a b c d : Char) : Option Nat := do
  let a ← hexDigit? a
  let b ← hexDigit? b
  let c ← hexDigit? c
  let d ← hexDigit? d
  some (((a * 16 + b) * 16 + c) * 16 + d)

/-- The character that a one-letter escape names. -/
def shortEscape? : Char → Option Char
  | '"' => some '"'
  | '\\' => some '\\'
  | '/' => some '/'
  | 'b' => some '\x08'
  | 'f' => some '\x0c'
  | 'n' => some '\n'
  | 'r' => some '\r'
  | 't' => some '\t'
  | _ => none

/-- Units of a string up to its closing quote, and what follows. -/
def stringUnits : List Char → Option (List Unit16 × List Char)
  | [] => none
  | '"' :: rest => some ([], rest)
  | '\\' :: 'u' :: a :: b :: c :: d :: rest => do
    let code ← hexCode? a b c d
    let (units, rest) ← stringUnits rest
    some (.ofCode code :: units, rest)
  | '\\' :: letter :: rest => do
    let value ← shortEscape? letter
    let (units, rest) ← stringUnits rest
    some (.char value :: units, rest)
  | c :: rest =>
    if c.toNat < 0x20 ∨ c = '\\' then none
    else (stringUnits rest).map fun (units, rest) => (.char c :: units, rest)

/-! ## Numbers -/

/-- Digits at the beginning of a text, and what follows. -/
def takeDigits (text : List Char) : List Char × List Char :=
  (text.takeWhile Char.isDigit, text.dropWhile Char.isDigit)

/-- At least one digit, and what follows. -/
def someDigits (text : List Char) : Option (List Char × List Char) :=
  let (digits, rest) := takeDigits text
  if digits.isEmpty then none else some (digits, rest)

/-- Digits before the point: a zero stands alone. -/
def wholeDigits : List Char → Option (List Char × List Char)
  | '0' :: rest => some (['0'], rest)
  | text => someDigits text

/-- Digits after the point, where there is a point. -/
def fractionDigits : List Char → Option (Option (List Char) × List Char)
  | '.' :: rest => (someDigits rest).map fun (digits, rest) => (some digits, rest)
  | text => some (none, text)

/-- An exponent after its letter. -/
def signedDigits : List Char → Option ((Bool × List Char) × List Char)
  | '+' :: rest => (someDigits rest).map fun (digits, rest) => ((false, digits), rest)
  | '-' :: rest => (someDigits rest).map fun (digits, rest) => ((true, digits), rest)
  | text => (someDigits text).map fun (digits, rest) => ((false, digits), rest)

/-- An exponent, where there is one. -/
def exponentDigits : List Char → Option (Option (Bool × List Char) × List Char)
  | 'e' :: rest => (signedDigits rest).map fun (digits, rest) => (some digits, rest)
  | 'E' :: rest => (signedDigits rest).map fun (digits, rest) => (some digits, rest)
  | text => some (none, text)

/-- A number after its sign. -/
def unsignedNumber (negative : Bool) (text : List Char) : Option (NumberText × List Char) := do
  let (whole, rest) ← wholeDigits text
  let (fraction, rest) ← fractionDigits rest
  let (exponent, rest) ← exponentDigits rest
  some ({ negative, whole, fraction, exponent }, rest)

/-- A number. -/
def number : List Char → Option (NumberText × List Char)
  | '-' :: rest => unsignedNumber true rest
  | text => unsignedNumber false text

/-! ## Token lists -/

/-- The first token of a text without leading white space, and what follows. -/
def nextToken : List Char → Option (Token × List Char)
  | '{' :: rest => some (.openBrace, rest)
  | '}' :: rest => some (.closeBrace, rest)
  | '[' :: rest => some (.openBracket, rest)
  | ']' :: rest => some (.closeBracket, rest)
  | ',' :: rest => some (.comma, rest)
  | ':' :: rest => some (.colon, rest)
  | 'n' :: 'u' :: 'l' :: 'l' :: rest => some (.null, rest)
  | 't' :: 'r' :: 'u' :: 'e' :: rest => some (.bool true, rest)
  | 'f' :: 'a' :: 'l' :: 's' :: 'e' :: rest => some (.bool false, rest)
  | '"' :: rest => do
    let (units, rest) ← stringUnits rest
    some (.string ((joinUnits units).map String.ofList), rest)
  | text => do
    let (spelling, rest) ← number text
    some (.number spelling, rest)

/-- At most a number of tokens, up to the end of the text. -/
def tokensWithin : Nat → List Char → Option (List Token)
  | 0, text => if text.all isSpace then some [] else none
  | bound + 1, text =>
    match text.dropWhile isSpace with
    | [] => some []
    | c :: rest => do
      let (token, rest) ← nextToken (c :: rest)
      let tokens ← tokensWithin bound rest
      some (token :: tokens)

/-- The tokens of a text; there are no more of them than characters. -/
def tokens (text : String) : Option (List Token) := tokensWithin text.toList.length text.toList

end Json
end ClassEnhancement
