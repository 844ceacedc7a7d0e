import ClassEnhancement.Decimal.Binary64
import ClassEnhancement.Toml.Syntax

/-!
# TOML scalars

Strings in their four forms, integers in four bases, floats, dates and times.
-/

namespace ClassEnhancement
namespace Toml

/-! ## Strings -/

/-- Characters of a basic string that stand for themselves. -/
def isBasicChar (c : Char) : Bool := isPlain c && c != '"' && c != '\\'

/-- Value of a hexadecimal digit. -/
def hexValue? (c : Char) : Option Nat :=
  if '0' ≤ c ∧ c ≤ '9' then some (c.toNat - '0'.toNat)
  else if 'a' ≤ c ∧ c ≤ 'f' then some (c.toNat - 'a'.toNat + 10)
  else if 'A' ≤ c ∧ c ≤ 'F' then some (c.toNat - 'A'.toNat + 10)
  else none

/-- The character with a hexadecimal code point; halves of surrogate pairs are none. -/
def charOfHex? (digits : List Char) : Option Char := do
  let values ← digits.mapM hexValue?
  let code := values.foldl (fun code value => code * 16 + value) 0
  if code < 0xd800 ∨ (0xe000 ≤ code ∧ code < 0x110000) then some (Char.ofNat code) else none

/-- The character that a one-letter escape names. -/
def escape? : Char → Option Char
  | 'b' => some '\x08'
  | 't' => some '\t'
  | 'n' => some '\n'
  | 'f' => some '\x0c'
  | 'r' => some '\r'
  | '"' => some '"'
  | '\\' => some '\\'
  | _ => none

/-- A basic string after its opening quote. -/
def basicString : List Char → Option (List Char × List Char)
  | '"' :: rest => some ([], rest)
  | '\\' :: 'u' :: a :: b :: c :: d :: rest => do
    let value ← charOfHex? [a, b, c, d]
    let (text, rest) ← basicString rest
    some (value :: text, rest)
  | '\\' :: 'U' :: a :: b :: c :: d :: e :: f :: g :: h :: rest => do
    let value ← charOfHex? [a, b, c, d, e, f, g, h]
    let (text, rest) ← basicString rest
    some (value :: text, rest)
  | '\\' :: letter :: rest => do
    let value ← escape? letter
    let (text, rest) ← basicString rest
    some (value :: text, rest)
  | c :: rest =>
    if isBasicChar c then (basicString rest).map fun (text, rest) => (c :: text, rest) else none
  | [] => none

/-- Whether only blanks stand before the next line end. -/
def restOfLineIsBlank (text : List Char) : Bool := (lineEnd? (skipBlanks text)).isSome

/-- A basic string of several lines after its opening quotes.  Up to two quotes may stand before
the closing ones.  A backslash at the end of a line takes the white space after it away; the flag
says that this is going on. -/
def longBasicString : Bool → List Char → Option (List Char × List Char)
  | _, '"' :: '"' :: '"' :: '"' :: '"' :: rest => some (['"', '"'], rest)
  | _, '"' :: '"' :: '"' :: '"' :: rest => some (['"'], rest)
  | _, '"' :: '"' :: '"' :: rest => some ([], rest)
  | true, '\n' :: rest => longBasicString true rest
  | true, '\r' :: '\n' :: rest => longBasicString true rest
  | true, ' ' :: rest => longBasicString true rest
  | true, '\t' :: rest => longBasicString true rest
  | _, '\n' :: rest => (longBasicString false rest).map fun (text, rest) => ('\n' :: text, rest)
  | _, '\r' :: '\n' :: rest =>
    (longBasicString false rest).map fun (text, rest) => ('\n' :: text, rest)
  | _, '\\' :: 'u' :: a :: b :: c :: d :: rest => do
    let value ← charOfHex? [a, b, c, d]
    let (text, rest) ← longBasicString false rest
    some (value :: text, rest)
  | _, '\\' :: 'U' :: a :: b :: c :: d :: e :: f :: g :: h :: rest => do
    let value ← charOfHex? [a, b, c, d, e, f, g, h]
    let (text, rest) ← longBasicString false rest
    some (value :: text, rest)
  | _, '\\' :: letter :: rest =>
    if restOfLineIsBlank (letter :: rest) then longBasicString true (letter :: rest)
    else do
      let value ← escape? letter
      let (text, rest) ← longBasicString false rest
      some (value :: text, rest)
  | _, c :: rest =>
    if isBasicChar c || c == '"' then
      (longBasicString false rest).map fun (text, rest) => (c :: text, rest)
    else none
  | _, [] => none

/-- A literal string after its opening quote. -/
def literalString : List Char → Option (List Char × List Char)
  | '\'' :: rest => some ([], rest)
  | c :: rest =>
    if isPlain c then (literalString rest).map fun (text, rest) => (c :: text, rest) else none
  | [] => none

/-- A literal string of several lines after its opening quotes. -/
def longLiteralString : List Char → Option (List Char × List Char)
  | '\'' :: '\'' :: '\'' :: '\'' :: '\'' :: rest => some (['\'', '\''], rest)
  | '\'' :: '\'' :: '\'' :: '\'' :: rest => some (['\''], rest)
  | '\'' :: '\'' :: '\'' :: rest => some ([], rest)
  | '\r' :: '\n' :: rest => (longLiteralString rest).map fun (text, rest) => ('\n' :: text, rest)
  | c :: rest =>
    if isPlain c || c == '\n' then
      (longLiteralString rest).map fun (text, rest) => (c :: text, rest)
    else none
  | [] => none

/-- A text without the line end that may follow the opening quotes of a long string. -/
def skipFirstLineEnd (text : List Char) : List Char := (lineEnd? text).getD text

/-- A string of any form. -/
def string : List Char → Option (String × List Char)
  | '"' :: '"' :: '"' :: rest =>
    (longBasicString false (skipFirstLineEnd rest)).map fun (text, rest) =>
      (String.ofList text, rest)
  | '\'' :: '\'' :: '\'' :: rest =>
    (longLiteralString (skipFirstLineEnd rest)).map fun (text, rest) => (String.ofList text, rest)
  | '"' :: rest => (basicString rest).map fun (text, rest) => (String.ofList text, rest)
  | '\'' :: rest => (literalString rest).map fun (text, rest) => (String.ofList text, rest)
  | _ => none

/-! ## Numbers -/

/-- Further digits of a number, each of which may follow one underscore. -/
def moreDigits (digit : Char → Bool) : List Char → List Char × List Char
  | '_' :: c :: rest =>
    if digit c then
      let (digits, rest) := moreDigits digit rest
      (c :: digits, rest)
    else ([], '_' :: c :: rest)
  | c :: rest =>
    if digit c then
      let (digits, rest) := moreDigits digit rest
      (c :: digits, rest)
    else ([], c :: rest)
  | [] => ([], [])

/-- Digits of a number, at least one. -/
def digits (digit : Char → Bool) : List Char → Option (List Char × List Char)
  | c :: rest =>
    if digit c then
      let (more, rest) := moreDigits digit rest
      some (c :: more, rest)
    else none
  | [] => none

/-- Digits before the point: a zero stands alone. -/
def wholeDigits : List Char → Option (List Char × List Char)
  | '0' :: rest => some (['0'], rest)
  | text => digits Char.isDigit text

/-- Whether a minus sign stands first, and what follows a sign. -/
def signOf : List Char → Bool × List Char
  | '-' :: rest => (true, rest)
  | '+' :: rest => (false, rest)
  | text => (false, text)

/-- The number that digits spell in a base. -/
def valueOf (base : Nat) (digits : List Char) : Nat :=
  digits.foldl (fun value c => value * base + (hexValue? c).getD 0) 0

/-- An integer of 64 bits. -/
def bounded? (value : Int) : Option Int :=
  let bound : Int := (1 <<< 63 : Nat)
  if -bound ≤ value ∧ value < bound then some value else none

/-- An integer in another base than ten, after its mark. -/
def basedInteger (base : Nat) (digit : Char → Bool) (text : List Char) :
    Option (TomlSyntax × List Char) := do
  let (spelled, rest) ← digits digit text
  let value ← bounded? (valueOf base spelled)
  some (.integer value, rest)

/-- An integer. -/
def integer : List Char → Option (TomlSyntax × List Char)
  | '0' :: 'x' :: rest => basedInteger 16 (fun c => (hexValue? c).isSome) rest
  | '0' :: 'o' :: rest => basedInteger 8 (fun c => '0' ≤ c && c ≤ '7') rest
  | '0' :: 'b' :: rest => basedInteger 2 (fun c => c == '0' || c == '1') rest
  | text => do
    let (negative, text) := signOf text
    let (spelled, rest) ← wholeDigits text
    let magnitude : Int := valueOf 10 spelled
    let value ← bounded? (if negative then -magnitude else magnitude)
    some (.integer value, rest)

/-- An exponent with its letter. -/
def exponent : List Char → Option (Int × List Char)
  | 'e' :: rest => signedDigits rest
  | 'E' :: rest => signedDigits rest
  | _ => none
where
  /-- Digits of an exponent after an optional sign. -/
  signedDigits (text : List Char) : Option (Int × List Char) := do
    let (negative, text) := signOf text
    let (spelled, rest) ← digits Char.isDigit text
    let magnitude : Int := valueOf 10 spelled
    some (if negative then -magnitude else magnitude, rest)

/-- A float with a point, an exponent or both.  One that is too great is refused, and one that is
too far below zero is not. -/
def float (text : List Char) : Option (TomlSyntax × List Char) := do
  let (negative, text) := signOf text
  let (whole, rest) ← wholeDigits text
  let (fraction, power, rest) ←
    match rest with
    | '.' :: rest => do
      let (fraction, rest) ← digits Char.isDigit rest
      match exponent rest with
      | some (power, rest) => some (fraction, power, rest)
      | none => some (fraction, 0, rest)
    | _ => do
      let (power, rest) ← exponent rest
      some ([], power, rest)
  let value :=
    Binary64.ofDecimal? negative (valueOf 10 (whole ++ fraction)) (power - fraction.length)
  if value.isSome || negative then some (.float, rest) else none

/-- The numbers that have names. -/
def namedFloat (text : List Char) : Option (TomlSyntax × List Char) :=
  match (signOf text).2 with
  | 'i' :: 'n' :: 'f' :: rest => some (.float, rest)
  | 'n' :: 'a' :: 'n' :: rest => some (.float, rest)
  | _ => none

/-! ## Dates and times -/

/-- The number that a fixed count of digits spells. -/
def fixedDigits (count : Nat) (text : List Char) : Option (Nat × List Char) :=
  let taken := text.take count
  if taken.length = count ∧ taken.all Char.isDigit then some (valueOf 10 taken, text.drop count)
  else none

/-- A number of two digits with a greatest value. -/
def twoDigits (greatest : Nat) (text : List Char) : Option (Nat × List Char) := do
  let (value, rest) ← fixedDigits 2 text
  if value ≤ greatest then some (value, rest) else none

/-- What follows an expected character. -/
def expect (expected : Char) : List Char → Option (List Char)
  | c :: rest => if c = expected then some rest else none
  | [] => none

/-- Years with a twenty-ninth of February. -/
def isLeapYear (year : Nat) : Bool := year % 4 == 0 && (year % 100 != 0 || year % 400 == 0)

/-- Number of days of a month. -/
def daysOf (year month : Nat) : Nat :=
  if month = 2 then if isLeapYear year then 29 else 28
  else if month = 4 ∨ month = 6 ∨ month = 9 ∨ month = 11 then 30
  else 31

/-- What follows a date. -/
def date (text : List Char) : Option (List Char) := do
  let (year, rest) ← fixedDigits 4 text
  let rest ← expect '-' rest
  let (month, rest) ← twoDigits 12 rest
  let rest ← expect '-' rest
  let (day, rest) ← twoDigits 31 rest
  if 1 ≤ month ∧ 1 ≤ day ∧ day ≤ daysOf year month then some rest else none

/-- What follows a time of day. -/
def time (text : List Char) : Option (List Char) := do
  let (_, rest) ← twoDigits 23 text
  let rest ← expect ':' rest
  let (_, rest) ← twoDigits 59 rest
  let rest ← expect ':' rest
  let (_, rest) ← twoDigits 60 rest
  match rest with
  | '.' :: rest =>
    let decimals := rest.takeWhile Char.isDigit
    if decimals.isEmpty then none else some (rest.dropWhile Char.isDigit)
  | _ => some rest

/-- What follows an offset, where there is one. -/
def offset : List Char → List Char
  | 'Z' :: rest => rest
  | 'z' :: rest => rest
  | sign :: rest =>
    let zone := do
      let (_, rest) ← twoDigits 23 rest
      let rest ← expect ':' rest
      let (_, rest) ← twoDigits 59 rest
      some rest
    match zone with
    | some rest' => if sign = '+' ∨ sign = '-' then rest' else sign :: rest
    | none => sign :: rest
  | [] => []

/-- Characters between a date and a time. -/
def isTimeMark (c : Char) : Bool := c == 'T' || c == 't' || c == ' '

/-- A date, a time, or both. -/
def datetime (text : List Char) : Option (TomlSyntax × List Char) :=
  match date text with
  | some [] => some (.datetime, [])
  | some (mark :: rest) =>
    match time rest with
    | some rest' =>
      if isTimeMark mark then some (.datetime, offset rest') else some (.datetime, mark :: rest)
    | none => some (.datetime, mark :: rest)
  | none => (time text).map fun rest => (.datetime, rest)

/-! ## Any scalar -/

/-- A scalar of any kind. -/
def scalar : List Char → Option (TomlSyntax × List Char)
  | 't' :: 'r' :: 'u' :: 'e' :: rest => some (.boolean true, rest)
  | 'f' :: 'a' :: 'l' :: 's' :: 'e' :: rest => some (.boolean false, rest)
  | text =>
    (string text).map (fun (value, rest) => (.string value, rest))
      <|> datetime text <|> float text <|> namedFloat text <|> integer text

end Toml
end ClassEnhancement
