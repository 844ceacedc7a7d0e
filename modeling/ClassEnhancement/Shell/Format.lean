import ClassEnhancement.Shell.Arithmetic
import ClassEnhancement.Shell.Octets

/-!
# Formatted output

A format is text with escapes and places for arguments.  It is used again and again until no
argument is left, and a place without an argument is filled with nothing or zero.
-/

namespace ClassEnhancement
namespace Shell

/-- A width or precision. -/
inductive Extent where
  /-- Given in the format. -/
  | given (value : Nat)
  /-- Taken from the arguments. -/
  | fromArgument
  deriving DecidableEq, Repr

/-- A place for an argument. -/
structure Place where
  /-- Letter of the conversion. -/
  letter : Char
  /-- Flags before the width. -/
  flags : List Char
  /-- Least number of characters. -/
  width : Extent
  /-- Greatest number of characters, or least number of digits. -/
  precision : Option Extent
  deriving DecidableEq, Repr

/-- A piece of a format. -/
inductive FormatPiece where
  /-- Text that stands for itself. -/
  | text (content : String)
  /-- A place for an argument. -/
  | place (place : Place)
  /-- Something that is no place; it ends the output. -/
  | bad (message : String)
  deriving DecidableEq, Repr

/-- What comes of formatting. -/
structure Formatted where
  /-- The output. -/
  output : String
  /-- Errors in order. -/
  errors : List String
  /-- The status. -/
  status : Nat
  /-- Whether the output was ended early. -/
  ended : Bool
  deriving DecidableEq, Repr

namespace Formatted

/-- No output. -/
def nothing : Formatted := ⟨"", [], 0, false⟩

/-- Output alone. -/
def text (output : String) : Formatted := { nothing with output }

/-- One output after another, unless the first one was ended early. -/
def append (first second : Formatted) : Formatted :=
  if first.ended then first
  else
    ⟨first.output ++ second.output, first.errors ++ second.errors,
      max first.status second.status, second.ended⟩

end Formatted

namespace Format

/-! ## Escapes -/

/-- Octal digits at the start of a text, no more than a number of them, with what follows. -/
def octalAt : Nat → Nat → List Char → Nat × List Char
  | 0, value, text => (value, text)
  | _ + 1, value, [] => (value, [])
  | digits + 1, value, c :: rest =>
    if '0' ≤ c ∧ c ≤ '7' then octalAt digits (value * 8 + (c.toNat - '0'.toNat)) rest
    else (value, c :: rest)

/-- The character that a letter after a backslash stands for. -/
def escaped? : Char → Option Char
  | 'a' => some '\x07'
  | 'b' => some '\x08'
  | 'e' => some '\x1b'
  | 'f' => some '\x0c'
  | 'n' => some '\n'
  | 'r' => some '\r'
  | 't' => some '\t'
  | 'v' => some '\x0b'
  | '\\' => some '\\'
  | _ => none

/-- What a backslash before a text stands for, with what follows.  A zero may come before an octal
number without counting as one of its digits. -/
def escapeAt (extraZero : Bool) (text : List Char) : List Char × List Char :=
  match text with
  | [] => (['\\'], [])
  | c :: rest =>
    match escaped? c with
    | some character => ([character], rest)
    | none =>
      if '0' ≤ c ∧ c ≤ '7' then
        let (value, after) := octalAt 3 0 (if extraZero ∧ c = '0' then rest else text)
        ([Char.ofNat (value % 256)], after)
      else (['\\', c], rest)

/-- A text with its escapes replaced; one escape ends all output. -/
def unescapeWithin : Nat → List Char → List Char × Bool
  | 0, _ => ([], false)
  | _ + 1, [] => ([], false)
  | bound + 1, '\\' :: rest =>
    if rest.head? = some 'c' then ([], true)
    else
      let (characters, after) := escapeAt true rest
      let (more, ended) := unescapeWithin bound after
      (characters ++ more, ended)
  | bound + 1, c :: rest =>
    let (more, ended) := unescapeWithin bound rest
    (c :: more, ended)

/-- A text with its escapes replaced, and whether an escape ended all output. -/
def unescape (text : String) : String × Bool :=
  let (characters, ended) := unescapeWithin (text.length + 1) text.toList
  (String.ofList characters, ended)

/-! ## Reading formats -/

/-- The number at the start of a text, with what follows. -/
def numberAt (text : List Char) : Nat × List Char :=
  ((text.takeWhile Char.isDigit).foldl (fun value c => value * 10 + (c.toNat - '0'.toNat)) 0,
    text.dropWhile Char.isDigit)

/-- The width or precision at the start of a text, with what follows. -/
def extentAt : List Char → Extent × List Char
  | '*' :: rest => (.fromArgument, rest)
  | text =>
    let (value, rest) := numberAt text
    (.given value, rest)

/-- Flags of a place. -/
def isFlag (c : Char) : Bool := "-0+ #".toList.contains c

/-- Letters of conversions. -/
def isConversion (c : Char) : Bool := "sbcdiuoxX".toList.contains c

/-- The place after a percent sign, with what follows. -/
def placeAt (text : List Char) : FormatPiece × List Char :=
  let (width, afterWidth) := extentAt (text.dropWhile isFlag)
  let (precision, rest) : Option Extent × List Char :=
    match afterWidth with
    | '.' :: digits =>
      let (extent, after) := extentAt digits
      (some extent, after)
    | other => (none, other)
  match rest with
  | [] => (.bad "missing format character", [])
  | letter :: after =>
    if isConversion letter then
      (.place ⟨letter, text.takeWhile isFlag, width, precision⟩, after)
    else
      let spelled := text.take (text.length - after.length)
      (.bad s!"%{String.ofList spelled}: invalid directive", after)

/-- Pieces of a format, read up to a bound. -/
def piecesWithin : Nat → List Char → List FormatPiece
  | 0, _ => []
  | _ + 1, [] => []
  | bound + 1, '%' :: '%' :: rest => .text "%" :: piecesWithin bound rest
  | bound + 1, '%' :: rest =>
    let (piece, after) := placeAt rest
    piece :: piecesWithin bound after
  | bound + 1, '\\' :: rest =>
    let (characters, after) := escapeAt false rest
    .text (String.ofList characters) :: piecesWithin bound after
  | bound + 1, c :: rest => .text c.toString :: piecesWithin bound rest

/-- Pieces of a format. -/
def pieces (format : String) : List FormatPiece := piecesWithin (format.length + 1) format.toList

/-! ## Filling places -/

/-- A number in an argument, with an error if it is not one as a whole. -/
def numberOf (argument : String) : Int × Option String :=
  match argument.toList with
  | [] => (0, none)
  | '\'' :: c :: _ => (c.toNat, none)
  | '"' :: c :: _ => (c.toNat, none)
  | chars =>
    let text := chars.dropWhile Char.isWhitespace
    let readable (count : Nat) : Option Int := Arithmetic.signed? (text.take count)
    match ((List.range (text.length + 1)).reverse).findSome? fun count =>
        (readable count).map fun value => (count, value) with
    | none => (0, some s!"{argument}: expected numeric value")
    | some (count, value) =>
      (value, if count = text.length then none else some s!"{argument}: not completely converted")

/-- Digits of a number in a base, in small letters or capitals, with a least number of digits. -/
def digits (base : Nat) (capitals : Bool) (precision : Option Nat) (value : Nat) : List Char :=
  let spelled := if precision = some 0 ∧ value = 0 then [] else Nat.toDigits base value
  let missing := (precision.getD 1) - spelled.length
  List.replicate missing '0' ++ (if capitals then spelled.map Char.toUpper else spelled)

/-- Sign and digits of a number, by the letter of the conversion. -/
def numeral (flags : List Char) (precision : Option Nat) (letter : Char) (value : Int) :
    List Char × List Char :=
  let bits := Arithmetic.bits value
  let marked := flags.contains '#' && value != 0
  match letter with
  | 'o' =>
    let spelled := digits 8 false precision bits
    ([], if flags.contains '#' ∧ spelled.head? ≠ some '0' then '0' :: spelled else spelled)
  | 'x' => (if marked then ['0', 'x'] else [], digits 16 false precision bits)
  | 'X' => (if marked then ['0', 'X'] else [], digits 16 true precision bits)
  | 'u' => ([], digits 10 false precision bits)
  | _ =>
    let sign : List Char :=
      if value < 0 then ['-']
      else if flags.contains '+' then ['+']
      else if flags.contains ' ' then [' ']
      else []
    (sign, digits 10 false precision value.natAbs)

/-- A text filled up to a width. -/
def pad (flags : List Char) (width : Nat) (zeros : Bool) (sign text : List Char) : String :=
  let missing := width - (sign.length + text.length)
  String.ofList <|
    if flags.contains '-' then sign ++ text ++ List.replicate missing ' '
    else if zeros then sign ++ List.replicate missing '0' ++ text
    else List.replicate missing ' ' ++ sign ++ text

/-- A place filled with an argument, if there is one, given its width and precision. -/
def fill (place : Place) (width : Nat) (precision : Option Nat) (argument : Option String) :
    Formatted :=
  let text := argument.getD ""
  let shortened (text : String) : List Char := text.toList.take (precision.getD text.length)
  match place.letter with
  | 's' => .text (pad place.flags width false [] (shortened text))
  | 'b' =>
    let (unescaped, ended) := unescape text
    { Formatted.text (pad place.flags width false [] (shortened unescaped)) with ended }
  | 'c' =>
    let first := if text = "" then ['\x00'] else text.toList.take 1
    .text (pad place.flags width false [] first)
  | letter =>
    let (value, error) := numberOf text
    let (sign, spelled) := numeral place.flags precision letter value
    let zeros := place.flags.contains '0' && precision.isNone
    { Formatted.text (pad place.flags width zeros sign spelled) with
      errors := error.toList
      status := if error.isSome then 1 else 0 }

/-- The value of a width or precision, with the arguments that are left. -/
def extentValue (extent : Extent) (arguments : List String) : Nat × List String :=
  match extent with
  | .given value => (value, arguments)
  | .fromArgument => ((numberOf (arguments.headD "")).1.toNat, arguments.tail)

/-- One use of a format, with the arguments that are left after it. -/
def once : List FormatPiece → List String → Formatted × List String
  | [], arguments => (.nothing, arguments)
  | .text content :: rest, arguments =>
    let (more, left) := once rest arguments
    ((Formatted.text content).append more, left)
  | .bad message :: _, arguments => (⟨"", [message], 2, true⟩, arguments)
  | .place place :: rest, arguments =>
    let (width, arguments) := extentValue place.width arguments
    let (precision, arguments) : Option Nat × List String :=
      match place.precision with
      | none => (none, arguments)
      | some extent =>
        let (value, left) := extentValue extent arguments
        (some value, left)
    let written := fill place width precision arguments.head?
    let (more, left) := once rest arguments.tail
    (written.append more, left)

/-- Uses of a format until no argument is left, or until it uses none. -/
def repeatedly : Nat → List FormatPiece → List String → Formatted
  | 0, _, _ => .nothing
  | bound + 1, pieces, arguments =>
    let (written, left) := once pieces arguments
    if left.isEmpty ∨ left.length = arguments.length then written
    else written.append (repeatedly bound pieces left)

/-- The output of a format with arguments. -/
def apply (format : String) (arguments : List String) : Formatted :=
  repeatedly (arguments.length + 1) (pieces format) arguments

example : (apply "%s|%s" ["a", "b c"]).output = "a|b c" := by decide
example : bytesOfText (apply "\\377x\\n" []).output = [255, 120, 10] := by decide

end Format
end Shell
end ClassEnhancement
