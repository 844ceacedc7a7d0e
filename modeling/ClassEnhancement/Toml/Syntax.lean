/-!
# TOML syntax

A document is a list of statements: pairs of a dotted key and a value, table headers and headers
of arrays of tables.  What the statements build together is decided where tables are made.
-/

namespace ClassEnhancement

/-- A value as spelled. -/
inductive TomlSyntax where
  /-- A text. -/
  | string (text : String)
  /-- An integer of 64 bits. -/
  | integer (value : Int)
  /-- A number with a point or an exponent; no setting is one, so it is kept without its value. -/
  | float
  /-- A truth value. -/
  | boolean (value : Bool)
  /-- A date, a time, or both; kept without its value for the same reason. -/
  | datetime
  /-- Items in order. -/
  | array (items : List TomlSyntax)
  /-- Pairs of an inline table, in order. -/
  | inlineTable (pairs : List (List String × TomlSyntax))

namespace Toml

/-- One statement of a document. -/
inductive Statement where
  /-- A dotted key with its value. -/
  | pair (key : List String) (value : TomlSyntax)
  /-- A table header. -/
  | table (key : List String)
  /-- A header that begins the next table of an array. -/
  | arrayTable (key : List String)

/-! ## Blanks, comments and line ends -/

/-- Blanks inside a line. -/
def isBlank (c : Char) : Bool := c == ' ' || c == '\t'

/-- Characters of comments and literal strings: no control characters but the tab. -/
def isPlain (c : Char) : Bool := c == '\t' || (0x20 ≤ c.toNat && c.toNat ≠ 0x7f)

/-- A text without blanks at its beginning. -/
def skipBlanks (text : List Char) : List Char := text.dropWhile isBlank

/-- What follows a line end. -/
def lineEnd? : List Char → Option (List Char)
  | '\n' :: rest => some rest
  | '\r' :: '\n' :: rest => some rest
  | _ => none

/-- A text without a comment at its beginning. -/
def skipComment : List Char → List Char
  | '#' :: rest => rest.dropWhile isPlain
  | text => text

/-- A text without the blanks, comments and line ends at its beginning; inside a comment if so
told. -/
def skipTrivia : Bool → List Char → List Char
  | _, [] => []
  | _, '\n' :: rest => skipTrivia false rest
  | _, '\r' :: '\n' :: rest => skipTrivia false rest
  | false, '#' :: rest => skipTrivia true rest
  | inComment, c :: rest =>
    if (if inComment then isPlain c else isBlank c) then skipTrivia inComment rest else c :: rest

end Toml
end ClassEnhancement
