/-!
# Shell patterns

A pattern matches a whole text.  A star stands for any text, a question mark for any character, and
brackets for one character out of a list.  Quoted characters stand for themselves.
-/

namespace ClassEnhancement
namespace Shell

/-- A piece of a pattern. -/
inductive Glob where
  /-- Any text. -/
  | anything
  /-- Any character. -/
  | anyChar
  /-- One character. -/
  | char (c : Char)
  /-- A character in one of some ranges, or in none of them. -/
  | oneOf (negated : Bool) (ranges : List (Char × Char))
  deriving DecidableEq, Repr

/-- A pattern. -/
abbrev Pattern := List Glob

namespace Pattern

/-- Whether a character is in one of some ranges. -/
def inRanges (ranges : List (Char × Char)) (c : Char) : Bool :=
  ranges.any fun range => range.1 ≤ c && c ≤ range.2

/-- Whether a pattern matches a whole text. -/
def matchesText : Pattern → List Char → Bool
  | [], text => text.isEmpty
  | .anything :: rest, text =>
    (List.range (text.length + 1)).any fun count => matchesText rest (text.drop count)
  | .anyChar :: rest, text =>
    match text with
    | [] => false
    | _ :: after => matchesText rest after
  | .char expected :: rest, text =>
    match text with
    | [] => false
    | c :: after => c == expected && matchesText rest after
  | .oneOf negated ranges :: rest, text =>
    match text with
    | [] => false
    | c :: after => (inRanges ranges c != negated) && matchesText rest after

/-- Ranges in brackets. -/
def rangesOf : List Char → List (Char × Char)
  | low :: '-' :: high :: rest => (low, high) :: rangesOf rest
  | c :: rest => (c, c) :: rangesOf rest
  | [] => []

/-- The characters in brackets, with whether they are quoted, and what follows the brackets. -/
def bracketAt? (chars : List (Char × Bool)) : Option (List Char × List (Char × Bool)) :=
  match chars with
  | [] => none
  | first :: rest =>
    match rest.dropWhile (· != (']', false)) with
    | _ :: after => some (first.1 :: (rest.takeWhile (· != (']', false))).map Prod.fst, after)
    | [] => none

/-- Brackets around characters. -/
def globOfBracket : List Char → Glob
  | '!' :: c :: rest => .oneOf true (rangesOf (c :: rest))
  | chars => .oneOf false (rangesOf chars)

/-- The pattern of a text of which some characters are quoted, read up to a bound. -/
def ofCharsWithin : Nat → List (Char × Bool) → Pattern
  | 0, _ => []
  | _ + 1, [] => []
  | bound + 1, ('*', false) :: rest => .anything :: ofCharsWithin bound rest
  | bound + 1, ('?', false) :: rest => .anyChar :: ofCharsWithin bound rest
  | bound + 1, ('[', false) :: rest =>
    match bracketAt? rest with
    | some (inside, after) => globOfBracket inside :: ofCharsWithin bound after
    | none => .char '[' :: ofCharsWithin bound rest
  | bound + 1, (c, _) :: rest => .char c :: ofCharsWithin bound rest

/-- The pattern of a text of which some characters are quoted. -/
def ofChars (chars : List (Char × Bool)) : Pattern := ofCharsWithin (chars.length + 1) chars

/-- The pattern of a text of which nothing is quoted. -/
def ofText (text : String) : Pattern := ofChars (text.toList.map fun c => (c, false))

@[simp]
theorem matchesText_anything (text : List Char) : matchesText [.anything] text = true := by
  simp only [matchesText, List.any_eq_true, List.mem_range]
  exact ⟨text.length, by omega, by simp⟩

example : matchesText (ofText "*B") "com.acme.B".toList = true := by decide
example : matchesText (ofText "com.acme.*)") "com.acme.B".toList = false := by decide

end Pattern
end Shell
end ClassEnhancement
