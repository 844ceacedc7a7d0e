import ClassEnhancement.Text.Blank

/-!
# Lines

A line ends at a line feed, and one carriage return directly before it belongs to the line end.  A
last line without a line feed counts when it is not empty and keeps its carriage return.
-/

namespace ClassEnhancement
namespace Text

/-- A line without the carriage return that precedes its line feed. -/
def dropReturn (line : List Char) : List Char :=
  if line.getLast? = some '\r' then line.dropLast else line

/-- The lines of the pieces that line feeds separate; the last piece has no line feed. -/
def linesOfPieces : List (List Char) → List (List Char)
  | [] => []
  | [last] => if last.isEmpty then [] else [last]
  | piece :: next :: rest => dropReturn piece :: linesOfPieces (next :: rest)

/-- The lines of a text, without their line ends. -/
def lines (text : List Char) : List (List Char) := linesOfPieces (text.splitOn '\n')

theorem linesOfPieces_cons {piece : List Char} {rest : List (List Char)} (more : rest ≠ []) :
    linesOfPieces (piece :: rest) = dropReturn piece :: linesOfPieces rest := by
  cases rest with
  | nil => exact absurd rfl more
  | cons next rest => rfl

example : lines "a\r\n\nb\r".toList = ["a".toList, [], "b\r".toList] := by decide

end Text
end ClassEnhancement
