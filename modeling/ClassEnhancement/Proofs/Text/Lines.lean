import ClassEnhancement.Text.Lines
import Mathlib.Data.List.DropRight

/-!
# Lines of a text

The lines of a text are what a grammar of line ends says, and cutting a text after a line feed cuts
the list of its lines.  A line is blank where all of its characters are.
-/

namespace ClassEnhancement
namespace Text

variable {text line front : List Char} {lines others : List (List Char)}

/-! ## A grammar of lines -/

/-- The lines that make up a text. -/
inductive HasLines : List Char → List (List Char) → Prop
  /-- There is nothing. -/
  | nothing : HasLines [] []
  /-- The last line has no line feed; a carriage return at its end belongs to it. -/
  | last {line : List Char} (some_text : line ≠ []) (unbroken : '\n' ∉ line) : HasLines line [line]
  /-- A line ends at a line feed. -/
  | feed {line rest : List Char} {lines : List (List Char)} (unbroken : '\n' ∉ line)
      (unreturned : line.getLast? ≠ some '\r') :
      HasLines rest lines → HasLines (line ++ '\n' :: rest) (line :: lines)
  /-- A carriage return before the line feed belongs to the line end. -/
  | returnAndFeed {line rest : List Char} {lines : List (List Char)} (unbroken : '\n' ∉ line) :
      HasLines rest lines → HasLines (line ++ '\r' :: '\n' :: rest) (line :: lines)

theorem dropReturn_concat (line : List Char) : dropReturn (line ++ ['\r']) = line := by
  simp [dropReturn]

theorem dropReturn_of_unreturned (unreturned : line.getLast? ≠ some '\r') :
    dropReturn line = line := if_neg unreturned

theorem lines_of_feed (unbroken : '\n' ∉ line) (rest : List Char) :
    Text.lines (line ++ '\n' :: rest) = dropReturn line :: Text.lines rest := by
  have cut : (line ++ '\n' :: rest).splitOn '\n' = line :: rest.splitOn '\n' := by
    rw [List.splitOn_append_cons_self, List.splitOn_eq_singleton unbroken]
    rfl
  rw [Text.lines, cut, linesOfPieces_cons (List.splitOn_ne_nil _ _)]
  rfl

theorem lines_of_last (some_text : line ≠ []) (unbroken : '\n' ∉ line) :
    Text.lines line = [line] := by
  rw [Text.lines, List.splitOn_eq_singleton unbroken, linesOfPieces]
  simp [some_text]

theorem HasLines.lines_eq (has_lines : HasLines text lines) : Text.lines text = lines := by
  induction has_lines with
  | nothing => rfl
  | last some_text unbroken => exact lines_of_last some_text unbroken
  | feed unbroken unreturned _ hypothesis =>
      rw [lines_of_feed unbroken, dropReturn_of_unreturned unreturned, hypothesis]
  | @returnAndFeed line rest lines unbroken _ hypothesis =>
      have unbroken : '\n' ∉ line ++ ['\r'] := by simpa using unbroken
      have read := lines_of_feed unbroken rest
      rwa [dropReturn_concat, hypothesis, List.append_assoc] at read

/-- Every text has lines. -/
theorem hasLines (text : List Char) : HasLines text (Text.lines text) := by
  by_cases broken : '\n' ∈ text
  · obtain ⟨line, rest, split, unbroken⟩ := List.eq_append_cons_of_mem broken
    have shorter : rest.length < text.length := by simp [split]; omega
    have onward := hasLines rest
    rw [split, lines_of_feed unbroken]
    by_cases returned : line.getLast? = some '\r'
    · obtain ⟨line, rfl⟩ := List.getLast?_eq_some_iff.mp returned
      rw [dropReturn_concat, List.append_assoc]
      exact .returnAndFeed (fun inside => unbroken (List.mem_append_left _ inside)) onward
    · rw [dropReturn_of_unreturned returned]
      exact .feed unbroken returned onward
  · by_cases empty : text = []
    · subst empty
      exact .nothing
    · rw [lines_of_last empty broken]
      exact .last empty broken
termination_by text.length

/-- The lines of a text are those that make it up. -/
theorem hasLines_iff : HasLines text lines ↔ Text.lines text = lines :=
  ⟨HasLines.lines_eq, fun same => same ▸ hasLines text⟩

/-- No line holds a line feed. -/
theorem HasLines.unbroken (has_lines : HasLines text lines) : ∀ line ∈ lines, '\n' ∉ line := by
  induction has_lines with
  | nothing => exact nofun
  | last _ unbroken => simpa using unbroken
  | feed unbroken _ _ hypothesis => exact List.forall_mem_cons.mpr ⟨unbroken, hypothesis⟩
  | returnAndFeed unbroken _ hypothesis => exact List.forall_mem_cons.mpr ⟨unbroken, hypothesis⟩

/-! ## Cutting a text after a line -/

/-- A text that is empty or ends in a line feed. -/
def EndsLine (text : List Char) : Prop := text = [] ∨ text.getLast? = some '\n'

instance (text : List Char) : Decidable (EndsLine text) := inferInstanceAs (Decidable (_ ∨ _))

/-- A text cut after a line feed has the lines of both parts. -/
theorem HasLines.append (has_lines : HasLines front lines) (ends : EndsLine front)
    (has_lines' : HasLines text others) : HasLines (front ++ text) (lines ++ others) := by
  induction has_lines with
  | nothing => exact has_lines'
  | last some_text unbroken =>
      rcases ends with rfl | fed
      · exact absurd rfl some_text
      · exact absurd (List.mem_of_getLast? fed) unbroken
  | @feed line rest lines unbroken unreturned _ hypothesis =>
      have ends_rest : EndsLine rest := by
        cases rest with
        | nil => exact .inl rfl
        | cons c rest => exact .inr (by simpa [EndsLine] using ends)
      rw [List.append_assoc]
      exact .feed unbroken unreturned (hypothesis ends_rest)
  | @returnAndFeed line rest lines unbroken _ hypothesis =>
      have ends_rest : EndsLine rest := by
        cases rest with
        | nil => exact .inl rfl
        | cons c rest => exact .inr (by simpa [EndsLine] using ends)
      rw [List.append_assoc]
      exact .returnAndFeed unbroken (hypothesis ends_rest)

/-- A text that ends in a line end is a list of whole lines. -/
theorem lines_append_of_ended (ends : EndsLine front) (text : List Char) :
    Text.lines (front ++ text) = Text.lines front ++ Text.lines text :=
  ((hasLines front).append ends (hasLines text)).lines_eq

/-! ## Blank lines -/

/-- Nothing is left of a line when all of it is white space. -/
theorem trim_eq_nil_iff : trim line = [] ↔ ∀ c ∈ line, isBlank c = true := by
  have ending : ∀ text : List Char, dropEnd isBlank text = [] ↔ ∀ c ∈ text, isBlank c = true :=
    fun text => List.rdropWhile_eq_nil_iff
  rw [trim, ending, dropStart]
  constructor
  · intro blank c inside
    rw [← List.takeWhile_append_dropWhile (p := isBlank) (l := line)] at inside
    rcases List.mem_append.mp inside with early | late
    · exact List.mem_takeWhile_imp early
    · exact blank c late
  · exact fun blank c inside => blank c (List.dropWhile_sublist isBlank |>.subset inside)

end Text
end ClassEnhancement
