import ClassEnhancement.Shell.Arithmetic
import ClassEnhancement.Shell.Filename
import ClassEnhancement.Shell.State
import ClassEnhancement.Shell.Token

/-!
# Expanding words

The parameters of a word are replaced by their values, and scripts inside it by their output.  As
arguments of a command, what is not quoted is split and may match file names; elsewhere a word stays
whole.  Expanding a word may change the state, and may end the script.
-/

namespace ClassEnhancement
namespace Shell

/-- Runs a script inside a word, and gives its output. -/
abbrev Capture := String → State → State × String

/-- A piece of an expanded word. -/
inductive Expanded where
  /-- Text that is not split. -/
  | whole (text : String) (quoted : Bool)
  /-- Text that is split. -/
  | splitting (text : String)
  /-- The end of a field. -/
  | fieldEnd
  deriving DecidableEq, Repr

namespace Expanded

/-- A piece that is split unless it is quoted. -/
def ofText (quoted : Bool) (text : String) : Expanded :=
  if quoted then .whole text true else .splitting text

/-- Text of a piece. -/
def text : Expanded → String
  | whole text _ => text
  | splitting text => text
  | fieldEnd => " "

/-- Text of a piece with whether it is quoted. -/
def marked : Expanded → Marked
  | whole text quoted => text.toList.map fun c => (c, quoted)
  | piece => piece.text.toList.map fun c => (c, false)

end Expanded

namespace State

/-! ## Values -/

/-- Characters at which fields are split. -/
def separators (state : State) : List Char :=
  ((state.bindings.find? "IFS").getD " \t\n").toList

/-- All arguments in one text. -/
def joinedArguments (state : State) : String :=
  let separator :=
    match state.separators with
    | [] => ""
    | first :: _ => first.toString
  separator.intercalate state.arguments

/-- The value of a parameter, if it is set. -/
def value? (state : State) (name : String) : Option String :=
  if name = "#" then some (toString state.arguments.length)
  else if name = "?" then some (toString state.status)
  else if name = "$" then some processNumber
  else if name = "0" then some state.name
  else if name = "*" ∨ name = "@" then
    if state.arguments.isEmpty then none else some state.joinedArguments
  else
    match name.toNat? with
    | some position => state.arguments[position - 1]?
    | none => state.bindings.find? name

/-- Counts of characters, in the order in which a pattern tries them. -/
def tryOrder (cut : Cut) (length : Nat) : List Nat :=
  match cut with
  | .shortStart => List.range (length + 1)
  | .shortEnd => List.range (length + 1)
  | .longStart => (List.range (length + 1)).reverse
  | .longEnd => (List.range (length + 1)).reverse

/-- A value without what a pattern takes away. -/
def cutValue (cut : Cut) (pattern : Pattern) (value : List Char) : List Char :=
  let length := value.length
  let fromStart := cut = .shortStart ∨ cut = .longStart
  let taken (count : Nat) : List Char :=
    if fromStart then value.take count else value.drop (length - count)
  match (tryOrder cut length).find? fun count => pattern.matchesText (taken count) with
  | none => value
  | some count => if fromStart then value.drop count else value.take (length - count)

/-- The length of a parameter, which for all arguments is their number. -/
def lengthOf (state : State) (name : String) : Nat :=
  if name = "@" ∨ name = "*" then state.arguments.length
  else ((state.value? name).getD "").length

/-! ## Parts of words -/

/-- Whether a part stands for all arguments, each on its own. -/
def isAllArguments : WordPart → Bool
  | .parameter "@" .value _ => true
  | .parameter "*" .value quoted => !quoted
  | _ => false

/-- All arguments, each a field of its own. -/
def argumentPieces (state : State) (quoted : Bool) : List Expanded :=
  ((state.arguments.map fun argument => [Expanded.ofText quoted argument]).intersperse
    [.fieldEnd]).flatten

/-- Whether a value counts as set. -/
def countsAsSet (orEmpty : Bool) (value : Option String) : Bool :=
  value.isSome && !(orEmpty && value == some "")

/-- The state with the script ended where a parameter has to be set and is not. -/
def requireSet (state : State) (name : String) : State :=
  if state.options.stopsOnUnset ∧ (state.value? name).isNone ∧ name ≠ "@" ∧ name ≠ "*" then
    state.fail s!"{name}: parameter not set"
  else state

/-- The word that a text inside another word is. -/
def innerWord (quoted : Bool) (text : String) : Word :=
  (Token.wordOfText? .whole quoted text).getD [.text text quoted]

/-- Expands parts one after another. -/
def expandEach (expand : WordPart → State → State × List Expanded) (parts : Word) (state : State) :
    State × List Expanded :=
  parts.foldl
    (fun (state, pieces) part =>
      let (state, more) := expand part state
      (state, pieces ++ more))
    (state, [])

/-- Text of pieces. -/
def joined (pieces : List Expanded) : String := String.join (pieces.map Expanded.text)

/-- The value of an expression as a piece, or the end of the script. -/
def arithmeticPiece (state : State) (expression : String) (quoted : Bool) :
    State × List Expanded :=
  match Arithmetic.evaluateText state.bindings expression with
  | .ok (value, bindings) =>
    ({ state with bindings }, [.ofText quoted (toString value)])
  | .error error => (state.fail (error.message expression), [])

/-- Pieces of a part, in which words are nested down to a bound. -/
def expandPart (capture : Capture) : Nat → WordPart → State → State × List Expanded
  | 0, _, state => (state, [])
  | bound + 1, part, state =>
    let expandText (quoted : Bool) (text : String) (state : State) : State × List Expanded :=
      expandEach (expandPart capture bound) (innerWord quoted text) state
    match part with
    | .text content quoted => (state, [.whole content quoted])
    | .output script quoted =>
      let (state, text) := capture script state
      (state, [.ofText quoted text])
    | .arithmetic expression quoted =>
      let (state, pieces) := expandText true expression state
      state.arithmeticPiece (joined pieces) quoted
    | .parameter name change quoted =>
      let value := state.value? name
      let own : List Expanded := [.ofText quoted (value.getD "")]
      if isAllArguments part then (state, state.argumentPieces quoted)
      else
        match change with
        | .value => (state.requireSet name, own)
        | .length => (state.requireSet name, [.ofText quoted (toString (state.lengthOf name))])
        | .orElse orEmpty text =>
          if countsAsSet orEmpty value then (state, own) else expandText quoted text state
        | .orAssign orEmpty text =>
          if countsAsSet orEmpty value then (state, own)
          else
            let (state, pieces) := expandText quoted text state
            (state.setVariable name (joined pieces), [.ofText quoted (joined pieces)])
        | .orFail orEmpty text =>
          if countsAsSet orEmpty value then (state, own)
          else
            let (state, pieces) := expandText quoted text state
            let reason :=
              if text ≠ "" then joined pieces
              else "parameter not set" ++ (if orEmpty then " or null" else "")
            (state.fail s!"{name}: {reason}", [])
        | .whenSet orEmpty text =>
          if countsAsSet orEmpty value then expandText quoted text state else (state, [])
        | .cut cut text =>
          let (state, pieces) := expandText false text (state.requireSet name)
          let pattern := Pattern.ofChars (pieces.flatMap Expanded.marked)
          (state, [.ofText quoted (String.ofList (cutValue cut pattern (value.getD "").toList))])

/-- Length of the text inside a part. -/
def innerLength : WordPart → Nat
  | .text content _ => content.length
  | .parameter _ (.orElse _ text) _ => text.length
  | .parameter _ (.orAssign _ text) _ => text.length
  | .parameter _ (.orFail _ text) _ => text.length
  | .parameter _ (.whenSet _ text) _ => text.length
  | .parameter _ (.cut _ text) _ => text.length
  | .parameter _ _ _ => 0
  | .output script _ => script.length
  | .arithmetic expression _ => expression.length

/-- The pieces of a word.  An empty quotation next to all arguments adds nothing to them, and words
are nested no deeper than they are long. -/
def expand (capture : Capture) (word : Word) (state : State) : State × List Expanded :=
  let parts :=
    if word.any isAllArguments then word.filter fun part => part != .text "" true else word
  expandEach (fun part => expandPart capture (innerLength part + 2) part) parts state

/-! ## As one text -/

/-- The text of a word that stays whole. -/
def textOf (capture : Capture) (word : Word) (state : State) : State × String :=
  let (state, pieces) := expand capture word state
  (state, joined pieces)

/-- The pattern of a word. -/
def patternOf (capture : Capture) (word : Word) (state : State) : State × Pattern :=
  let (state, pieces) := expand capture word state
  (state, .ofChars (pieces.flatMap Expanded.marked))

/-! ## As fields -/

/-- Fields under construction. -/
structure Fields where
  /-- The field that pieces are added to, if it has begun. -/
  current : Option Marked
  /-- Whether the last field was ended by a blank, to which another separator still belongs. -/
  afterBlank : Bool
  /-- Fields that are complete. -/
  complete : List Marked

namespace Fields

/-- No fields. -/
def none : Fields := ⟨.none, false, []⟩

/-- Ends the current field. -/
def finish (fields : Fields) : Fields :=
  ⟨.none, false, fields.complete ++ fields.current.toList⟩

/-- Adds text to the current field. -/
def extend (fields : Fields) (text : Marked) : Fields :=
  { fields with current := some (fields.current.getD [] ++ text), afterBlank := false }

/-- Adds a character of a text that is split.  Blanks between fields count together; any other
separator ends a field, even an empty one. -/
def addChar (separators : List Char) (fields : Fields) (c : Char) : Fields :=
  if !separators.contains c then fields.extend [(c, false)]
  else if c = ' ' ∨ c = '\t' ∨ c = '\n' then
    if fields.current.isSome then { fields.finish with afterBlank := true } else fields
  else if fields.current.isSome then fields.finish
  else if fields.afterBlank then { fields with afterBlank := false }
  else { fields with complete := fields.complete ++ [[]] }

/-- Adds a piece. -/
def add (separators : List Char) (fields : Fields) : Expanded → Fields
  | .whole text quoted =>
    if text = "" ∧ !quoted then fields
    else fields.extend (text.toList.map fun c => (c, quoted))
  | .splitting text => text.toList.foldl (addChar separators) fields
  | .fieldEnd => fields.finish

end Fields

/-- The arguments that a word is expanded to. -/
def fieldsOf (capture : Capture) (word : Word) (state : State) : State × List String :=
  let (state, pieces) := expand capture word state
  let fields := (pieces.foldl (Fields.add state.separators) .none).finish
  (state, fields.complete.flatMap (Marked.expandPaths state.tree))

/-- The arguments that words are expanded to. -/
def fieldsOfAll (capture : Capture) (words : List Word) (state : State) : State × List String :=
  words.foldl
    (fun (state, fields) word =>
      let (state, more) := fieldsOf capture word state
      (state, fields ++ more))
    (state, [])

end State
end Shell
end ClassEnhancement
