import ClassEnhancement.Json.Value
import ClassEnhancement.Text.Quoted

/-!
# Writing JSON

Values are written over several lines with two spaces for each level, empty containers in place.
Strings escape quotes, backslashes and control characters, and nothing else.
-/

namespace ClassEnhancement
namespace JsonValue

/-- One character inside a string. -/
def escapeChar (c : Char) : List Char :=
  if c = '"' then ['\\', '"']
  else if c = '\\' then ['\\', '\\']
  else if c = '\x08' then ['\\', 'b']
  else if c = '\x0c' then ['\\', 'f']
  else if c = '\n' then ['\\', 'n']
  else if c = '\r' then ['\\', 'r']
  else if c = '\t' then ['\\', 't']
  else if c.toNat < 0x20 then
    ['\\', 'u', '0', '0', (c.toNat / 16).digitChar, (c.toNat % 16).digitChar]
  else [c]

/-- A text as a string. -/
def renderText (text : String) : List Char := '"' :: text.toList.flatMap escapeChar ++ ['"']

/-- Doubles are positional from the fifth place after the point up to sixteen digits before it. -/
def numberLayout : Binary64.Layout := ⟨-5, 15⟩

/-- A line end with the indentation of a level. -/
def lineBreak (level : Nat) : List Char := '\n' :: List.replicate (2 * level) ' '

mutual

/-- A value whose lines are indented from a level on. -/
def renderAt (level : Nat) : JsonValue → List Char
  | null => "null".toList
  | bool true => "true".toList
  | bool false => "false".toList
  | integer value => (toString value).toList
  | double value => (value.render numberLayout).toList
  | string text => renderText text
  | array [] => ['[', ']']
  | array (item :: rest) =>
    '[' :: lineBreak (level + 1) ++ renderAt (level + 1) item ++ renderItems (level + 1) rest
      ++ lineBreak level ++ [']']
  | object [] => ['{', '}']
  | object ((key, value) :: rest) =>
    '{' :: lineBreak (level + 1) ++ renderText key ++ [':', ' '] ++ renderAt (level + 1) value
      ++ renderMembers (level + 1) rest ++ lineBreak level ++ ['}']

/-- Items after the first, each on a line of its own. -/
def renderItems (level : Nat) : List JsonValue → List Char
  | [] => []
  | item :: rest => ',' :: lineBreak level ++ renderAt level item ++ renderItems level rest

/-- Members after the first, each on a line of its own. -/
def renderMembers (level : Nat) : List (String × JsonValue) → List Char
  | [] => []
  | (key, value) :: rest =>
    ',' :: lineBreak level ++ renderText key ++ [':', ' '] ++ renderAt level value
      ++ renderMembers level rest

end

/-- Text of a value. -/
def render (value : JsonValue) : String := String.ofList (renderAt 0 value)

end JsonValue
end ClassEnhancement
