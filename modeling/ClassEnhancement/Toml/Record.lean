import ClassEnhancement.Toml.Table

/-!
# Records in TOML documents

A record is written as a table of its fields, or as an array of their values in the order of
declaration.  Fields that are not given keep their default, and what names no field does not count.
A date or time stands for a record of which no field is given.
-/

namespace ClassEnhancement
namespace TomlValue

/-- Items of an array, however it was written. -/
def items? : TomlValue → Option (List TomlValue)
  | .array items => some items
  | .tables listed => some (listed.map (.table .defined))
  | _ => none

/-- Members of a table, however it was written. -/
def members? : TomlValue → Option (List (String × TomlValue))
  | .table _ members => some members
  | .inlineTable members => some members
  | _ => none

/-- The values given to the fields of a record. -/
def fields? (names : List String) (value : TomlValue) : Option (String → Option TomlValue) :=
  match value.members?, value.items?, value with
  | some found, _, _ => some fun name => found.lookup name
  | none, some found, _ => some fun name => found[names.idxOf name]?
  | none, none, .datetime => some fun _ => none
  | none, none, _ => none

/-- The value of a field that may be left out. -/
def valueOr {α : Type} (fallback : α) (read : TomlValue → Option α) :
    Option TomlValue → Option α
  | none => some fallback
  | some value => read value

/-- A text. -/
def text? : TomlValue → Option String
  | .string text => some text
  | _ => none

/-- A natural number below a bound. -/
def natBelow? (bound : Nat) : TomlValue → Option Nat
  | .integer (.ofNat value) => if value < bound then some value else none
  | _ => none

/-- A list of values of one kind. -/
def listOf? {α : Type} (read : TomlValue → Option α) (value : TomlValue) : Option (List α) := do
  let items ← value.items?
  items.mapM read

end TomlValue
end ClassEnhancement
