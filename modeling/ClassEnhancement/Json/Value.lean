import ClassEnhancement.Decimal.Binary64
import ClassEnhancement.Json.Syntax

/-!
# JSON values

The members of an object stand in the order of their keys, and of repeated members the last one
counts.  Integers of 64 bits are exact, signed or not; every other number, and the negative zero,
is a double.  A text is no value when a string has no text, a number is too great, or containers
are nested too deeply.

A number that is read as a double is read as the nearest one.  This is an assumption about the
reader: one that promises its best effort only may take a neighbour of the nearest double.
-/

namespace ClassEnhancement

/-- A value. -/
inductive JsonValue where
  /-- Nothing. -/
  | null
  /-- A truth value. -/
  | bool (value : Bool)
  /-- An integer of 64 bits. -/
  | integer (value : Int)
  /-- Any other number. -/
  | double (value : Binary64)
  /-- A text. -/
  | string (text : String)
  /-- Items in order. -/
  | array (items : List JsonValue)
  /-- Members in the order of their keys. -/
  | object (members : List (String × JsonValue))

namespace JsonValue

/-! ## Members -/

/-- Members with one more; a member of the same key is replaced. -/
def putMember (key : String) (value : JsonValue) :
    List (String × JsonValue) → List (String × JsonValue)
  | [] => [(key, value)]
  | (other, kept) :: rest =>
    if key < other then (key, value) :: (other, kept) :: rest
    else if key = other then (key, value) :: rest
    else (other, kept) :: putMember key value rest

/-- Members in the order of their keys; the last of a key counts. -/
def sortMembers (members : List (String × JsonValue)) : List (String × JsonValue) :=
  members.foldl (fun sorted member => putMember member.1 member.2 sorted) []

/-! ## Numbers -/

/-- The number that digits spell. -/
def natOfDigits (digits : List Char) : Nat :=
  digits.foldl (fun value c => 10 * value + (c.toNat - '0'.toNat)) 0

/-- The number with a sign, digits and a power of ten, as the nearest double. -/
def ofDouble? (negative : Bool) (digits : List Char) (power : Int) : Option JsonValue :=
  (Binary64.ofDecimal? negative (natOfDigits digits) power).map double

/-- The power of ten that an exponent spells. -/
def powerOf : Option (Bool × List Char) → Int
  | none => 0
  | some (true, digits) => -(natOfDigits digits : Int)
  | some (false, digits) => natOfDigits digits

/-- The value of a number, unless it is too great. -/
def ofNumber? (spelling : Json.NumberText) : Option JsonValue :=
  match spelling.fraction, spelling.exponent with
  | none, none =>
    let magnitude := natOfDigits spelling.whole
    if spelling.negative then
      if 0 < magnitude ∧ magnitude ≤ 1 <<< 63 then some (integer (-magnitude))
      else ofDouble? true spelling.whole 0
    else if magnitude < 1 <<< 64 then some (integer magnitude)
    else ofDouble? false spelling.whole 0
  | fraction, exponent =>
    let decimals := fraction.getD []
    ofDouble? spelling.negative (spelling.whole ++ decimals) (powerOf exponent - decimals.length)

/-! ## From syntax -/

mutual

/-- The value that a text means. -/
def ofSyntax? : JsonSyntax → Option JsonValue
  | .null => some null
  | .bool value => some (bool value)
  | .number spelling => ofNumber? spelling
  | .string text => text.map string
  | .array items => (ofItems? items).map array
  | .object members => (ofMembers? members).map fun members => object (sortMembers members)

/-- The values of items. -/
def ofItems? : List JsonSyntax → Option (List JsonValue)
  | [] => some []
  | item :: rest =>
    match ofSyntax? item, ofItems? rest with
    | some value, some values => some (value :: values)
    | _, _ => none

/-- The values of members. -/
def ofMembers? : List (Option String × JsonSyntax) → Option (List (String × JsonValue))
  | [] => some []
  | (key, value) :: rest =>
    match key, ofSyntax? value, ofMembers? rest with
    | some key, some value, some members => some ((key, value) :: members)
    | _, _, _ => none

end

mutual

/-- How deeply containers are nested. -/
def nesting : JsonSyntax → Nat
  | .array items => nestingOfItems items + 1
  | .object members => nestingOfMembers members + 1
  | _ => 0

/-- The deepest nesting among items. -/
def nestingOfItems : List JsonSyntax → Nat
  | [] => 0
  | item :: rest => max (nesting item) (nestingOfItems rest)

/-- The deepest nesting among members. -/
def nestingOfMembers : List (Option String × JsonSyntax) → Nat
  | [] => 0
  | (_, value) :: rest => max (nesting value) (nestingOfMembers rest)

end

/-- The deepest nesting of containers that is read. -/
def nestingLimit : Nat := 127

/-- The value that a text spells. -/
def parse? (text : String) : Option JsonValue := do
  let spelled ← JsonSyntax.parse? text
  if nesting spelled ≤ nestingLimit then ofSyntax? spelled else none

/-- The members of the object that a text spells. -/
def parseMembers? (text : String) : Option (List (String × JsonValue)) :=
  match parse? text with
  | some (object members) => some members
  | _ => none

end JsonValue
end ClassEnhancement
