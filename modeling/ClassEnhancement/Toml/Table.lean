import ClassEnhancement.Toml.Document

/-!
# TOML tables

The statements of a document build one table.  A table is defined once: by a header, by dotted
keys, or in place.  One that only stands on the way to another may still get its own header, and a
table made by dotted keys grows by dotted keys alone.
-/

namespace ClassEnhancement

/-- How a table came about. -/
inductive TableKind where
  /-- It stands on the way to the table of a header. -/
  | implied
  /-- It stands on the way along a dotted key. -/
  | dotted
  /-- It has a header, or is the document itself. -/
  | defined
  deriving DecidableEq, Repr

/-- A value of a document. -/
inductive TomlValue where
  /-- A text. -/
  | string (text : String)
  /-- An integer. -/
  | integer (value : Int)
  /-- A float. -/
  | float
  /-- A truth value. -/
  | boolean (value : Bool)
  /-- A date, a time, or both. -/
  | datetime
  /-- Items in order. -/
  | array (items : List TomlValue)
  /-- A table written in place, which does not grow. -/
  | inlineTable (members : List (String × TomlValue))
  /-- A table that statements build. -/
  | table (kind : TableKind) (members : List (String × TomlValue))
  /-- An array that headers build. -/
  | tables (items : List (List (String × TomlValue)))

namespace Toml

/-- A table under construction. -/
structure Table where
  /-- How it came about. -/
  kind : TableKind
  /-- Members in the order of their first mention. -/
  members : List (String × TomlValue)

namespace Table

/-- A table without members. -/
def blank (kind : TableKind) : Table := ⟨kind, []⟩

/-- A member. -/
def find? (table : Table) (key : String) : Option TomlValue := table.members.lookup key

/-- A member list with the value of a key replaced, or with the key at the end. -/
def putMember (key : String) (value : TomlValue) :
    List (String × TomlValue) → List (String × TomlValue)
  | [] => [(key, value)]
  | member :: rest =>
    if member.1 = key then (key, value) :: rest else member :: putMember key value rest

/-- The table with a value for a key. -/
def put (table : Table) (key : String) (value : TomlValue) : Table :=
  { table with members := putMember key value table.members }

/-- The table as a value. -/
def toValue (table : Table) : TomlValue := .table table.kind table.members

/-- The last member list changed as a table. -/
def changeLast (change : Table → Option Table) :
    List (List (String × TomlValue)) → Option (List (List (String × TomlValue)))
  | [] => none
  | [last] => (change ⟨.defined, last⟩).map fun changed => [changed.members]
  | first :: rest => (changeLast change rest).map (first :: ·)

/-- Changes the table at the end of a path.  Missing tables are made, an array of tables stands
for its last one, and a dotted key does not pass through a defined table. -/
def changeAt (byDots : Bool) (change : Table → Option Table) :
    List String → Table → Option Table
  | [], table => change table
  | key :: rest, table =>
    match table.find? key with
    | none =>
      (changeAt byDots change rest (.blank (if byDots then .dotted else .implied))).map
        fun inner => table.put key inner.toValue
    | some (.table kind members) =>
      if byDots ∧ kind = .defined then none
      else
        (changeAt byDots change rest ⟨kind, members⟩).map fun inner => table.put key inner.toValue
    | some (.tables items) =>
      (changeLast (changeAt byDots change rest) items).map fun items =>
        table.put key (.tables items)
    | some _ => none

/-- Adds the last part of a key; a table of dotted keys is entered by dots, no other is. -/
def addLast (byDots : Bool) (key : String) (value : TomlValue) (table : Table) : Option Table :=
  if byDots ≠ decide (table.kind = .dotted) then none
  else if (table.find? key).isSome then none
  else some (table.put key value)

/-- Adds a pair below a table. -/
def addPair (table : Table) (path : List String) (value : TomlValue) : Option Table :=
  match path.getLast? with
  | none => none
  | some last =>
    let way := path.dropLast
    changeAt true (addLast (!way.isEmpty) last value) way table

/-- Defines a table by its header. -/
def define (key : String) (table : Table) : Option Table :=
  match table.find? key with
  | none => some (table.put key (Table.blank .defined).toValue)
  | some (.table .implied members) => some (table.put key (.table .defined members))
  | some _ => none

/-- Begins the next table of an array. -/
def extend (key : String) (table : Table) : Option Table :=
  match table.find? key with
  | none => some (table.put key (.tables [[]]))
  | some (.tables items) => some (table.put key (.tables (items ++ [[]])))
  | some _ => none

end Table

/-! ## From statements -/

mutual

/-- The value that a spelled value means. -/
def meaning : TomlSyntax → Option TomlValue
  | .string text => some (.string text)
  | .integer value => some (.integer value)
  | .float => some .float
  | .boolean value => some (.boolean value)
  | .datetime => some .datetime
  | .array items => (meaningOfItems items).map .array
  | .inlineTable pairs =>
    (meaningOfPairs (.blank .defined) pairs).map fun table => .inlineTable table.members

/-- The values of items. -/
def meaningOfItems : List TomlSyntax → Option (List TomlValue)
  | [] => some []
  | item :: rest =>
    match meaning item, meaningOfItems rest with
    | some value, some values => some (value :: values)
    | _, _ => none

/-- A table with the pairs of an inline table. -/
def meaningOfPairs (table : Table) : List (List String × TomlSyntax) → Option Table
  | [] => some table
  | (key, spelled) :: rest =>
    match meaning spelled with
    | none => none
    | some value =>
      match table.addPair key value with
      | some extended => meaningOfPairs extended rest
      | none => none

end

/-- The document so far and the header that is in force. -/
structure Builder where
  /-- The whole document. -/
  root : Table
  /-- Path of the header; empty before the first one. -/
  header : List String

/-- Applies one statement. -/
def Builder.apply (builder : Builder) : Statement → Option Builder
  | .pair key spelled => do
    let value ← meaning spelled
    let root ←
      Table.changeAt false (fun table => table.addPair key value) builder.header builder.root
    some { builder with root }
  | .table key => do
    let last ← key.getLast?
    let root ← Table.changeAt false (Table.define last) key.dropLast builder.root
    some ⟨root, key⟩
  | .arrayTable key => do
    let last ← key.getLast?
    let root ← Table.changeAt false (Table.extend last) key.dropLast builder.root
    some ⟨root, key⟩

/-- The members of a document. -/
def parse? (text : String) : Option (List (String × TomlValue)) := do
  let listed ← statements text
  let builder ← listed.foldlM Builder.apply ⟨.blank .defined, []⟩
  some builder.root.members

end Toml
end ClassEnhancement
