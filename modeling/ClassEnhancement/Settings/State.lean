import ClassEnhancement.Json.Value

/-!
# The stored state

Enhancement is on or off.  Stored, the state is an object whose member `enabled` is a truth value,
or a list that holds at most that value.  Other members do not count, and a missing value is off.
-/

namespace ClassEnhancement

/-- Whether enhancement is on. -/
structure EnhancementState where
  /-- On or off. -/
  enabled : Bool
  deriving DecidableEq, Repr

namespace EnhancementState

/-- Member that holds the state. -/
def member : String := "enabled"

/-- The state that a value of a document means. -/
def ofJson? : JsonValue → Option EnhancementState
  | .object members =>
    match members.lookup member with
    | none => some ⟨false⟩
    | some (.bool value) => some ⟨value⟩
    | some _ => none
  | .array [] => some ⟨false⟩
  | .array [.bool value] => some ⟨value⟩
  | _ => none

/-- The state that members spell; the state may be given once. -/
def ofMembers? (found : Option Bool) : List (Option String × JsonSyntax) → Option EnhancementState
  | [] => some ⟨found.getD false⟩
  | (none, _) :: _ => none
  | (some key, value) :: rest =>
    if key = member then
      match found, value with
      | none, .bool value => ofMembers? (some value) rest
      | _, _ => none
    else ofMembers? found rest

/-- The state that a whole text spells. -/
def ofText? (text : String) : Option EnhancementState :=
  match JsonSyntax.parse? text with
  | some (.object members) => ofMembers? none members
  | some (.array []) => some ⟨false⟩
  | some (.array [.bool value]) => some ⟨value⟩
  | _ => none

/-- The state as a value of a document. -/
def toJson (state : EnhancementState) : JsonValue := .object [(member, .bool state.enabled)]

@[simp]
theorem ofJson?_toJson (state : EnhancementState) : ofJson? state.toJson = some state := rfl

end EnhancementState
end ClassEnhancement
