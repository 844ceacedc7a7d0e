import ClassEnhancement.Proofs.Json.RoundTrip
import Mathlib.Data.List.Forall2

/-!
# Places in a document

A place is a way down through members and items.  A value stands at a place where the tree of its
text has the tree of the value, and the tree that is written for a value has at every place what is
written for the value there.
-/

namespace ClassEnhancement

namespace Json

/-- One step down. -/
inductive PlaceStep where
  /-- To the member of a key. -/
  | member (key : String)
  /-- To an item. -/
  | item (index : Nat)
  deriving DecidableEq

/-- A way down. -/
abbrev Place := List PlaceStep

end Json

open Json

/-- The tree at a place; of repeated members the last one counts. -/
def JsonSyntax.at? : Place → JsonSyntax → Option JsonSyntax
  | [], tree => some tree
  | .member key :: place, .object members =>
    (members.reverse.lookup (some key)).bind (at? place)
  | .item index :: place, .array items => items[index]?.bind (at? place)
  | _ :: _, _ => none

/-- The number that a tree spells. -/
def JsonSyntax.literal? : JsonSyntax → Option NumberText
  | .number spelling => some spelling
  | _ => none

/-- The number literal at a place of a text. -/
def literalIn? (text : String) (place : Place) : Option NumberText :=
  (JsonSyntax.parse? text).bind fun tree => (tree.at? place).bind JsonSyntax.literal?

namespace JsonValue

/-- The value at a place. -/
def at? : Place → JsonValue → Option JsonValue
  | [], value => some value
  | .member key :: place, object members => (members.lookup key).bind (at? place)
  | .item index :: place, array items => items[index]?.bind (at? place)
  | _ :: _, _ => none

/-- The literal that is written for a number. -/
def literal? : JsonValue → Option NumberText
  | integer value => some (integerText value)
  | double value => some (doubleText value)
  | _ => none

variable {tree : JsonSyntax} {value : JsonValue} {members : List (String × JsonValue)}
  {items : List JsonValue} {place : Place} {key : String}

/-! ## From a text -/

/-- A tree that means a value. -/
def Means (tree : JsonSyntax) (value : JsonValue) : Prop := ofSyntax? tree = some value

/-- A member whose key and value a tree means. -/
def MeansMember (tree : Option String × JsonSyntax) (member : String × JsonValue) : Prop :=
  tree.1 = some member.1 ∧ Means tree.2 member.2

theorem forall₂_ofItems? {trees : List JsonSyntax} (read : ofItems? trees = some items) :
    List.Forall₂ Means trees items := by
  induction trees generalizing items with
  | nil =>
      cases read
      exact .nil
  | cons tree trees hypothesis =>
      rw [ofItems?] at read
      split at read
      · next first_read others_read =>
          cases read
          exact .cons first_read (hypothesis others_read)
      · cases read

theorem forall₂_ofMembers? {trees : List (Option String × JsonSyntax)}
    (read : ofMembers? trees = some members) : List.Forall₂ MeansMember trees members := by
  induction trees generalizing members with
  | nil =>
      cases read
      exact .nil
  | cons tree trees hypothesis =>
      obtain ⟨name, tree⟩ := tree
      unfold ofMembers? at read
      split at read
      · next first_read others_read =>
          cases read
          exact .cons ⟨rfl, first_read⟩ (hypothesis others_read)
      · cases read

theorem rel_getElem? {trees : List JsonSyntax} (means : List.Forall₂ Means trees items)
    (index : Nat) : Option.Rel Means trees[index]? items[index]? := by
  induction means generalizing index with
  | nil => exact .none
  | cons first _ hypothesis =>
      cases index with
      | zero => exact .some first
      | succ index => exact hypothesis index

theorem rel_lookup {trees : List (Option String × JsonSyntax)}
    (means : List.Forall₂ MeansMember trees members) (key : String) :
    Option.Rel Means (trees.lookup (some key)) (members.lookup key) := by
  induction means with
  | nil => exact .none
  | @cons tree member _ _ first _ hypothesis =>
      obtain ⟨name, tree⟩ := tree
      obtain ⟨rfl, first⟩ := first
      obtain ⟨name, value⟩ := member
      by_cases same : key = name
      · subst same
        rw [List.lookup_cons_self, List.lookup_cons_self]
        exact .some first
      · have miss : (key == name) = false := beq_false_of_ne same
        have miss' : (some key == some name) = false := beq_false_of_ne (by simpa using same)
        rw [List.lookup_cons, List.lookup_cons, miss, miss']
        exact hypothesis

/-- The last of repeated members counts. -/
theorem lookup_sortMembers (key : String) (members : List (String × JsonValue)) :
    (sortMembers members).lookup key = members.reverse.lookup key := by
  induction members using List.reverseRecOn with
  | nil => rfl
  | append_singleton members member hypothesis =>
      obtain ⟨name, value⟩ := member
      have sorted : sortMembers (members ++ [(name, value)]) =
          putMember name value (sortMembers members) := by
        simp [sortMembers]
      rw [sorted, List.reverse_append, List.reverse_singleton, List.singleton_append,
        List.lookup_cons]
      by_cases same : key = name
      · subst same
        rw [lookup_putMember_self, beq_self_eq_true]
      · rw [lookup_putMember_of_ne same, hypothesis, beq_false_of_ne same]

/-- A number is an integer or a double. -/
theorem isNumber_of_ofNumber? {spelling : NumberText} (read : ofNumber? spelling = some value) :
    (∃ number, value = integer number) ∨ ∃ number, value = double number := by
  have of_double : ∀ {negative : Bool} {digits : List Char} {power : Int},
      ofDouble? negative digits power = some value → ∃ number, value = double number := by
    intro negative digits power read
    obtain ⟨number, -, rfl⟩ := Option.map_eq_some_iff.mp read
    exact ⟨number, rfl⟩
  unfold ofNumber? at read
  split at read
  · dsimp only at read
    split_ifs at read
    · cases read
      exact .inl ⟨_, rfl⟩
    · exact .inr (of_double read)
    · cases read
      exact .inl ⟨_, rfl⟩
    · exact .inr (of_double read)
  · exact .inr (of_double read)

/-- A value has at a place what the tree there means, and nothing where there is no tree. -/
theorem rel_at? (means : Means tree value) (place : Place) :
    Option.Rel Means (tree.at? place) (value.at? place) := by
  induction place generalizing tree value with
  | nil => exact .some means
  | cons step place hypothesis =>
      have onward : ∀ {found : Option JsonSyntax} {inner : Option JsonValue},
          Option.Rel Means found inner →
            Option.Rel Means (found.bind (JsonSyntax.at? place)) (inner.bind (at? place)) := by
        intro found inner related
        cases related with
        | some means => exact hypothesis means
        | none => exact .none
      cases tree with
      | null | bool =>
          cases means
          cases step <;> exact .none
      | number spelling =>
          rcases isNumber_of_ofNumber? means with ⟨number, rfl⟩ | ⟨number, rfl⟩
          · cases step <;> exact .none
          · cases step <;> exact .none
      | string text =>
          obtain ⟨text, rfl, rfl⟩ := Option.map_eq_some_iff.mp means
          cases step <;> exact .none
      | array trees =>
          obtain ⟨items, read, rfl⟩ := Option.map_eq_some_iff.mp means
          cases step with
          | member key => exact .none
          | item index => exact onward (rel_getElem? (forall₂_ofItems? read) index)
      | object trees =>
          obtain ⟨members, read, rfl⟩ := Option.map_eq_some_iff.mp means
          cases step with
          | item index => exact .none
          | member key =>
              have related := rel_lookup (List.rel_reverse (forall₂_ofMembers? read)) key
              rw [← lookup_sortMembers] at related
              exact onward related

/-! ## To a text -/

theorem writtenItems_eq (items : List JsonValue) : writtenItems items = items.map written := by
  induction items with
  | nil => rfl
  | cons item rest hypothesis => rw [writtenItems, hypothesis, List.map_cons]

theorem writtenMembers_eq (members : List (String × JsonValue)) :
    writtenMembers members = members.map fun member => (some member.1, written member.2) := by
  induction members with
  | nil => rfl
  | cons member rest hypothesis => rw [writtenMembers, hypothesis, List.map_cons]

theorem lookup_map_written (key : String) (members : List (String × JsonValue)) :
    (members.map fun member => (some member.1, written member.2)).lookup (some key) =
      (members.lookup key).map written := by
  induction members with
  | nil => rfl
  | cons member rest hypothesis =>
      obtain ⟨name, value⟩ := member
      rw [List.map_cons, List.lookup_cons, List.lookup_cons, hypothesis]
      by_cases same : key = name
      · subst same
        simp
      · have miss : (key == name) = false := beq_false_of_ne same
        have miss' : (some key == some name) = false := beq_false_of_ne (by simpa using same)
        rw [miss, miss']

/-- Keys in order are not repeated. -/
theorem lookup_reverse_writtenMembers (increasing : (members.map Prod.fst).Pairwise (· < ·))
    (key : String) :
    (writtenMembers members).reverse.lookup (some key) = (members.lookup key).map written := by
  rw [writtenMembers_eq, ← List.map_reverse, lookup_map_written, ← lookup_sortMembers,
    sortMembers_eq_self increasing]

/-- The tree that is written has at a place what is written for the value there. -/
theorem at?_written {levels : Nat} (writable : Writable levels value) (place : Place) :
    (written value).at? place = (value.at? place).map written := by
  induction place generalizing levels value with
  | nil => rfl
  | cons step place hypothesis =>
      cases value with
      | null | bool | integer | double | string => cases step <;> rfl
      | array items =>
          cases levels with
          | zero => exact writable.elim
          | succ levels =>
              cases step with
              | member key => rfl
              | item index =>
                  rw [written, JsonSyntax.at?, writtenItems_eq, List.getElem?_map, at?]
                  cases found : items[index]? with
                  | none => rfl
                  | some item => exact hypothesis (writable item (List.mem_of_getElem? found))
      | object members =>
          cases levels with
          | zero => exact writable.elim
          | succ levels =>
              cases step with
              | item index => rfl
              | member key =>
                  obtain ⟨increasing, writable⟩ := writable
                  rw [written, JsonSyntax.at?, lookup_reverse_writtenMembers increasing, at?]
                  cases found : members.lookup key with
                  | none => rfl
                  | some inner =>
                      obtain ⟨front, back, split, -⟩ := List.lookup_eq_some_iff.mp found
                      exact hypothesis (writable (key, inner) (by simp [split]))

/-! ## Literals -/

/-- A literal in a text is read as the value at its place. -/
theorem at?_of_literalIn? {text : String} {literal : NumberText} (read : parse? text = some value)
    (there : literalIn? text place = some literal) :
    ∃ inner, ofNumber? literal = some inner ∧ value.at? place = some inner := by
  rw [parse?, Option.bind_eq_bind, Option.bind_eq_some_iff] at read
  obtain ⟨tree, spelled, read⟩ := read
  rw [literalIn?, spelled, Option.bind_some, Option.bind_eq_some_iff] at there
  obtain ⟨found, found_there, number⟩ := there
  split at read
  · have related := rel_at? read place
    rw [found_there] at related
    generalize value.at? place = reached at related ⊢
    cases related with
    | some means =>
        cases found with
        | number spelling =>
            cases number
            exact ⟨_, means, rfl⟩
        | null | bool | string | array | object => cases number
  · cases read

/-- The text of a value has the literals that are written for its numbers. -/
theorem literalIn?_render (writable : Writable nestingLimit value) (place : Place) :
    literalIn? value.render place = (value.at? place).bind literal? := by
  rw [literalIn?, syntax_render writable, Option.bind_some, at?_written writable]
  cases value.at? place with
  | none => rfl
  | some inner => cases inner <;> rfl

end JsonValue
end ClassEnhancement
