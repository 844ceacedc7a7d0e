import ClassEnhancement.Proofs.Json.Doubles
import ClassEnhancement.Proofs.Json.Members
import ClassEnhancement.Proofs.Json.Reading

/-!
# Reading what was written

A value is read back from its text, as long as its integers have 64 bits, its doubles are canonical,
its members stand in the order of their keys, and its containers are not nested too deeply.  Every
value that was read is of this kind.
-/

namespace ClassEnhancement
namespace JsonValue

open Json

/-- Values without doubles that a text can mean, with containers nested so many levels deep at
most. -/
def Regular : Nat → JsonValue → Prop
  | _, null => True
  | _, bool _ => True
  | _, integer value => -(1 <<< 63 : Nat) ≤ value ∧ value < (1 <<< 64 : Nat)
  | _, double _ => False
  | _, string _ => True
  | 0, array _ => False
  | levels + 1, array items => ∀ item ∈ items, Regular levels item
  | 0, object _ => False
  | levels + 1, object members =>
    (members.map Prod.fst).Pairwise (· < ·) ∧ ∀ member ∈ members, Regular levels member.2

/-- Values that a text can mean, with containers nested so many levels deep at most. -/
def Writable : Nat → JsonValue → Prop
  | _, null => True
  | _, bool _ => True
  | _, integer value => -(1 <<< 63 : Nat) ≤ value ∧ value < (1 <<< 64 : Nat)
  | _, double value => value.IsCanonical
  | _, string _ => True
  | 0, array _ => False
  | levels + 1, array items => ∀ item ∈ items, Writable levels item
  | 0, object _ => False
  | levels + 1, object members =>
    (members.map Prod.fst).Pairwise (· < ·) ∧ ∀ member ∈ members, Writable levels member.2

theorem Regular.writable : ∀ {levels : Nat} {value : JsonValue}, Regular levels value →
    Writable levels value
  | levels, null, _ | levels, bool _, _ | levels, string _, _ => by
      rw [Writable]
      trivial
  | levels, integer value, regular => by
      rw [Regular] at regular
      rwa [Writable]
  | levels, double value, regular => by
      rw [Regular] at regular
      exact regular.elim
  | 0, array _, regular => regular.elim
  | 0, object _, regular => regular.elim
  | _ + 1, array _, regular => fun item listed => (regular item listed).writable
  | _ + 1, object _, regular =>
      ⟨regular.1, fun member listed => (regular.2 member listed).writable⟩

/-! ## Lines -/

theorem lexes_lineBreak {text : List Char} {tokens : List Token} (lexes : Lexes text tokens)
    (level : Nat) : Lexes (lineBreak level ++ text) tokens := by
  refine lexes.spaces fun c member => ?_
  rcases List.mem_cons.mp member with rfl | blank
  · rfl
  · rw [List.eq_of_mem_replicate blank]
    rfl

theorem ends_lineBreak (level : Nat) (text : List Char) : Ends (lineBreak level ++ text) :=
  ends_cons (by decide) _

/-! ## Spellings -/

/-- A tree within a depth spells a value: the text of the value is read as the tree. -/
structure Spells (levels : Nat) (tree : JsonSyntax) (value : JsonValue) : Prop where
  lexes : ∀ level {text tokens}, Ends text → Lexes text tokens →
    Lexes (renderAt level value ++ text) (tree.tokens ++ tokens)
  means : ofSyntax? tree = some value
  nesting_le : nesting tree ≤ levels

/-- Trees spell the items after the first one, up to the end of the array. -/
structure SpellsItems (levels : Nat) (trees : List JsonSyntax) (items : List JsonValue) : Prop where
  lexes : ∀ level outer {text tokens}, Lexes text tokens →
    Lexes (renderItems level items ++ (lineBreak outer ++ ']' :: text))
      (JsonSyntax.moreItems trees ++ tokens)
  means : ofItems? trees = some items
  nesting_le : nestingOfItems trees ≤ levels

/-- Trees spell the members after the first one, up to the end of the object. -/
structure SpellsMembers (levels : Nat) (trees : List (Option String × JsonSyntax))
    (members : List (String × JsonValue)) : Prop where
  lexes : ∀ level outer {text tokens}, Lexes text tokens →
    Lexes (renderMembers level members ++ (lineBreak outer ++ '}' :: text))
      (JsonSyntax.moreMembers trees ++ tokens)
  means : ofMembers? trees = some members
  nesting_le : nestingOfMembers trees ≤ levels

variable {levels : Nat} {tree : JsonSyntax} {value : JsonValue}

theorem ofNumber?_integerText {value : Int}
    (fits : -(1 <<< 63 : Nat) ≤ value ∧ value < (1 <<< 64 : Nat)) :
    ofNumber? (integerText value) = some (integer value) := by
  have magnitude : natOfDigits (Nat.toDigits 10 value.natAbs) = value.natAbs :=
    Nat.ofDigitChars_ten_toDigits
  rw [ofNumber?, integerText]
  simp only [magnitude, decide_eq_true_eq]
  split
  · next negative =>
      rw [if_pos ⟨by omega, by omega⟩]
      congr 2
      omega
  · next positive =>
      rw [if_pos (by omega)]
      congr 2
      omega

theorem spells_null (levels : Nat) : Spells levels .null null where
  lexes _ _ _ _ lexes := lexes.null
  means := rfl
  nesting_le := Nat.zero_le _

theorem spells_bool (levels : Nat) (value : Bool) : Spells levels (.bool value) (bool value) where
  lexes level _ _ _ lexes := lexes.bool value level
  means := rfl
  nesting_le := Nat.zero_le _

theorem spells_string (levels : Nat) (text : String) :
    Spells levels (.string (some text)) (string text) where
  lexes _ _ _ _ lexes := lexes.text text
  means := rfl
  nesting_le := Nat.zero_le _

theorem spells_integer {value : Int}
    (fits : -(1 <<< 63 : Nat) ≤ value ∧ value < (1 <<< 64 : Nat)) (levels : Nat) :
    Spells levels (.number (integerText value)) (integer value) where
  lexes _ _ _ ends lexes := lexes.integer ends value
  means := ofNumber?_integerText fits
  nesting_le := Nat.zero_le _

theorem spells_double {value : Binary64} (canonical : value.IsCanonical) (levels : Nat) :
    Spells levels (.number (doubleText value)) (double value) where
  lexes level _ _ ends lexes := lexes_double lexes ends canonical level
  means := ofNumber?_doubleText canonical
  nesting_le := Nat.zero_le _

theorem ends_renderItems (level outer : Nat) (items : List JsonValue) (text : List Char) :
    Ends (renderItems level items ++ (lineBreak outer ++ text)) := by
  cases items with
  | nil => exact ends_lineBreak outer text
  | cons item rest => exact ends_cons (by decide) _

theorem ends_renderMembers (level outer : Nat) (members : List (String × JsonValue))
    (text : List Char) : Ends (renderMembers level members ++ (lineBreak outer ++ text)) := by
  cases members with
  | nil => exact ends_lineBreak outer text
  | cons member rest => exact ends_cons (by decide) _

theorem spellsItems_nil (levels : Nat) : SpellsItems levels [] [] where
  lexes _ outer _ _ lexes :=
    lexes_lineBreak (lexes.mark rfl fun _ => rfl) outer
  means := rfl
  nesting_le := Nat.zero_le _

theorem Spells.items_cons (first : Spells levels tree value) {trees : List JsonSyntax}
    {items : List JsonValue} (others : SpellsItems levels trees items) :
    SpellsItems levels (tree :: trees) (value :: items) where
  lexes level outer text tokens lexes := by
    simp only [renderItems, JsonSyntax.moreItems, List.cons_append, List.append_assoc]
    refine Lexes.mark (lexes_lineBreak ?_ level) rfl fun _ => rfl
    exact first.lexes level (ends_renderItems level outer items _) (others.lexes level outer lexes)
  means := by simp [ofItems?, first.means, others.means]
  nesting_le := Nat.max_le.mpr ⟨first.nesting_le, others.nesting_le⟩

theorem spells_array_nil (levels : Nat) : Spells (levels + 1) (.array []) (array []) where
  lexes _ _ _ _ lexes := Lexes.mark (lexes.mark rfl fun _ => rfl) rfl fun _ => rfl
  means := rfl
  nesting_le := Nat.succ_le_succ (Nat.zero_le _)

theorem Spells.array_cons (first : Spells levels tree value) {trees : List JsonSyntax}
    {items : List JsonValue} (others : SpellsItems levels trees items) :
    Spells (levels + 1) (.array (tree :: trees)) (array (value :: items)) where
  lexes level text tokens ends lexes := by
    simp only [renderAt, JsonSyntax.tokens, List.cons_append, List.append_assoc, List.nil_append]
    refine Lexes.mark (lexes_lineBreak ?_ (level + 1)) rfl fun _ => rfl
    exact first.lexes (level + 1) (ends_renderItems _ level items _)
      (others.lexes (level + 1) level lexes)
  means := by simp [ofSyntax?, (first.items_cons others).means]
  nesting_le := Nat.succ_le_succ (first.items_cons others).nesting_le

theorem spellsMembers_nil (levels : Nat) : SpellsMembers levels [] [] where
  lexes _ outer _ _ lexes :=
    lexes_lineBreak (lexes.mark rfl fun _ => rfl) outer
  means := rfl
  nesting_le := Nat.zero_le _

/-- A key, a colon and a value. -/
theorem Spells.lexes_member (first : Spells levels tree value) (key : String) (level : Nat)
    {text : List Char} {tokens : List Token} (ends : Ends text) (lexes : Lexes text tokens) :
    Lexes (renderText key ++ ':' :: ' ' :: (renderAt level value ++ text))
      (.string (some key) :: .colon :: (tree.tokens ++ tokens)) := by
  refine Lexes.text (Lexes.mark (Lexes.space ?_ rfl) rfl fun _ => rfl) key
  exact first.lexes level ends lexes

theorem Spells.members_cons (first : Spells levels tree value) (key : String)
    {trees : List (Option String × JsonSyntax)} {members : List (String × JsonValue)}
    (others : SpellsMembers levels trees members) :
    SpellsMembers levels ((some key, tree) :: trees) ((key, value) :: members) where
  lexes level outer text tokens lexes := by
    simp only [renderMembers, JsonSyntax.moreMembers, List.cons_append, List.append_assoc,
      List.nil_append]
    refine Lexes.mark (lexes_lineBreak ?_ level) rfl fun _ => rfl
    exact first.lexes_member key level (ends_renderMembers level outer members _)
      (others.lexes level outer lexes)
  means := by simp [ofMembers?, first.means, others.means]
  nesting_le := Nat.max_le.mpr ⟨first.nesting_le, others.nesting_le⟩

theorem spells_object_nil (levels : Nat) : Spells (levels + 1) (.object []) (object []) where
  lexes _ _ _ _ lexes := Lexes.mark (lexes.mark rfl fun _ => rfl) rfl fun _ => rfl
  means := rfl
  nesting_le := Nat.succ_le_succ (Nat.zero_le _)

theorem Spells.object_cons (first : Spells levels tree value) (key : String)
    {trees : List (Option String × JsonSyntax)} {members : List (String × JsonValue)}
    (others : SpellsMembers levels trees members)
    (increasing : (((key, value) :: members).map Prod.fst).Pairwise (· < ·)) :
    Spells (levels + 1) (.object ((some key, tree) :: trees))
      (object ((key, value) :: members)) where
  lexes level text tokens ends lexes := by
    simp only [renderAt, JsonSyntax.tokens, List.cons_append, List.append_assoc, List.nil_append]
    refine Lexes.mark (lexes_lineBreak ?_ (level + 1)) rfl fun _ => rfl
    exact first.lexes_member key (level + 1) (ends_renderMembers _ level members _)
      (others.lexes (level + 1) level lexes)
  means := by
    simp [ofSyntax?, (first.members_cons key others).means, sortMembers_eq_self increasing]
  nesting_le := Nat.succ_le_succ (first.members_cons key others).nesting_le

/-! ## Every writable value is spelled -/

mutual

/-- The tree as which the text of a value is read. -/
def written : JsonValue → JsonSyntax
  | null => .null
  | bool value => .bool value
  | integer value => .number (integerText value)
  | double value => .number (doubleText value)
  | string text => .string (some text)
  | array items => .array (writtenItems items)
  | object members => .object (writtenMembers members)

/-- The trees of items. -/
def writtenItems : List JsonValue → List JsonSyntax
  | [] => []
  | item :: rest => written item :: writtenItems rest

/-- The trees of members. -/
def writtenMembers : List (String × JsonValue) → List (Option String × JsonSyntax)
  | [] => []
  | (key, value) :: rest => (some key, written value) :: writtenMembers rest

end

theorem spellsItems_written
    (spelled : ∀ value, Writable levels value → Spells levels (written value) value)
    {items : List JsonValue} (writable : ∀ item ∈ items, Writable levels item) :
    SpellsItems levels (writtenItems items) items := by
  induction items with
  | nil => exact spellsItems_nil levels
  | cons item rest hypothesis =>
      have first := spelled item (writable item List.mem_cons_self)
      exact first.items_cons
        (hypothesis fun item member => writable item (List.mem_cons_of_mem _ member))

theorem spellsMembers_written
    (spelled : ∀ value, Writable levels value → Spells levels (written value) value)
    {members : List (String × JsonValue)} (writable : ∀ member ∈ members, Writable levels member.2) :
    SpellsMembers levels (writtenMembers members) members := by
  induction members with
  | nil => exact spellsMembers_nil levels
  | cons member rest hypothesis =>
      have first := spelled member.2 (writable member List.mem_cons_self)
      exact first.members_cons member.1
        (hypothesis fun member listed => writable member (List.mem_cons_of_mem _ listed))

theorem spells_written : ∀ (levels : Nat) (value : JsonValue), Writable levels value →
    Spells levels (written value) value
  | levels, null, _ => spells_null levels
  | levels, bool value, _ => spells_bool levels value
  | levels, integer value, writable => by
      rw [Writable] at writable
      exact spells_integer writable levels
  | levels, double value, writable => by
      rw [Writable] at writable
      exact spells_double writable levels
  | levels, string text, _ => spells_string levels text
  | 0, array _, writable => writable.elim
  | 0, object _, writable => writable.elim
  | levels + 1, array [], _ => spells_array_nil levels
  | levels + 1, array (item :: rest), writable => by
      have first := spells_written levels item (writable item List.mem_cons_self)
      exact first.array_cons (spellsItems_written (spells_written levels) fun item member =>
        writable item (List.mem_cons_of_mem _ member))
  | levels + 1, object [], _ => spells_object_nil levels
  | levels + 1, object (member :: rest), writable => by
      obtain ⟨increasing, writable⟩ := writable
      have first := spells_written levels member.2 (writable member List.mem_cons_self)
      have others := spellsMembers_written (spells_written levels) fun member listed =>
        writable member (List.mem_cons_of_mem _ listed)
      exact first.object_cons member.1 others increasing

/-- The text of a value is read as its tree. -/
theorem syntax_render (writable : Writable nestingLimit value) :
    JsonSyntax.parse? value.render = some (written value) := by
  have lexes := (spells_written nestingLimit value writable).lexes 0 ends_nil lexes_nil
  rw [List.append_nil, List.append_nil] at lexes
  have spelled : Json.tokens value.render = some (written value).tokens :=
    Lexes.tokens_eq (by rwa [render, String.toList_ofList])
  exact JsonSyntax.parse?_of_tokens spelled

/-- A value is read back from its text. -/
theorem parse?_render (writable : Writable nestingLimit value) :
    parse? value.render = some value := by
  have spells := spells_written nestingLimit value writable
  rw [parse?, syntax_render writable]
  simp [spells.nesting_le, spells.means]

end JsonValue
end ClassEnhancement
