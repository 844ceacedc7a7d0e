import ClassEnhancement.Proofs.Json.RoundTrip

/-!
# Values that were read

What a text means is read back from what is written for it.  Values without doubles are told apart,
since their numbers are the ones that were spelled.
-/

namespace ClassEnhancement
namespace JsonValue

mutual

/-- Whether all numbers in a value are integers. -/
def isExact : JsonValue → Bool
  | null => true
  | bool _ => true
  | integer _ => true
  | double _ => false
  | string _ => true
  | array items => areExact items
  | object members => membersAreExact members

/-- Whether all numbers in items are integers. -/
def areExact : List JsonValue → Bool
  | [] => true
  | item :: rest => isExact item && areExact rest

/-- Whether all numbers in the values of members are integers. -/
def membersAreExact : List (String × JsonValue) → Bool
  | [] => true
  | (_, value) :: rest => isExact value && membersAreExact rest

end

theorem areExact_iff {items : List JsonValue} :
    areExact items = true ↔ ∀ item ∈ items, isExact item = true := by
  induction items with
  | nil => simp [areExact]
  | cons item rest hypothesis => simp [areExact, hypothesis]

theorem membersAreExact_iff {members : List (String × JsonValue)} :
    membersAreExact members = true ↔ ∀ member ∈ members, isExact member.2 = true := by
  induction members with
  | nil => simp [membersAreExact]
  | cons member rest hypothesis => simp [membersAreExact, hypothesis]

/-! ## Where values come from -/

theorem exists_of_mem_ofItems? {trees : List JsonSyntax} {items : List JsonValue}
    (read : ofItems? trees = some items) {item : JsonValue} (listed : item ∈ items) :
    ∃ tree ∈ trees, ofSyntax? tree = some item := by
  induction trees generalizing items with
  | nil =>
      cases read
      cases listed
  | cons tree trees hypothesis =>
      rw [ofItems?] at read
      split at read
      · next first others first_read others_read =>
          cases read
          rcases List.mem_cons.mp listed with rfl | later
          · exact ⟨tree, List.mem_cons_self, first_read⟩
          · obtain ⟨tree, member, found⟩ := hypothesis others_read later
            exact ⟨tree, List.mem_cons_of_mem _ member, found⟩
      · cases read

theorem exists_of_mem_ofMembers? {trees : List (Option String × JsonSyntax)}
    {members : List (String × JsonValue)} (read : ofMembers? trees = some members)
    {member : String × JsonValue} (listed : member ∈ members) :
    ∃ tree ∈ trees, ofSyntax? tree.2 = some member.2 := by
  induction trees generalizing members with
  | nil =>
      cases read
      cases listed
  | cons tree trees hypothesis =>
      obtain ⟨name, tree⟩ := tree
      unfold ofMembers? at read
      split at read
      · next key first others _ first_read others_read =>
          cases read
          rcases List.mem_cons.mp listed with rfl | later
          · exact ⟨_, List.mem_cons_self, first_read⟩
          · obtain ⟨tree, member, found⟩ := hypothesis others_read later
            exact ⟨tree, List.mem_cons_of_mem _ member, found⟩
      · cases read

theorem nesting_le_of_mem {tree : JsonSyntax} {trees : List JsonSyntax} (member : tree ∈ trees) :
    nesting tree ≤ nestingOfItems trees := by
  induction trees with
  | nil => cases member
  | cons first rest hypothesis =>
      rw [nestingOfItems]
      rcases List.mem_cons.mp member with rfl | later
      · exact Nat.le_max_left _ _
      · exact Nat.le_trans (hypothesis later) (Nat.le_max_right _ _)

theorem nesting_le_of_mem_members {tree : Option String × JsonSyntax}
    {trees : List (Option String × JsonSyntax)} (member : tree ∈ trees) :
    nesting tree.2 ≤ nestingOfMembers trees := by
  induction trees with
  | nil => cases member
  | cons first rest hypothesis =>
      rw [nestingOfMembers]
      rcases List.mem_cons.mp member with rfl | later
      · exact Nat.le_max_left _ _
      · exact Nat.le_trans (hypothesis later) (Nat.le_max_right _ _)

theorem writable_ofDouble? {negative : Bool} {digits : List Char} {power : Int} {value : JsonValue}
    (read : ofDouble? negative digits power = some value) (levels : Nat) :
    Writable levels value := by
  obtain ⟨number, number_read, rfl⟩ := Option.map_eq_some_iff.mp read
  rw [Writable]
  exact Binary64.isCanonical_of_ofDecimal? number_read

theorem writable_ofNumber? {spelling : Json.NumberText} {value : JsonValue}
    (read : ofNumber? spelling = some value) (levels : Nat) : Writable levels value := by
  unfold ofNumber? at read
  split at read
  · dsimp only at read
    split at read
    · split at read
      · next fits =>
          cases read
          cases levels <;> exact ⟨by omega, by omega⟩
      · exact writable_ofDouble? read levels
    · split at read
      · next fits =>
          cases read
          cases levels <;> exact ⟨by omega, by omega⟩
      · exact writable_ofDouble? read levels
  · exact writable_ofDouble? read levels

/-! ## What was read -/

theorem writable_ofSyntax? {levels : Nat} {tree : JsonSyntax} {value : JsonValue}
    (read : ofSyntax? tree = some value) (shallow : nesting tree ≤ levels) :
    Writable levels value := by
  cases tree with
  | null | bool =>
      cases read
      rw [Writable]
      trivial
  | number spelling => exact writable_ofNumber? read levels
  | string text =>
      obtain ⟨text, rfl, rfl⟩ := Option.map_eq_some_iff.mp read
      rw [Writable]
      trivial
  | array trees =>
      obtain ⟨items, items_read, rfl⟩ := Option.map_eq_some_iff.mp read
      cases levels with
      | zero => exact absurd shallow (Nat.not_succ_le_zero _)
      | succ levels =>
          intro item listed
          obtain ⟨tree, member, found⟩ := exists_of_mem_ofItems? items_read listed
          have deep := Nat.le_trans (nesting_le_of_mem member) (Nat.le_of_succ_le_succ shallow)
          exact writable_ofSyntax? found deep
  | object trees =>
      obtain ⟨members, members_read, rfl⟩ := Option.map_eq_some_iff.mp read
      cases levels with
      | zero => exact absurd shallow (Nat.not_succ_le_zero _)
      | succ levels =>
          refine ⟨increasing_sortMembers members, fun member listed => ?_⟩
          obtain ⟨tree, present, found⟩ :=
            exists_of_mem_ofMembers? members_read (mem_of_mem_sortMembers listed)
          have deep := Nat.le_trans (nesting_le_of_mem_members present)
            (Nat.le_of_succ_le_succ shallow)
          exact writable_ofSyntax? found deep
termination_by levels

/-- What a text means can be written. -/
theorem writable_of_parse? {text : String} {value : JsonValue} (read : parse? text = some value) :
    Writable nestingLimit value := by
  rw [parse?, Option.bind_eq_bind, Option.bind_eq_some_iff] at read
  obtain ⟨tree, -, read⟩ := read
  split at read
  · next shallow => exact writable_ofSyntax? read shallow
  · cases read

theorem Writable.regular : ∀ {levels : Nat} {value : JsonValue}, Writable levels value →
    value.isExact = true → Regular levels value
  | levels, null, _, _ | levels, bool _, _, _ | levels, string _, _, _ => by
      rw [Regular]
      trivial
  | levels, integer value, writable, _ => by
      rw [Writable] at writable
      rwa [Regular]
  | _, double _, _, exact => by cases exact
  | 0, array _, writable, _ => writable.elim
  | 0, object _, writable, _ => writable.elim
  | _ + 1, array _, writable, exact => fun item listed =>
      (writable item listed).regular (areExact_iff.mp exact item listed)
  | _ + 1, object _, writable, exact =>
      ⟨writable.1, fun member listed =>
        (writable.2 member listed).regular (membersAreExact_iff.mp exact member listed)⟩

/-- What a text means is regular, unless a number in it is a double. -/
theorem regular_of_parse? {text : String} {value : JsonValue} (read : parse? text = some value)
    (exact : value.isExact = true) : Regular nestingLimit value :=
  (writable_of_parse? read).regular exact

end JsonValue
end ClassEnhancement
