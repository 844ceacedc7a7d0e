import ClassEnhancement.Json.Syntax

/-!
# Tokens of JSON syntax

A syntax tree has a list of tokens, and reading them gives the tree back, whatever tokens follow.
-/

namespace ClassEnhancement
namespace JsonSyntax

open Json

mutual

/-- The tokens of a tree. -/
def tokens : JsonSyntax → List Token
  | .null => [.null]
  | .bool value => [.bool value]
  | .number spelling => [.number spelling]
  | .string text => [.string text]
  | .array [] => [.openBracket, .closeBracket]
  | .array (item :: rest) => .openBracket :: (tokens item ++ moreItems rest)
  | .object [] => [.openBrace, .closeBrace]
  | .object ((key, value) :: rest) =>
    .openBrace :: .string key :: .colon :: (tokens value ++ moreMembers rest)

/-- The tokens of the items after the first, up to the closing bracket. -/
def moreItems : List JsonSyntax → List Token
  | [] => [.closeBracket]
  | item :: rest => .comma :: (tokens item ++ moreItems rest)

/-- The tokens of the members after the first, up to the closing brace. -/
def moreMembers : List (Option String × JsonSyntax) → List Token
  | [] => [.closeBrace]
  | (key, value) :: rest => .comma :: .string key :: .colon :: (tokens value ++ moreMembers rest)

end

/-- No value begins with the end of an array. -/
theorem tokens_eq_cons (tree : JsonSyntax) :
    ∃ first others, tree.tokens = first :: others ∧ first ≠ .closeBracket := by
  unfold tokens
  split <;> exact ⟨_, _, rfl, nofun⟩

theorem length_tokens_pos (tree : JsonSyntax) : 0 < tree.tokens.length := by
  obtain ⟨first, others, split, -⟩ := tree.tokens_eq_cons
  simp [split]

theorem length_moreItems_pos (more : List JsonSyntax) : 0 < (moreItems more).length := by
  cases more <;> simp [moreItems]

theorem length_moreMembers_pos (more : List (Option String × JsonSyntax)) :
    0 < (moreMembers more).length := by
  cases more <;> simp [moreMembers]

/-- Reading undoes writing within a number of steps. -/
structure ReadBack (bound : Nat) : Prop where
  value : ∀ tree rest, 2 * tree.tokens.length ≤ bound →
    readValue bound (tree.tokens ++ rest) = some (tree, rest)
  items : ∀ item more rest, 2 * (item.tokens.length + (moreItems more).length) ≤ bound →
    readItems bound (item.tokens ++ (moreItems more ++ rest)) = some (item :: more, rest)
  members : ∀ key value more rest,
    2 * (value.tokens.length + (moreMembers more).length) ≤ bound →
    readMembers bound (.string key :: .colon :: (value.tokens ++ (moreMembers more ++ rest))) =
      some ((key, value) :: more, rest)

theorem readBack_zero : ReadBack 0 where
  value tree _ fits := absurd tree.length_tokens_pos (by omega)
  items item _ _ fits := absurd item.length_tokens_pos (by omega)
  members _ value _ _ fits := absurd value.length_tokens_pos (by omega)

namespace ReadBack

variable {bound : Nat}

theorem value_succ (back : ReadBack bound) (tree : JsonSyntax) (rest : List Token)
    (fits : 2 * tree.tokens.length ≤ bound + 1) :
    readValue (bound + 1) (tree.tokens ++ rest) = some (tree, rest) := by
  match tree with
  | .null => rfl
  | .bool value => rfl
  | .number spelling => rfl
  | .string text => rfl
  | .array [] => rfl
  | .array (item :: more) =>
      simp only [tokens, List.length_cons, List.length_append] at fits
      have read := back.items item more rest (by omega)
      rw [tokens, List.cons_append, List.append_assoc, readValue, read]
      -- The reader would take a bracket here for the end of an empty array.
      intro after begins
      obtain ⟨first, others, split, differs⟩ := item.tokens_eq_cons
      rw [split] at begins
      exact differs (List.cons.inj begins).1
  | .object [] => rfl
  | .object ((key, value) :: more) =>
      simp only [tokens, List.length_cons, List.length_append] at fits
      have read := back.members key value more rest (by omega)
      simp only [tokens, List.cons_append, List.append_assoc]
      rw [readValue, read]
      intro after begins
      cases begins

theorem items_succ (back : ReadBack bound) (item : JsonSyntax) (more : List JsonSyntax)
    (rest : List Token) (fits : 2 * (item.tokens.length + (moreItems more).length) ≤ bound + 1) :
    readItems (bound + 1) (item.tokens ++ (moreItems more ++ rest)) =
      some (item :: more, rest) := by
  have some_left := length_moreItems_pos more
  rw [readItems, back.value item _ (by omega)]
  cases more with
  | nil => rfl
  | cons next more =>
      simp only [moreItems, List.length_cons, List.length_append] at fits
      have read := back.items next more rest (by omega)
      simp only [moreItems, List.cons_append, List.append_assoc, read]

theorem members_succ (back : ReadBack bound) (key : Option String) (value : JsonSyntax)
    (more : List (Option String × JsonSyntax)) (rest : List Token)
    (fits : 2 * (value.tokens.length + (moreMembers more).length) ≤ bound + 1) :
    readMembers (bound + 1)
        (.string key :: .colon :: (value.tokens ++ (moreMembers more ++ rest))) =
      some ((key, value) :: more, rest) := by
  have some_left := length_moreMembers_pos more
  rw [readMembers, back.value value _ (by omega)]
  cases more with
  | nil => rfl
  | cons next more =>
      obtain ⟨other, after⟩ := next
      simp only [moreMembers, List.length_cons, List.length_append] at fits
      have read := back.members other after more rest (by omega)
      simp only [moreMembers, List.cons_append, List.append_assoc, read]

end ReadBack

theorem readBack (bound : Nat) : ReadBack bound := by
  induction bound with
  | zero => exact readBack_zero
  | succ bound hypothesis =>
      exact ⟨hypothesis.value_succ, hypothesis.items_succ, hypothesis.members_succ⟩

/-- Reading the tokens of a tree gives the tree. -/
theorem parse?_of_tokens {text : String} {tree : JsonSyntax}
    (spelled : Json.tokens text = some tree.tokens) : parse? text = some tree := by
  have read := (readBack (2 * tree.tokens.length + 2)).value tree [] (by omega)
  rw [List.append_nil] at read
  simp [parse?, spelled, read]

end JsonSyntax
end ClassEnhancement
