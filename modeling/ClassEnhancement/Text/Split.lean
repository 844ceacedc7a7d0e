/-!
# Cutting text at a character

Replacing a character, cutting at its last occurrence and removing a known ending, on lists of
characters and on strings.
-/

namespace ClassEnhancement
namespace Text

/-- A text with every occurrence of one character replaced by another. -/
def replaceChar (old new : Char) (text : String) : String :=
  String.ofList (text.toList.map fun c => if c = old then new else c)

@[simp]
theorem toList_replaceChar (old new : Char) (text : String) :
    (replaceChar old new text).toList = text.toList.map fun c => if c = old then new else c := by
  simp [replaceChar]

/-- The pieces of a text between occurrences of a character. -/
def pieces (separator : Char) (text : String) : List String :=
  (text.toList.splitOn separator).map String.ofList

/-- What stands before and after the last occurrence of a character. -/
def splitLast? (separator : Char) : List Char → Option (List Char × List Char)
  | [] => none
  | c :: rest =>
    match splitLast? separator rest with
    | some (before, after) => some (c :: before, after)
    | none => if c = separator then some ([], rest) else none

/-- A text without a given ending, where it has that ending. -/
def dropEnding? (ending text : List Char) : Option (List Char) :=
  if ending.isSuffixOf text then some (text.take (text.length - ending.length)) else none

theorem splitLast?_eq_none_iff {separator : Char} {text : List Char} :
    splitLast? separator text = none ↔ separator ∉ text := by
  induction text with
  | nil => simp [splitLast?]
  | cons c rest hypothesis =>
      cases found : splitLast? separator rest with
      | some parts =>
          simp only [splitLast?, found, reduceCtorEq, false_iff, List.mem_cons, not_or, not_and,
            Classical.not_not]
          intro _
          by_cases member : separator ∈ rest
          · exact member
          · rw [hypothesis.mpr member] at found
            cases found
      | none =>
          have absent := hypothesis.mp found
          by_cases same : c = separator
          · simp [splitLast?, found, same]
          · simp [splitLast?, found, same, absent, Ne.symm same]

theorem eq_append_of_splitLast? {separator : Char} {text before after : List Char}
    (found : splitLast? separator text = some (before, after)) :
    text = before ++ separator :: after := by
  induction text generalizing before with
  | nil => simp [splitLast?] at found
  | cons c rest hypothesis =>
      rw [splitLast?] at found
      split at found
      · next inner _ tail =>
          simp only [Option.some.injEq, Prod.mk.injEq] at found
          obtain ⟨rfl, rfl⟩ := found
          simp [hypothesis tail]
      · split at found
        · next same =>
            simp only [Option.some.injEq, Prod.mk.injEq] at found
            obtain ⟨rfl, rfl⟩ := found
            simp [same]
        · simp at found

theorem dropEnding?_append (text ending : List Char) :
    dropEnding? ending (text ++ ending) = some text := by
  have suffix : ending.isSuffixOf (text ++ ending) = true := by simp
  simp [dropEnding?, suffix]

theorem eq_append_of_dropEnding? {ending text rest : List Char}
    (found : dropEnding? ending text = some rest) : text = rest ++ ending := by
  rw [dropEnding?] at found
  split at found
  · next ended =>
      cases found
      exact (List.suffix_iff_eq_append.mp (List.isSuffixOf_iff_suffix.mp ended)).symm
  · cases found

end Text
end ClassEnhancement
