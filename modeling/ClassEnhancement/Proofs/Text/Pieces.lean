import ClassEnhancement.Text.Split

/-!
# Pieces of a text

Cutting a text in two at a character shares out its pieces between the two parts, and pieces
without the character that are joined by it are found again.
-/

namespace ClassEnhancement
namespace Text

variable {separator : Char}

/-- No piece between separators holds a separator. -/
theorem free_of_mem_splitOnP {α : Type} (test : α → Bool) (text : List α) :
    ∀ piece ∈ text.splitOnP test, ∀ c ∈ piece, test c = false := by
  induction text with
  | nil => simp [List.splitOnP_nil]
  | cons c rest hypothesis =>
      obtain ⟨first, others, split⟩ := List.exists_cons_of_ne_nil (List.splitOnP_ne_nil test rest)
      rw [List.splitOnP_cons_eq_if_modifyHead]
      rw [split] at hypothesis ⊢
      by_cases separates : test c = true
      · simpa [separates] using hypothesis
      · simpa [separates] using hypothesis

/-- Pieces hold nothing but what the text holds. -/
theorem mem_of_mem_splitOnP {α : Type} (test : α → Bool) (text : List α) :
    ∀ piece ∈ text.splitOnP test, ∀ c ∈ piece, c ∈ text := by
  induction text with
  | nil => simp [List.splitOnP_nil]
  | cons c rest hypothesis =>
      obtain ⟨first, others, split⟩ := List.exists_cons_of_ne_nil (List.splitOnP_ne_nil test rest)
      rw [List.splitOnP_cons_eq_if_modifyHead]
      rw [split] at hypothesis ⊢
      have kept : ∀ piece ∈ first :: others, ∀ d ∈ piece, d ∈ c :: rest :=
        fun piece member d inside => List.mem_cons_of_mem _ (hypothesis piece member d inside)
      by_cases separates : test c = true
      · simpa [separates] using kept
      · simpa [separates] using kept

variable {text piece : String}

theorem free_of_mem_pieces (member : piece ∈ pieces separator text) : separator ∉ piece.toList := by
  obtain ⟨chars, listed, rfl⟩ := List.mem_map.mp member
  rw [List.splitOn_eq_splitOnP] at listed
  rw [String.toList_ofList]
  intro inside
  have free := free_of_mem_splitOnP _ _ chars listed separator inside
  simp at free

theorem mem_of_mem_pieces (member : piece ∈ pieces separator text) {c : Char}
    (inside : c ∈ piece.toList) : c ∈ text.toList := by
  obtain ⟨chars, listed, rfl⟩ := List.mem_map.mp member
  rw [List.splitOn_eq_splitOnP] at listed
  rw [String.toList_ofList] at inside
  exact mem_of_mem_splitOnP _ _ chars listed c inside

theorem pieces_ne_nil (separator : Char) (text : String) : pieces separator text ≠ [] := by
  simp [pieces, List.splitOn_ne_nil]

/-- A text is its pieces with separators between them. -/
theorem intercalate_pieces (separator : Char) (text : String) :
    (String.singleton separator).intercalate (pieces separator text) = text := by
  rw [← String.toList_inj, String.toList_intercalate, pieces, List.map_map, String.toList_singleton]
  simp

/-- A text is cut to pieces on both sides of a separator. -/
theorem pieces_append (front back : List Char) :
    pieces separator (String.ofList (front ++ separator :: back)) =
      pieces separator (String.ofList front) ++ pieces separator (String.ofList back) := by
  simp only [pieces, String.toList_ofList, List.splitOn_append_cons_self, List.map_append]

theorem pieces_join (separator : Char) (front back : String) :
    pieces separator (front ++ String.singleton separator ++ back) =
      pieces separator front ++ pieces separator back := by
  have spelled : front ++ String.singleton separator ++ back =
      String.ofList (front.toList ++ separator :: back.toList) := by
    rw [← String.toList_inj]
    simp
  rw [spelled, pieces_append, String.ofList_toList, String.ofList_toList]

/-- A text goes on after a separator just where its pieces go on. -/
theorem goesOn_iff {front whole : String} :
    (∃ more, whole = front ++ String.singleton separator ++ more) ↔
      ∃ inner, inner ≠ [] ∧ pieces separator whole = pieces separator front ++ inner := by
  constructor
  · rintro ⟨more, rfl⟩
    exact ⟨pieces separator more, pieces_ne_nil separator more, pieces_join separator front more⟩
  · rintro ⟨inner, filled, split⟩
    refine ⟨(String.singleton separator).intercalate inner, ?_⟩
    rw [← intercalate_pieces separator whole, split,
      String.intercalate_append_of_ne_nil (pieces_ne_nil separator front) filled,
      intercalate_pieces]

/-- The last piece of a text takes up what is appended to it without a separator. -/
theorem exists_pieces_append (text : String) {ending : String} (free : separator ∉ ending.toList) :
    ∃ front last, pieces separator (text ++ ending) = front ++ [last ++ ending] := by
  by_cases member : separator ∈ text.toList
  · -- The last occurrence of the separator is the first one from the end.
    obtain ⟨after, before, reversed, absent⟩ :=
      List.eq_append_cons_of_mem (List.mem_reverse.mpr member)
    have split : text.toList = before.reverse ++ separator :: after.reverse := by
      rw [← List.reverse_reverse text.toList, reversed]
      simp
    have whole : text ++ ending =
        String.ofList (before.reverse ++ separator :: (after.reverse ++ ending.toList)) := by
      rw [← String.toList_inj, String.toList_append, String.toList_ofList, split,
        List.append_assoc, List.cons_append]
    have last : separator ∉ after.reverse ++ ending.toList := by
      simp [absent, free]
    refine ⟨pieces separator (String.ofList before.reverse), String.ofList after.reverse, ?_⟩
    rw [whole, pieces_append]
    congr 1
    rw [pieces, String.toList_ofList, List.splitOn_eq_singleton last, List.map_singleton,
      String.ofList_append, String.ofList_toList]
  · have absent : separator ∉ (text ++ ending).toList := by
      simp [member, free]
    refine ⟨[], text, ?_⟩
    rw [pieces, List.splitOn_eq_singleton absent, List.map_singleton, String.ofList_toList,
      List.nil_append]

/-- Pieces without the separator are found again between separators. -/
theorem pieces_intercalate {texts : List String} (some_text : texts ≠ [])
    (free : ∀ text ∈ texts, separator ∉ text.toList) :
    pieces separator ((String.singleton separator).intercalate texts) = texts := by
  have pieces_free : ∀ piece ∈ texts.map String.toList, separator ∉ piece := by
    intro piece member
    obtain ⟨text, listed, rfl⟩ := List.mem_map.mp member
    exact free text listed
  have found := List.splitOn_intercalate separator pieces_free (by simpa using some_text)
  rw [pieces, String.toList_intercalate, String.toList_singleton, found]
  simp

theorem mem_intercalate {c : Char} {between : String} {texts : List String}
    (member : c ∈ (between.intercalate texts).toList) :
    c ∈ between.toList ∨ ∃ text ∈ texts, c ∈ text.toList := by
  induction texts with
  | nil => simp at member
  | cons first rest induction =>
      by_cases alone : rest = []
      · subst alone
        rw [String.intercalate_singleton] at member
        exact .inr ⟨first, List.mem_cons_self, member⟩
      · rw [String.intercalate_cons_of_ne_nil alone, String.toList_append, String.toList_append,
          List.mem_append, List.mem_append] at member
        rcases member with (early | between_member) | late
        · exact .inr ⟨first, List.mem_cons_self, early⟩
        · exact .inl between_member
        · rcases induction late with between_member | ⟨text, listed, inside⟩
          · exact .inl between_member
          · exact .inr ⟨text, List.mem_cons_of_mem _ listed, inside⟩

/-- Texts without the separator keep their characters when the separator is replaced. -/
theorem replaceChar_intercalate (new : Char) {texts : List String}
    (free : ∀ text ∈ texts, separator ∉ text.toList) :
    replaceChar separator new ((String.singleton separator).intercalate texts) =
      (String.singleton new).intercalate texts := by
  rw [← String.toList_inj, toList_replaceChar]
  induction texts with
  | nil => simp
  | cons first rest induction =>
      obtain ⟨first_free, rest_free⟩ := List.forall_mem_cons.mp free
      have first_kept : (first.toList.map fun c => if c = separator then new else c) =
          first.toList := by
        refine (List.map_congr_left fun c member => ?_).trans (List.map_id _)
        rw [if_neg (ne_of_mem_of_not_mem member first_free)]
        rfl
      by_cases alone : rest = []
      · simp [alone, first_kept]
      · have later := induction rest_free
        rw [String.intercalate_cons_of_ne_nil alone, String.intercalate_cons_of_ne_nil alone]
        simp only [String.toList_append, List.map_append, first_kept, later]
        simp

/-- A text is cut at the last occurrence of a character. -/
theorem splitLast?_append {before after : List Char} (absent : separator ∉ after) :
    splitLast? separator (before ++ separator :: after) = some (before, after) := by
  induction before with
  | nil => simp [splitLast?, splitLast?_eq_none_iff.mpr absent]
  | cons c before induction => simp [splitLast?, induction]

end Text
end ClassEnhancement
