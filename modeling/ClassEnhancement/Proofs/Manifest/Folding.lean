import ClassEnhancement.Manifest.Discovery
import ClassEnhancement.Proofs.OrderedMap.Insertion
import ClassEnhancement.Proofs.Text.Decoding
import ClassEnhancement.Proofs.Text.Lines

/-!
# Folded manifests

A writer of manifests may cut a value anywhere and go on after a space on the next line, and may end
each line in either way.  Reading undoes it: the attributes are those that were written, the last
one of a name counts, and what stands after an empty line does not.
-/

namespace ClassEnhancement

/-! ## Lines and their ends -/

/-- How a line may end. -/
inductive LineEnd where
  | feed
  | returnAndFeed
  deriving DecidableEq

def LineEnd.chars : LineEnd → List Char
  | feed => ['\n']
  | returnAndFeed => ['\r', '\n']

/-- A text without characters of line ends. -/
def IsInline (text : List Char) : Prop := '\n' ∉ text ∧ '\r' ∉ text

instance (text : List Char) : Decidable (IsInline text) := inferInstanceAs (Decidable (_ ∧ _))

namespace Text

theorem dropReturn_of_inline {line : List Char} (inline : IsInline line) :
    dropReturn line = line :=
  dropReturn_of_unreturned fun last => inline.2 (List.mem_of_getLast? last)

/-- A line with its end is the first line, whichever end it has. -/
theorem lines_append {line : List Char} (inline : IsInline line) (ending : LineEnd)
    (rest : List Char) : lines (line ++ ending.chars ++ rest) = line :: lines rest := by
  cases ending with
  | feed =>
      have read := lines_of_feed inline.1 rest
      rw [dropReturn_of_inline inline] at read
      simpa [LineEnd.chars] using read
  | returnAndFeed =>
      have unbroken : '\n' ∉ line ++ ['\r'] := by
        simpa using inline.1
      have read := lines_of_feed unbroken rest
      rw [dropReturn_concat] at read
      simpa [LineEnd.chars] using read

/-- A text is trimmed when no white space stands at its ends. -/
theorem trim_of_ends {text : List Char} (first : ∀ c ∈ text.head?, isBlank c = false)
    (last : ∀ c ∈ text.getLast?, isBlank c = false) : trim text = text := by
  have start : dropStart isBlank text = text := by
    cases text with
    | nil => rfl
    | cons c rest => simp [dropStart, first c rfl]
  have ending : dropEnd isBlank text = text :=
    List.rdropWhile_eq_self_iff.mpr fun filled => by
      simp [last _ (List.getLast?_eq_some_getLast filled)]
  rw [trim, start, ending]

end Text

namespace Manifest

/-! ## Reading one line -/

/-- The first colon before a space is the one after a name that holds none. -/
theorem splitColon?_append {name : List Char} (unsplit : ¬ [':', ' '] <:+: name)
    (value : List Char) : splitColon? (name ++ ':' :: ' ' :: value) = some (name, value) := by
  induction name with
  | nil => rfl
  | cons c name induction =>
      have later : ¬ [':', ' '] <:+: name := fun inside =>
        unsplit (inside.trans (List.suffix_cons c name).isInfix)
      have found := induction later
      cases name with
      | nil => simp [splitColon?]
      | cons d name =>
          have apart : ¬ (c = ':' ∧ d = ' ') := by
            rintro ⟨rfl, rfl⟩
            exact unsplit ⟨[], name, rfl⟩
          rw [List.cons_append, splitColon?]
          · rw [found]
            rfl
          · intro rest colon space
            exact apart ⟨colon, (List.cons.inj space).1⟩

/-- A name as a writer of manifests spells it. -/
structure IsAttributeName (name : List Char) : Prop where
  filled : name ≠ []
  /-- No white space stands before it. -/
  first : ∀ c ∈ name.head?, Text.isBlank c = false
  /-- No white space stands after it. -/
  last : ∀ c ∈ name.getLast?, Text.isBlank c = false
  inline : IsInline name
  /-- It holds no colon before a space. -/
  unsplit : ¬ [':', ' '] <:+: name

theorem ofChars_attribute {name : List Char} (spelled : IsAttributeName name)
    (value : List Char) : Line.ofChars (name ++ ':' :: ' ' :: value) = .attribute name value := by
  have split : splitAttribute? (name ++ ':' :: ' ' :: value) = some (name, value) := by
    rw [splitAttribute?, splitColon?_append spelled.unsplit]
  have named : ¬ (Text.trim name).isEmpty = true := by
    rw [Text.trim_of_ends spelled.first spelled.last]
    simpa using spelled.filled
  cases name with
  | nil => exact absurd rfl spelled.filled
  | cons c name =>
      have no_space : c ≠ ' ' := by
        rintro rfl
        cases spelled.first ' ' rfl
      rw [Line.ofChars]
      · rw [split]
        exact if_neg named
      · intro more same
        exact no_space (List.cons.inj same).1

/-- A text with small ASCII letters. -/
def smallLetters (text : String) : String := String.ofList (text.toList.map Char.toLower)

theorem keyOf_eq {name : String} (spelled : IsAttributeName name.toList) :
    keyOf name.toList = smallLetters name := by
  rw [keyOf, Text.trim_of_ends spelled.first spelled.last, smallLetters]

/-! ## Writing attributes -/

/-- A part of a value with the end of its line. -/
structure Chunk where
  text : String
  ending : LineEnd
  inline : IsInline text.toList

/-- An attribute with its value cut to parts, the first of them on the line of the name. -/
structure FoldedAttribute where
  name : String
  first : Chunk
  more : List Chunk
  spelled : IsAttributeName name.toList

namespace FoldedAttribute

def value (written : FoldedAttribute) : String :=
  String.join ((written.first :: written.more).map Chunk.text)

/-- The lines of an attribute without their ends. -/
def lines (written : FoldedAttribute) : List (List Char) :=
  (written.name.toList ++ ':' :: ' ' :: written.first.text.toList) ::
    written.more.map fun chunk => ' ' :: chunk.text.toList

/-- The text of an attribute, line by line. -/
def render (written : FoldedAttribute) : List Char :=
  (written.name.toList ++ ':' :: ' ' :: written.first.text.toList) ++
      written.first.ending.chars ++
    written.more.flatMap fun chunk => ' ' :: chunk.text.toList ++ chunk.ending.chars

end FoldedAttribute

/-- What follows the attributes: nothing, or an empty line and any text. -/
def remainder : Option (LineEnd × String) → List Char
  | none => []
  | some (ending, after) => ending.chars ++ after.toList

/-- The text of a manifest. -/
def render (attributes : List FoldedAttribute) (rest : Option (LineEnd × String)) : String :=
  String.ofList (attributes.flatMap FoldedAttribute.render ++ remainder rest)

/-! ## Reading what was written -/

theorem lines_chunks (chunks : List Chunk) (rest : List Char) :
    Text.lines ((chunks.flatMap fun chunk => ' ' :: chunk.text.toList ++ chunk.ending.chars) ++
        rest) =
      (chunks.map fun chunk => ' ' :: chunk.text.toList) ++ Text.lines rest := by
  induction chunks with
  | nil => rfl
  | cons chunk chunks induction =>
      have inline : IsInline (' ' :: chunk.text.toList) := by
        have free := chunk.inline
        simpa [IsInline] using free
      rw [List.flatMap_cons, List.append_assoc, Text.lines_append inline, induction]
      rfl

theorem lines_written (written : FoldedAttribute) (rest : List Char) :
    Text.lines (written.render ++ rest) = written.lines ++ Text.lines rest := by
  have inline : IsInline (written.name.toList ++ ':' :: ' ' :: written.first.text.toList) := by
    have name_free := written.spelled.inline
    have text_free := written.first.inline
    simp [IsInline, name_free.1, name_free.2, text_free.1, text_free.2]
  rw [FoldedAttribute.render, List.append_assoc, Text.lines_append inline, lines_chunks]
  rfl

theorem lines_render (attributes : List FoldedAttribute) (rest : List Char) :
    Text.lines (attributes.flatMap FoldedAttribute.render ++ rest) =
      attributes.flatMap FoldedAttribute.lines ++ Text.lines rest := by
  induction attributes with
  | nil => rfl
  | cons written attributes induction =>
      rw [List.flatMap_cons, List.append_assoc, lines_written, induction, List.flatMap_cons,
        List.append_assoc]

/-- The main section ends where the attributes end. -/
theorem mainSection_render (attributes : List FoldedAttribute)
    (rest : Option (LineEnd × String)) :
    mainSection (render attributes rest) = attributes.flatMap FoldedAttribute.lines := by
  have filled : ∀ line ∈ attributes.flatMap FoldedAttribute.lines, (!line.isEmpty) = true := by
    intro line member
    obtain ⟨written, -, listed⟩ := List.mem_flatMap.mp member
    rcases List.mem_cons.mp listed with rfl | continued
    · simp
    · obtain ⟨chunk, -, rfl⟩ := List.mem_map.mp continued
      rfl
  have stops : (Text.lines (remainder rest)).takeWhile (fun line => !line.isEmpty) = [] := by
    cases rest with
    | none => rfl
    | some blank =>
        have empty_line : IsInline [] := ⟨List.not_mem_nil, List.not_mem_nil⟩
        have read := Text.lines_append empty_line blank.1 blank.2.toList
        rw [List.nil_append] at read
        rw [remainder, read]
        rfl
  rw [mainSection, render, String.toList_ofList, lines_render, List.takeWhile_append_of_pos filled,
    stops, List.append_nil]

end Manifest

namespace ManifestAttributes

open Manifest

/-- Continuations extend the value of the attribute before them. -/
theorem ofLines_continuations (chunks : List (List Char)) (number : Nat) (key value : String)
    (attributes : ManifestAttributes) (rest : List (List Char)) :
    ofLines number (some key) (attributes.insert key value)
        (chunks.map (' ' :: ·) ++ rest) =
      ofLines (number + chunks.length) (some key)
        (attributes.insert key (value ++ String.ofList chunks.flatten)) rest := by
  induction chunks generalizing number value with
  | nil => simp
  | cons chunk chunks induction =>
      rw [List.map_cons, List.cons_append, ofLines]
      simp only [Line.ofChars, OrderedMap.modify_insert]
      rw [induction, List.length_cons, List.flatten_cons, String.ofList_append, String.append_assoc,
        Nat.add_right_comm, Nat.add_assoc]

/-- All lines of an attribute insert its value as a whole. -/
theorem ofLines_written (written : FoldedAttribute) (number : Nat) (current : Option String)
    (attributes : ManifestAttributes) (rest : List (List Char)) :
    ofLines number current attributes (written.lines ++ rest) =
      ofLines (number + written.lines.length) (some (smallLetters written.name))
        (attributes.insert (smallLetters written.name) written.value) rest := by
  have continued : (written.more.map fun chunk => ' ' :: chunk.text.toList) =
      (written.more.map fun chunk => chunk.text.toList).map (' ' :: ·) := by
    rw [List.map_map]
    rfl
  have whole : written.first.text ++
      String.ofList (written.more.map fun chunk => chunk.text.toList).flatten = written.value := by
    rw [← String.toList_inj]
    simp [FoldedAttribute.value, List.flatMap, List.map_map, Function.comp_def]
  rw [FoldedAttribute.lines, List.cons_append, ofLines, ofChars_attribute written.spelled]
  simp only [String.ofList_toList, keyOf_eq written.spelled]
  rw [continued, ofLines_continuations, whole]
  simp [Nat.add_right_comm, Nat.add_assoc]

/-- The lines of attributes insert their values one after another. -/
theorem ofLines_render (writtens : List FoldedAttribute) (number : Nat) (current : Option String)
    (attributes : ManifestAttributes) :
    ofLines number current attributes (writtens.flatMap FoldedAttribute.lines) =
      .ok (attributes.insertAll
        (writtens.map fun written => (smallLetters written.name, written.value))) := by
  induction writtens generalizing number current attributes with
  | nil => rfl
  | cons written writtens induction =>
      rw [List.flatMap_cons, ofLines_written, induction]
      rfl

/-- A manifest is read back as the attributes that were written. -/
theorem parse_render (attributes : List FoldedAttribute) (rest : Option (LineEnd × String)) :
    parse (render attributes rest) =
      .ok (.ofList (attributes.map fun written => (smallLetters written.name, written.value))) := by
  rw [parse, mainSection_render, ofLines_render]
  rfl

/-- The value of the last attribute of a name, whatever the case of its letters. -/
def lastValue? (attributes : List FoldedAttribute) (name : String) : Option String :=
  (attributes.filter fun written => smallLetters written.name = smallLetters name).getLast?.map
    FoldedAttribute.value

theorem get?_ofList (attributes : List FoldedAttribute) (name : String) :
    get? (.ofList (attributes.map fun written => (smallLetters written.name, written.value)))
        name = lastValue? attributes name := by
  rw [get?, OrderedMap.find?_ofList, lastValue?, ← smallLetters]
  induction attributes using List.reverseRecOn with
  | nil => rfl
  | append_singleton attributes written induction =>
      rw [List.map_append, List.map_singleton, List.reverse_append, List.reverse_singleton,
        List.singleton_append, List.lookup_cons, List.filter_append]
      by_cases same : smallLetters written.name = smallLetters name
      · simp [same]
      · have different : (smallLetters name == smallLetters written.name) = false := by
          simpa using Ne.symm same
        simp [same, different, induction]

/-- However values are cut and lines are ended, and whatever stands after an empty line, a manifest
is read as the attributes that were written: one for each name up to case, with the whole value that
was written last. -/
theorem parse_folded (attributes : List FoldedAttribute) (rest : Option (LineEnd × String)) :
    ∃ parsed, parse (render attributes rest) = .ok parsed ∧
      parsed.size = (attributes.map fun written => smallLetters written.name).toFinset.card ∧
      (∀ name, parsed.get? name = lastValue? attributes name) ∧
      (∀ others rest', (others.map fun written => (written.name, written.value)) =
          (attributes.map fun written => (written.name, written.value)) →
        parse (render others rest') = .ok parsed) ∧
      ∀ relative directory,
        Contribution.ofOutput relative directory
            (.content (Utf8.encode (render attributes rest))) =
          ⟨lastValue? attributes "packages", none⟩ := by
  refine ⟨_, parse_render attributes rest, ?_, get?_ofList attributes, ?_, ?_⟩
  · rw [OrderedMap.size_ofList, List.map_map]
    rfl
  · intro others rest' same
    have entries := congrArg (List.map fun entry => (smallLetters entry.1, entry.2)) same
    rw [List.map_map, List.map_map] at entries
    rw [parse_render]
    exact congrArg (fun entries => Except.ok (OrderedMap.ofList entries)) entries
  · intro relative directory
    have packages := get?_ofList attributes "packages"
    rw [Contribution.ofOutput, Utf8.decodeLenient_encode, parse_render]
    simp only [packages?, packages]
    cases lastValue? attributes "packages" with
    | none => rfl
    | some raw => rfl

/-- An attribute on one line. -/
def shouted : FoldedAttribute where
  name := "PACKAGES"
  first := ⟨"a: b", .feed, by decide⟩
  more := []
  spelled :=
    { filled := by decide
      first := fun c (same : some 'P' = some c) => Option.some.inj same ▸ rfl
      last := fun c (same : some 'S' = some c) => Option.some.inj same ▸ rfl
      inline := by decide
      unsplit := by decide }

/-- An attribute of the same name on three lines, the second of them with an empty part. -/
def folded : FoldedAttribute where
  name := "Packages"
  first := ⟨" c", .returnAndFeed, by decide⟩
  more :=
    [⟨"", .feed, by decide⟩, ⟨" .d", .returnAndFeed, by decide⟩]
  spelled :=
    { filled := by decide
      first := fun c (same : some 'P' = some c) => Option.some.inj same ▸ rfl
      last := fun c (same : some 's' = some c) => Option.some.inj same ▸ rfl
      inline := by decide
      unsplit := by decide }

/-- The later of two attributes of one name counts, and no line after the empty one. -/
theorem parse_folded_repeated :
    render [shouted, folded] (some (.feed, "no attribute")) =
        "PACKAGES: a: b\nPackages:  c\r\n \n  .d\r\n\nno attribute" ∧
      ∃ parsed, parse (render [shouted, folded] (some (.feed, "no attribute"))) = .ok parsed ∧
        parsed.size = 1 ∧ parsed.get? "packageS" = some " c .d" := by
  obtain ⟨parsed, read, size, values, -, -⟩ :=
    parse_folded [shouted, folded] (some (.feed, "no attribute"))
  refine ⟨by decide, parsed, read, ?_, ?_⟩
  · rw [size]
    decide
  · rw [values]
    decide

end ManifestAttributes
end ClassEnhancement
