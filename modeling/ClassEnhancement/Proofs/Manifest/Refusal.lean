import ClassEnhancement.Proofs.Manifest.Folding

/-!
# Refused manifests

A line of the main section is refused when it continues no attribute, or has not the form of one.
Reading fails exactly where a line is refused, and reports the first such line.  Only the first line
of all can continue nothing, and what stands from an empty line on is not read.
-/

namespace ClassEnhancement
namespace Manifest

variable {line name value : List Char}

/-! ## The form of an attribute -/

/-- A text without characters other than white space. -/
def IsBlank (text : List Char) : Prop := ∀ c ∈ text, Text.isBlank c = true

theorem trim_eq_nil_iff {text : List Char} : Text.trim text = [] ↔ IsBlank text :=
  Text.trim_eq_nil_iff

/-- A line is cut at the first colon that a space follows or, where there is none, at a colon at its
end. -/
inductive Cuts (line name value : List Char) : Prop
  | spaced (split : line = name ++ ':' :: ' ' :: value) (first : ¬ [':', ' '] <:+: name)
  | ended (unspaced : ¬ [':', ' '] <:+: line) (split : line = name ++ [':']) (empty : value = [])

/-- A line is cut after a name that is not blank. -/
def HasForm (line : List Char) : Prop := ∃ name value, Cuts line name value ∧ ¬ IsBlank name

theorem eq_of_splitColon? (found : splitColon? line = some (name, value)) :
    line = name ++ ':' :: ' ' :: value ∧ ¬ [':', ' '] <:+: name := by
  fun_induction splitColon? line generalizing name with
  | case1 rest =>
      cases found
      exact ⟨rfl, by simp⟩
  | case2 => cases found
  | case3 c rest apart induction =>
      obtain ⟨⟨before, after⟩, later, same⟩ := Option.map_eq_some_iff.mp found
      cases same
      obtain ⟨rfl, first⟩ := induction later
      refine ⟨rfl, fun inside => ?_⟩
      rcases List.infix_cons_iff.mp inside with start | deeper
      · obtain ⟨rfl, spaced⟩ := List.cons_prefix_cons.mp start
        obtain ⟨more, rfl⟩ := spaced
        exact apart _ rfl rfl
      · exact first deeper

theorem splitColon?_eq_none_iff : splitColon? line = none ↔ ¬ [':', ' '] <:+: line := by
  constructor
  · intro nothing
    fun_induction splitColon? line with
    | case1 rest => cases nothing
    | case2 => simp
    | case3 c rest apart induction =>
        intro inside
        rcases List.infix_cons_iff.mp inside with start | deeper
        · obtain ⟨rfl, more, rfl⟩ := List.cons_prefix_cons.mp start
          exact apart more rfl rfl
        · exact induction (Option.map_eq_none_iff.mp nothing) deeper
  · intro absent
    rw [Option.eq_none_iff_forall_ne_some]
    rintro ⟨name, value⟩ found
    obtain ⟨rfl, -⟩ := eq_of_splitColon? found
    exact absent ⟨name, value, by simp⟩

theorem splitAttribute?_eq_some_iff :
    splitAttribute? line = some (name, value) ↔ Cuts line name value := by
  rw [splitAttribute?]
  constructor
  · intro found
    split at found
    · next parts spaced =>
        cases found
        obtain ⟨split, first⟩ := eq_of_splitColon? spaced
        exact .spaced split first
    · next unspaced =>
        obtain ⟨front, ended, same⟩ := Option.map_eq_some_iff.mp found
        cases same
        exact .ended (splitColon?_eq_none_iff.mp unspaced) (Text.eq_append_of_dropEnding? ended) rfl
  · rintro (⟨rfl, first⟩ | ⟨unspaced, rfl, rfl⟩)
    · rw [splitColon?_append first]
    · rw [splitColon?_eq_none_iff.mpr unspaced, Text.dropEnding?_append]
      rfl

/-- What the form of a line makes it. -/
inductive Reads (line : List Char) : Line → Prop
  | continuation {more : List Char} (split : line = ' ' :: more) : Reads line (.continuation more)
  | named {name value : List Char} (unspaced : line.head? ≠ some ' ')
      (cuts : Cuts line name value) (filled : ¬ IsBlank name) : Reads line (.attribute name value)
  | malformed (unspaced : line.head? ≠ some ' ') (formless : ¬ HasForm line) : Reads line .malformed

theorem reads_ofChars (line : List Char) : Reads line (Line.ofChars line) := by
  have unspaced (apart : ∀ more, line = ' ' :: more → False) : line.head? ≠ some ' ' := by
    intro spaced
    obtain ⟨more, split⟩ := List.head?_eq_some_iff.mp spaced
    exact apart more split
  fun_cases Line.ofChars line with
  | case1 more => exact .continuation rfl
  | case2 _ apart name value found blank =>
      refine .malformed (unspaced apart) ?_
      rintro ⟨other, rest, cuts, named⟩
      rw [splitAttribute?_eq_some_iff.mpr cuts] at found
      cases found
      exact named (trim_eq_nil_iff.mp (List.isEmpty_iff.mp blank))
  | case3 _ apart name value found named =>
      refine .named (unspaced apart) (splitAttribute?_eq_some_iff.mp found) fun blank => ?_
      exact named (List.isEmpty_iff.mpr (trim_eq_nil_iff.mpr blank))
  | case4 _ apart nothing =>
      refine .malformed (unspaced apart) ?_
      rintro ⟨name, value, cuts, -⟩
      rw [splitAttribute?_eq_some_iff.mpr cuts] at nothing
      cases nothing

/-! ## Refused lines -/

/-- An attribute line does not start with a space. -/
def IsAttribute (line : List Char) : Prop := line.head? ≠ some ' ' ∧ HasForm line

/-- A line is refused after some others. -/
inductive Refused (before : List (List Char)) (line : List Char) : Prop
  /-- It starts with a space, and no attribute stands before it. -/
  | orphan (spaced : line.head? = some ' ') (alone : ∀ earlier ∈ before, ¬ IsAttribute earlier)
  /-- It does not start with a space and has not the form of an attribute. -/
  | malformed (unspaced : line.head? ≠ some ' ') (formless : ¬ HasForm line)

/-- None of some lines is refused where it stands, after some others. -/
def AllAllowed (before lines : List (List Char)) : Prop :=
  ∀ front line back, lines = front ++ line :: back → ¬ Refused (before ++ front) line

/-- How a refused line is reported. -/
def refusal (number : Nat) (line : List Char) : ManifestError :=
  if line.head? = some ' ' then .orphanContinuation number
  else .malformedLine number (String.ofList line)

variable {before front back rest : List (List Char)}

theorem allAllowed_nil (before : List (List Char)) : AllAllowed before [] := by
  intro front line back split
  simp at split

theorem AllAllowed.cons (allowed : ¬ Refused before line)
    (later : AllAllowed (before ++ [line]) rest) :
    AllAllowed before (line :: rest) := by
  intro front other back split
  cases front with
  | nil =>
      cases split
      rwa [List.append_nil]
  | cons first front =>
      cases split
      have kept := later front other back rfl
      rwa [List.append_assoc] at kept

/-- What reading lines after some others comes to. -/
inductive Verdict (before lines : List (List Char)) :
    Except ManifestError ManifestAttributes → Prop
  | accepted (parsed : ManifestAttributes) (allowed : AllAllowed before lines) :
      Verdict before lines (.ok parsed)
  | refused {front back : List (List Char)} {line : List Char}
      (split : lines = front ++ line :: back) (refused : Refused (before ++ front) line)
      (allowed : AllAllowed before front) :
      Verdict before lines (.error (refusal ((before ++ front).length + 1) line))

theorem Verdict.cons {result : Except ManifestError ManifestAttributes}
    (allowed : ¬ Refused before line) (later : Verdict (before ++ [line]) rest result) :
    Verdict before (line :: rest) result := by
  cases later with
  | accepted parsed others => exact .accepted parsed (.cons allowed others)
  | @refused front back bad split refused others =>
      subst split
      rw [List.append_assoc] at refused ⊢
      exact .refused (List.cons_append ..).symm refused (.cons allowed others)

/-! ## Lines before the first empty line -/

/-- A line of a text stands after some others, with no empty line up to it. -/
def Stands (text : String) (front : List (List Char)) (line : List Char) : Prop :=
  (∃ back, Text.lines text.toList = front ++ line :: back) ∧ [] ∉ front ++ [line]

theorem stands_iff {text : String} :
    Stands text front line ↔ ∃ back, mainSection text = front ++ line :: back := by
  constructor
  · rintro ⟨⟨back, split⟩, filled⟩
    have kept : ∀ other ∈ front ++ [line], (!other.isEmpty) = true := by
      intro other member
      cases other with
      | nil => exact absurd member filled
      | cons c other => rfl
    rw [← List.singleton_append, ← List.append_assoc] at split
    refine ⟨back.takeWhile fun other => !other.isEmpty, ?_⟩
    rw [mainSection, split, List.takeWhile_append_of_pos kept, List.append_assoc,
      List.singleton_append]
  · rintro ⟨back, split⟩
    have parts : mainSection text ++
        (Text.lines text.toList).dropWhile (fun line => !line.isEmpty) =
        Text.lines text.toList := List.takeWhile_append_dropWhile
    constructor
    · rw [← parts, split]
      exact ⟨_, by rw [List.append_assoc, List.cons_append]⟩
    · intro empty_line
      have listed : [] ∈ mainSection text := by
        rw [split]
        simpa using Or.imp_right Or.inl (List.mem_append.mp empty_line)
      exact absurd (List.mem_takeWhile_imp listed) (by simp)

/-- The first line of a text that is refused, and the lines before it. -/
structure IsFirstRefused (text : String) (front : List (List Char)) (line : List Char) : Prop where
  stands : Stands text front line
  refused : Refused front line
  first : ∀ earlier other, Stands text earlier other → earlier.length < front.length →
    ¬ Refused earlier other

theorem IsFirstRefused.unique {text : String} {front front' : List (List Char)}
    {line line' : List Char} (one : IsFirstRefused text front line)
    (other : IsFirstRefused text front' line') : front = front' ∧ line = line' := by
  have same_length : front.length = front'.length := by
    apply Nat.le_antisymm
    · exact Nat.le_of_not_lt fun shorter => one.first _ _ other.stands shorter other.refused
    · exact Nat.le_of_not_lt fun shorter => other.first _ _ one.stands shorter one.refused
  obtain ⟨⟨back, split⟩, -⟩ := one.stands
  obtain ⟨⟨back', split'⟩, -⟩ := other.stands
  obtain ⟨rfl, rest⟩ := List.append_inj (split.symm.trans split') same_length
  exact ⟨rfl, (List.cons.inj rest).1⟩

/-- Where nothing before a refused line is refused, it is the first. -/
theorem isFirstRefused {text : String} (split : mainSection text = front ++ line :: back)
    (refused : Refused front line) (allowed : AllAllowed [] front) :
    IsFirstRefused text front line where
  stands := stands_iff.mpr ⟨back, split⟩
  refused := refused
  first := by
    intro earlier other stands shorter
    obtain ⟨late, split'⟩ := stands_iff.mp stands
    rw [split] at split'
    rcases List.append_eq_append_iff.mp split' with ⟨more, rfl, -⟩ | ⟨more, rfl, same⟩
    · rw [List.length_append] at shorter
      omega
    · cases more with
      | nil => simp at shorter
      | cons next more =>
          obtain ⟨rfl, -⟩ := List.cons.inj same
          exact allowed earlier other more rfl

/-- The first line of a text cannot be an allowed continuation, so a later orphan is not the first
refused line. -/
theorem IsFirstRefused.alone {text : String} (first : IsFirstRefused text front line)
    (spaced : line.head? = some ' ') : front = [] := by
  cases front with
  | nil => rfl
  | cons start front =>
      obtain ⟨back, split⟩ := stands_iff.mp first.stands
      have allowed : ¬ Refused [] start :=
        first.first [] start (stands_iff.mpr ⟨front ++ line :: back, split⟩) (by simp)
      rcases first.refused with ⟨-, alone⟩ | ⟨unspaced, -⟩
      · have unspaced : start.head? ≠ some ' ' := fun spaced =>
          allowed (.orphan spaced (by simp))
        have form : HasForm start := by
          by_contra formless
          exact allowed (.malformed unspaced formless)
        exact absurd ⟨unspaced, form⟩ (alone start (by simp))
      · exact absurd spaced unspaced

/-! ## The first empty line -/

/-- Nothing from an empty line on belongs to the main section. -/
theorem mainSection_append {text : String} (ended : text = "" ∨ text.toList.getLast? = some '\n')
    (ending : LineEnd) (tail : String) :
    mainSection (text ++ String.ofList ending.chars ++ tail) = mainSection text := by
  have inline : IsInline [] := ⟨List.not_mem_nil, List.not_mem_nil⟩
  have after := Text.lines_append inline ending tail.toList
  rw [List.nil_append] at after
  have ended_chars : text.toList = [] ∨ text.toList.getLast? = some '\n' := by
    simpa using ended
  rw [mainSection, String.toList_append, String.toList_append, String.toList_ofList,
    List.append_assoc, Text.lines_append_of_ended ended_chars, after, List.takeWhile_append]
  split
  · next whole =>
      have kept := (List.takeWhile_prefix fun line : List Char => !line.isEmpty).eq_of_length whole
      exact (List.append_nil _).trans kept.symm
  · rfl

end Manifest

namespace ManifestAttributes

open Manifest

/-- A continuation has a key to extend just where an attribute stands before it. -/
theorem verdict_ofLines (lines before : List (List Char)) (current : Option String)
    (attributes : ManifestAttributes)
    (tracks : current = none ↔ ∀ earlier ∈ before, ¬ IsAttribute earlier) :
    Verdict before lines (ofLines (before.length + 1) current attributes lines) := by
  induction lines generalizing before current attributes with
  | nil => exact .accepted attributes (allAllowed_nil before)
  | cons line rest induction =>
      have number_eq : before.length + 1 + 1 = (before ++ [line]).length + 1 := by simp
      have here (refused : Refused before line) :
          Verdict before (line :: rest) (.error (refusal (before.length + 1) line)) := by
        rw [← List.append_nil before] at refused
        simpa using Verdict.refused rfl refused (allAllowed_nil before)
      have read := reads_ofChars line
      rw [ofLines, number_eq]
      generalize Line.ofChars line = kind at read
      cases read with
      | malformed unspaced formless =>
          have reported := here (.malformed unspaced formless)
          rwa [refusal, if_neg unspaced] at reported
      | @named name value unspaced cuts filled =>
          have form : HasForm line := ⟨name, value, cuts, filled⟩
          refine .cons ?_ (induction _ _ _ ?_)
          · rintro (⟨spaced, -⟩ | ⟨-, formless⟩)
            · exact unspaced spaced
            · exact formless form
          · constructor
            · intro nobody
              cases nobody
            · intro alone
              exact absurd ⟨unspaced, form⟩ (alone line (by simp))
      | @continuation more split =>
          subst split
          cases current with
          | none => exact here (.orphan rfl (tracks.mp rfl))
          | some key =>
              have followed : ¬ ∀ earlier ∈ before, ¬ IsAttribute earlier := by
                intro alone
                cases tracks.mpr alone
              refine .cons ?_ (induction _ _ _ ?_)
              · rintro (⟨-, alone⟩ | ⟨unspaced, -⟩)
                · exact followed alone
                · exact unspaced rfl
              · constructor
                · intro nobody
                  cases nobody
                · intro alone
                  exact absurd (fun earlier member => alone earlier (by simp [member])) followed

theorem parse_verdict (text : String) : Verdict [] (mainSection text) (parse text) :=
  verdict_ofLines (mainSection text) [] none .empty (by simp)

/-- The error is the report of the first refused line. -/
theorem parse_eq_error_iff {text : String} {error : ManifestError} :
    parse text = .error error ↔
      ∃ front line, IsFirstRefused text front line ∧ error = refusal (front.length + 1) line := by
  have verdict := parse_verdict text
  generalize parse text = result at verdict
  cases verdict with
  | accepted parsed allowed =>
      constructor
      · intro failed
        cases failed
      · rintro ⟨front, line, first, -⟩
        obtain ⟨back, split⟩ := stands_iff.mp first.stands
        exact absurd first.refused (allowed front line back split)
  | @refused front back line split refused allowed =>
      have found := isFirstRefused split refused allowed
      constructor
      · intro reported
        cases reported
        exact ⟨front, line, found, rfl⟩
      · rintro ⟨other, line', first, rfl⟩
        obtain ⟨rfl, rfl⟩ := found.unique first
        rfl

/-- Some line is refused just where there is a first one. -/
theorem parse_fails_iff {text : String} :
    (∃ error, parse text = .error error) ↔
      ∃ front line, Stands text front line ∧ Refused front line := by
  constructor
  · rintro ⟨error, failed⟩
    obtain ⟨front, line, first, -⟩ := parse_eq_error_iff.mp failed
    exact ⟨front, line, first.stands, first.refused⟩
  · rintro ⟨front, line, stands, refused⟩
    obtain ⟨back, split⟩ := stands_iff.mp stands
    have verdict := parse_verdict text
    generalize parse text = result at verdict
    cases verdict with
    | accepted parsed allowed => exact absurd refused (allowed front line back split)
    | refused => exact ⟨_, rfl⟩

/-- Reading fails exactly where a line before the first empty line is refused.  It reports the first
such line, a continuation only as the first line of all, and reads nothing from an empty line on. -/
theorem parse_refuses (text : String) :
    ((∃ error, parse text = .error error) ↔
        ∃ front line, Stands text front line ∧ Refused front line) ∧
      (∀ error, parse text = .error error ↔
        ∃ front line, IsFirstRefused text front line ∧ error = refusal (front.length + 1) line) ∧
      (∀ number, parse text = .error (.orphanContinuation number) → number = 1) ∧
      (text = "" ∨ text.toList.getLast? = some '\n' → ∀ (ending : LineEnd) (tail : String),
        parse (text ++ String.ofList ending.chars ++ tail) = parse text) := by
  refine ⟨parse_fails_iff, fun error => parse_eq_error_iff, ?_, ?_⟩
  · intro number reported
    obtain ⟨front, line, first, same⟩ := parse_eq_error_iff.mp reported
    rw [refusal] at same
    split at same
    · next spaced =>
        cases same
        rw [first.alone spaced]
        rfl
    · cases same
  · intro ended ending tail
    rw [parse, mainSection_append ended, ← parse]

/-- The third line is the first that is refused, and a continuation is refused on the first. -/
theorem parse_refuses_third_line :
    (∃ front line, IsFirstRefused "a: 1\n b\r\nbad\n" front line ∧
        .malformedLine 3 "bad" = refusal (front.length + 1) line) ∧
      parse ("a: 1\n b\r\nbad\n" ++ "\r\n" ++ " c") = .error (.malformedLine 3 "bad") ∧
      ∃ number, parse " b\na: 1" = .error (.orphanContinuation number) ∧ number = 1 := by
  have failed : parse "a: 1\n b\r\nbad\n" = .error (.malformedLine 3 "bad") := by rfl
  have orphaned : parse " b\na: 1" = .error (.orphanContinuation 1) := by rfl
  obtain ⟨-, reports, -, cut⟩ := parse_refuses "a: 1\n b\r\nbad\n"
  obtain ⟨-, -, orphans, -⟩ := parse_refuses " b\na: 1"
  exact ⟨(reports _).mp failed, (cut (.inr (by decide)) .returnAndFeed " c").trans failed, 1,
    orphaned, orphans 1 orphaned⟩

end ManifestAttributes
end ClassEnhancement
