import ClassEnhancement.Proofs.Json.Places
import ClassEnhancement.Proofs.Settings.Loading

/-!
# Numbers of other components

A save reads the whole document and writes it again.  Integers of 64 bits, signed or not, come back
as they were.  Every other integer is read as the nearest double and written as the shortest decimal
of that double, so it is the same integer afterwards only if it is that decimal.

That such an integer is read as the same value again rests on the assumption that decimals are read
as the nearest doubles: the decimal that is written for a double is nearest to it, and a reader that
took a neighbour would find another value there.
-/

namespace ClassEnhancement
namespace JsonValue

open Json

/-! ## What literals denote -/

/-- A number with a sign. -/
def signed (negative : Bool) (number : ℚ) : ℚ := if negative then -number else number

/-- The number that a literal denotes. -/
def denoted (literal : NumberText) : ℚ := signed literal.negative (spelledNumber literal)

/-- A literal with neither a point nor an exponent. -/
def IsWhole (literal : NumberText) : Prop := literal.fraction = none ∧ literal.exponent = none

/-- The integers of 64 bits, signed or not. -/
def Fits (number : ℚ) : Prop := -2 ^ 63 ≤ number ∧ number < 2 ^ 64

/-- The decimal that is written for a double, its sign apart. -/
def shown (value : Binary64) : ℚ := if value.mantissa = 0 then 0 else value.shortest.number

variable {literal : NumberText} {value : JsonValue}

theorem signed_inj {negative : Bool} {left right : ℚ} :
    signed negative left = signed negative right ↔ left = right := by
  cases negative
  · exact Iff.rfl
  · exact neg_inj

theorem denoted_of_isWhole (whole : IsWhole literal) :
    denoted literal = signed literal.negative (natOfDigits literal.whole) := by
  obtain ⟨no_fraction, no_exponent⟩ := whole
  simp [denoted, spelledNumber, no_fraction, no_exponent, powerOf]

theorem denoted_integerText (number : Int) : denoted (integerText number) = number := by
  rw [denoted_of_isWhole ⟨rfl, rfl⟩, integerText, natOfDigits_toDigits, signed]
  by_cases negative : number < 0
  · have magnitude : (number.natAbs : ℤ) = -number := by omega
    rw [← Int.cast_natCast, magnitude]
    simp [negative]
  · have magnitude : (number.natAbs : ℤ) = number := by omega
    rw [← Int.cast_natCast, magnitude]
    simp [negative]

theorem denoted_doubleText (number : Binary64) :
    denoted (doubleText number) = signed number.negative (shown number) := by
  rw [doubleText, shown]
  split
  · have nothing : spelledNumber ⟨number.negative, ['0'], some ['0'], none⟩ = 0 := by
      have digits : natOfDigits ['0', '0'] = 0 := rfl
      simp [spelledNumber, digits]
    rw [denoted, nothing]
  · rw [denoted, negative_layOut, spelledNumber_layOut (isDigits_toDigits _), natOfDigits_toDigits,
      Binary64.Decimal.number]

theorem negative_of_ofDecimal? {negative : Bool} {digits : Nat} {power : Int} {number : Binary64}
    (read : Binary64.ofDecimal? negative digits power = some number) :
    number.negative = negative := by
  unfold Binary64.ofDecimal? Binary64.ofFraction? at read
  dsimp only at read
  split_ifs at read <;> cases read <;> rfl

/-! ## Whole numbers -/

/-- A whole number is read as an integer, or as the double nearest to it. -/
theorem ofNumber?_of_isWhole (whole : IsWhole literal) (read : ofNumber? literal = some value) :
    (Fits (denoted literal) ∧ ∃ number : Int, value = integer number ∧ number = denoted literal) ∨
      (natOfDigits literal.whole = 0 ∨ ¬ Fits (denoted literal)) ∧
        ∃ number, value = double number ∧
          Binary64.ofDecimal? literal.negative (natOfDigits literal.whole) 0 = some number := by
  rw [denoted_of_isWhole whole]
  obtain ⟨negative, digits, fraction, exponent⟩ := literal
  obtain ⟨rfl, rfl⟩ := whole
  have as_double : ofDouble? negative digits 0 = some value → ∃ number, value = double number ∧
      Binary64.ofDecimal? negative (natOfDigits digits) 0 = some number := by
    intro read
    obtain ⟨number, number_read, rfl⟩ := Option.map_eq_some_iff.mp read
    exact ⟨number, rfl, number_read⟩
  have bound : ∀ {count exponent : ℕ}, count ≤ 2 ^ exponent ↔ (count : ℚ) ≤ 2 ^ exponent := by
    intro count exponent
    exact_mod_cast Iff.rfl
  rw [ofNumber?] at read
  simp only [Nat.one_shiftLeft] at read as_double ⊢
  generalize natOfDigits digits = magnitude at read as_double ⊢
  have nonneg : (0 : ℚ) ≤ magnitude := Nat.cast_nonneg magnitude
  cases negative with
  | true =>
      have sign : signed true (magnitude : ℚ) = -magnitude := rfl
      rw [if_pos rfl] at read
      rw [sign, Fits]
      split at read
      · next small =>
          cases read
          have least := bound.mp small.2
          exact .inl ⟨⟨by linarith, by linarith⟩, -magnitude, rfl, by push_cast; rfl⟩
      · next other =>
          refine .inr ⟨?_, as_double read⟩
          by_cases nothing : magnitude = 0
          · exact .inl nothing
          · refine .inr fun fits => other ⟨Nat.pos_of_ne_zero nothing, bound.mpr ?_⟩
            linarith [fits.1]
  | false =>
      have sign : signed false (magnitude : ℚ) = magnitude := rfl
      rw [if_neg Bool.false_ne_true] at read
      rw [sign, Fits]
      split at read
      · next small =>
          cases read
          have greatest : (magnitude : ℚ) < 2 ^ 64 := by exact_mod_cast small
          exact .inl ⟨⟨by linarith, greatest⟩, magnitude, rfl, by push_cast; rfl⟩
      · next great =>
          refine .inr ⟨.inr fun fits => great ?_, as_double read⟩
          exact_mod_cast fits.2

/-! ## One literal after a save -/

/-- What is written for a whole number that was read. -/
structure Rewritten (literal found : NumberText) : Prop where
  /-- Both are read as the same value, as decimals are read as the nearest doubles. -/
  same_value : ofNumber? found = ofNumber? literal
  /-- An integer that does not fit becomes the shortest decimal of the double nearest to it. -/
  rounded : ¬ Fits (denoted literal) → ∃ number,
    Binary64.ofDecimal? literal.negative (natOfDigits literal.whole) 0 = some number ∧
      denoted found = signed literal.negative (shown number)
  /-- An integer that fits stays the same, and any other one if it is that decimal. -/
  same_iff : denoted found = denoted literal ↔ Fits (denoted literal) ∨ ∃ number,
    Binary64.ofDecimal? literal.negative (natOfDigits literal.whole) 0 = some number ∧
      shown number = natOfDigits literal.whole

theorem shown_of_zero {negative : Bool} {number : Binary64}
    (read : Binary64.ofDecimal? negative 0 0 = some number) : shown number = 0 := by
  rw [Binary64.ofDecimal?, if_pos (.inl rfl)] at read
  cases read
  rfl

/-- What is written for a value that a whole number was read as. -/
theorem rewritten_of_ofNumber? {found : NumberText} (whole : IsWhole literal)
    (read : ofNumber? literal = some value) (written : value.literal? = some found) :
    Rewritten literal found := by
  have writable := writable_ofNumber? read 0
  rcases ofNumber?_of_isWhole whole read with ⟨fits, number, rfl, same⟩ |
    ⟨outside, number, rfl, nearest⟩
  · cases written
    have same_number : denoted (integerText number) = denoted literal :=
      (denoted_integerText number).trans same
    rw [Writable] at writable
    exact
      { same_value := (ofNumber?_integerText writable).trans read.symm
        rounded := fun far => (far fits).elim
        same_iff := ⟨fun _ => .inl fits, fun _ => same_number⟩ }
  · cases written
    rw [Writable] at writable
    have shows : denoted (doubleText number) = signed literal.negative (shown number) := by
      rw [denoted_doubleText, negative_of_ofDecimal? nearest]
    refine
      { same_value := (ofNumber?_doubleText writable).trans read.symm
        rounded := fun _ => ⟨number, nearest, shows⟩
        same_iff := ⟨fun same => .inr ⟨number, nearest, ?_⟩, ?_⟩ }
    · rwa [shows, denoted_of_isWhole whole, signed_inj] at same
    · rintro (fits | ⟨other, other_nearest, shortest⟩)
      · have nothing := outside.resolve_right (not_not_intro fits)
        rw [shows, denoted_of_isWhole whole, nothing, shown_of_zero (nothing ▸ nearest),
          Nat.cast_zero]
      · obtain rfl := Option.some.inj (nearest.symm.trans other_nearest)
        rw [shows, denoted_of_isWhole whole, shortest]

end JsonValue

namespace SettingsStore

open Json JsonValue

variable {store : SettingsStore} {tree after : FileTree} {state : EnhancementState}
  {text key : String} {place : Place} {literal : NumberText}

/-! ## A save -/

theorem readDocument_of_saved (saved : store.save tree state = (after, .ok ()))
    (held : tree.readText store.path = .ok text) :
    ∃ members, parseMembers? text = some members ∧
      store.readDocument tree = .ok (some members) := by
  cases readable : store.readDocument tree with
  | error error => simp [save, readable] at saved
  | ok document =>
      rw [readDocument, held] at readable
      dsimp only at readable
      split at readable
      · next members parsed =>
          cases readable
          exact ⟨members, parsed, rfl⟩
      · cases readable

theorem at?_withState (foreign : key ≠ stateKey) (state : EnhancementState)
    (members : List (String × JsonValue)) (place : Place) :
    (object (withState state members)).at? (.member key :: place) =
      (object members).at? (.member key :: place) := by
  rw [at?, at?, withState, lookup_putMember_of_ne foreign]

/-- After a save that succeeds there is a literal at the place of every whole number of another
component.  It denotes the same integer if that has 64 bits, and else just if it is the shortest
decimal of the double nearest to it. -/
theorem rewritten_of_save (saved : store.save tree state = (after, .ok ()))
    (held : tree.readText store.path = .ok text) (foreign : key ≠ stateKey)
    (there : literalIn? text (.member key :: place) = some literal) (whole : IsWhole literal) :
    ∃ later found, after.readText store.path = .ok later ∧
      literalIn? later (.member key :: place) = some found ∧ Rewritten literal found := by
  obtain ⟨members, parsed, readable⟩ := readDocument_of_saved saved held
  have value_parsed : parse? text = some (object members) := by
    rw [parseMembers?] at parsed
    split at parsed
    · next value_parsed =>
        cases parsed
        exact value_parsed
    · cases parsed
  have writable := writable_withState (writable_of_parseMembers? parsed) state
  obtain ⟨value, read, value_there⟩ := at?_of_literalIn? value_parsed there
  obtain ⟨found, written⟩ : ∃ found, value.literal? = some found := by
    rcases isNumber_of_ofNumber? read with ⟨number, rfl⟩ | ⟨number, rfl⟩
    · exact ⟨_, rfl⟩
    · exact ⟨_, rfl⟩
  refine ⟨_, found, readText_eq_of_read (read_of_save readable saved), ?_,
    rewritten_of_ofNumber? whole read written⟩
  rw [Option.getD_some, documentText, literalIn?_render writable, at?_withState foreign,
    value_there, Option.bind_some, written]

/-! ## One more than the integers of 64 bits -/

/-- A document of another component with a small integer and a great one. -/
def greatText : String := "\x7b\"other\": [7, 18446744073709551617]\x7d"

/-- Files with this document. -/
def greatFiles : FileTree :=
  (FileTree.empty ["work"]).put ["work", "s.json"] (.file (Utf8.encode greatText))

/-- The text after a save. -/
def greatTextSaved : String :=
  "\x7b\n  \"avajeTypeQueryEnhancement\": \x7b\n    \"enabled\": true\n  \x7d,\n" ++
    "  \"other\": [\n    7,\n    1.8446744073709552e+19\n  ]\n\x7d"

/-- Where the great integer stands. -/
def greatPlace : Place := [.member "other", .item 1]

/-- The great integer. -/
def greatLiteral : NumberText := ⟨false, "18446744073709551617".toList, none, none⟩

/-- What is written for it. -/
def greatLiteralSaved : NumberText :=
  ⟨false, ['1'], some "8446744073709552".toList, some (false, ['1', '9'])⟩

theorem readText_greatFiles : greatFiles.readText sharedStore.path = .ok greatText := by
  decide +kernel

theorem save_greatFiles : (sharedStore.save greatFiles ⟨true⟩).2 = .ok () := by
  decide +kernel

theorem literalIn?_greatText : literalIn? greatText greatPlace = some greatLiteral := by
  decide +kernel

/-- The great integer after a save. -/
theorem rewritten_greatLiteral :
    ∃ later found, (sharedStore.save greatFiles ⟨true⟩).1.readText sharedStore.path = .ok later ∧
      literalIn? later greatPlace = some found ∧ Rewritten greatLiteral found :=
  rewritten_of_save (Prod.snd_eq_iff.mp save_greatFiles) readText_greatFiles (by decide)
    literalIn?_greatText ⟨rfl, rfl⟩

/-- The great integer is another one after a save. -/
theorem denoted_saved_ne :
    greatFiles.readText sharedStore.path = .ok greatText ∧
      (sharedStore.save greatFiles ⟨true⟩).2 = .ok () ∧
      (sharedStore.save greatFiles ⟨true⟩).1.readText sharedStore.path = .ok greatTextSaved ∧
      literalIn? greatText greatPlace = some greatLiteral ∧
      literalIn? greatTextSaved greatPlace = some greatLiteralSaved ∧
      denoted greatLiteral = 18446744073709551617 ∧
      denoted greatLiteralSaved = 18446744073709552000 := by
  refine ⟨readText_greatFiles, save_greatFiles, by decide +kernel, literalIn?_greatText,
    by decide +kernel, ?_, ?_⟩
  · decide +kernel
  · decide +kernel

end SettingsStore
end ClassEnhancement
