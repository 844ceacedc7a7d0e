import ClassEnhancement.Proofs.Decimal.Shortest
import ClassEnhancement.Proofs.Json.Lexing

/-!
# Written doubles

A double is written as a number whose digits are those of its shortest decimal, whichever layout
it has, and that number is read as the double, since a decimal is read as the nearest one.
-/

namespace ClassEnhancement
namespace JsonValue

open Json Binary64

/-! ## Numbers of digits -/

theorem foldl_natOfDigits (start : Nat) (digits : List Char) :
    digits.foldl (fun value c => 10 * value + (c.toNat - '0'.toNat)) start =
      start * 10 ^ digits.length + natOfDigits digits := by
  induction digits generalizing start with
  | nil => simp [natOfDigits]
  | cons c rest hypothesis =>
      rw [natOfDigits, List.foldl_cons, List.foldl_cons, hypothesis, hypothesis (10 * 0 + _),
        List.length_cons, Nat.pow_succ]
      ring

theorem natOfDigits_append (front back : List Char) :
    natOfDigits (front ++ back) = natOfDigits front * 10 ^ back.length + natOfDigits back := by
  rw [natOfDigits, List.foldl_append, foldl_natOfDigits]
  rfl

@[simp]
theorem natOfDigits_zeros (count : Nat) : natOfDigits (List.replicate count '0') = 0 := by
  induction count with
  | zero => rfl
  | succ count hypothesis =>
      rw [List.replicate_succ', natOfDigits_append, hypothesis]
      rfl

@[simp]
theorem natOfDigits_toDigits (n : Nat) : natOfDigits (Nat.toDigits 10 n) = n :=
  Nat.ofDigitChars_ten_toDigits

/-! ## Spellings -/

/-- The number that a spelling stands for, its sign apart. -/
def spelledNumber (spelling : NumberText) : ℚ :=
  natOfDigits (spelling.whole ++ spelling.fraction.getD []) *
    10 ^ (powerOf spelling.exponent - (spelling.fraction.getD []).length)

/-- How digits with the power of ten of the last one are laid out. -/
def layOut (negative : Bool) (digits : List Char) (power : Int) : NumberText :=
  let first := power + digits.length - 1
  if numberLayout.leastPower ≤ first ∧ first ≤ numberLayout.greatestPower then
    if first < 0 then
      ⟨negative, ['0'], some (List.replicate (-first - 1).toNat '0' ++ digits), none⟩
    else if 0 ≤ power then
      ⟨negative, digits ++ List.replicate power.toNat '0', some ['0'], none⟩
    else ⟨negative, digits.take (first.toNat + 1), some (digits.drop (first.toNat + 1)), none⟩
  else
    ⟨negative, digits.take 1, if digits.drop 1 = [] then none else some (digits.drop 1),
      some (decide (first < 0), Nat.toDigits 10 first.natAbs)⟩

/-- The spelling of a double. -/
def doubleText (value : Binary64) : NumberText :=
  if value.mantissa = 0 then ⟨value.negative, ['0'], some ['0'], none⟩
  else layOut value.negative (Nat.toDigits 10 value.shortest.digits) value.shortest.power

variable {negative : Bool} {digits : List Char} {power : Int} {value : Binary64}

theorem isDigits_zero : IsDigits ['0'] := by
  refine ⟨List.cons_ne_nil _ _, fun c member => ?_⟩
  obtain rfl := List.mem_singleton.mp member
  rfl

theorem isDigits_append {front back : List Char} (front_digits : ∀ c ∈ front, c.isDigit = true)
    (back_digits : ∀ c ∈ back, c.isDigit = true) (some_digit : front ++ back ≠ []) :
    IsDigits (front ++ back) := by
  refine ⟨some_digit, fun c member => ?_⟩
  rcases List.mem_append.mp member with before | after
  · exact front_digits c before
  · exact back_digits c after

theorem isDigit_of_mem_zeros {count : Nat} : ∀ c ∈ List.replicate count '0', c.isDigit = true := by
  intro c member
  rw [List.eq_of_mem_replicate member]
  rfl

theorem isSpelled_layOut (negative : Bool) (some_digit : IsDigits digits)
    (leading : digits.head? ≠ some '0') (power : Int) : IsSpelled (layOut negative digits power) := by
  obtain ⟨digit, rest, rfl⟩ := List.exists_cons_of_ne_nil some_digit.1
  have nonzero : digit ≠ '0' := by simpa using leading
  have taken : ∀ count, IsDigits ((digit :: rest).take (count + 1)) := fun count =>
    ⟨by simp, fun c member => some_digit.2 c (List.mem_of_mem_take member)⟩
  have dropped : ∀ count, (digit :: rest).drop count ≠ [] → IsDigits ((digit :: rest).drop count) :=
    fun count more => ⟨more, fun c member => some_digit.2 c (List.mem_of_mem_drop member)⟩
  rw [layOut]
  generalize spread : power + (digit :: rest).length - 1 = first
  split_ifs with positional small whole single
  · have padded := isDigits_append isDigit_of_mem_zeros some_digit.2
      (show List.replicate (-first - 1).toNat '0' ++ digit :: rest ≠ [] by simp)
    exact ⟨isDigits_zero, fun _ => rfl, by simpa using padded, nofun⟩
  · have padded := isDigits_append some_digit.2 isDigit_of_mem_zeros
      (show digit :: rest ++ List.replicate power.toNat '0' ≠ [] by simp)
    exact ⟨padded, by simp [nonzero], by simpa using isDigits_zero, nofun⟩
  · have more : (digit :: rest).drop (first.toNat + 1) ≠ [] := by
      rw [ne_eq, List.drop_eq_nil_iff]
      omega
    exact ⟨taken _, by simp [nonzero], by simpa using dropped _ more, nofun⟩
  · exact ⟨taken 0, by simp [nonzero], nofun, by simpa using isDigits_toDigits _⟩
  · exact ⟨taken 0, by simp [nonzero], by simpa using dropped 1 single,
      by simpa using isDigits_toDigits _⟩

theorem isSpelled_doubleText (canonical : value.IsCanonical) : IsSpelled (doubleText value) := by
  rw [doubleText]
  split
  · exact ⟨isDigits_zero, fun _ => rfl, by simpa using isDigits_zero, nofun⟩
  · next nonzero =>
      have positive := digits_shortest_pos canonical (Nat.pos_of_ne_zero nonzero)
      exact isSpelled_layOut _ (isDigits_toDigits _) (head_toDigits_ne_zero positive) _

/-! ## Texts -/

theorem negative_layOut (negative : Bool) (digits : List Char) (power : Int) :
    (layOut negative digits power).negative = negative := by
  rw [layOut]
  split_ifs <;> rfl

theorem chars_layOut (negative : Bool) (decimal : Decimal) :
    (layOut negative (Nat.toDigits 10 decimal.digits) decimal.power).chars =
      (if negative then ['-'] else []) ++ (decimal.render numberLayout).toList := by
  rw [NumberText.chars, negative_layOut, Decimal.render, String.toList_ofList, layOut]
  congr 1
  obtain ⟨digit, rest, spelled⟩ :=
    List.exists_cons_of_ne_nil (Nat.toDigits_ne_nil (b := 10) (n := decimal.digits))
  rw [spelled]
  generalize decimal.power + (digit :: rest).length - 1 = first
  by_cases positional :
      numberLayout.leastPower ≤ first ∧ first ≤ numberLayout.greatestPower
  · simp only [if_pos positional]
    by_cases small : first < 0
    · simp [small, fractionChars, exponentChars]
    by_cases whole : 0 ≤ decimal.power
    · simp [small, whole, fractionChars, exponentChars]
    · simp [small, whole, fractionChars, exponentChars]
  · simp only [if_neg positional]
    cases rest with
    | nil => simp [fractionChars, exponentChars]
    | cons next rest => simp [fractionChars, exponentChars]

theorem chars_doubleText (value : Binary64) :
    (doubleText value).chars = (value.render numberLayout).toList := by
  rw [doubleText, Binary64.render]
  split
  · cases sign : value.negative <;> rfl
  · rw [chars_layOut]
    cases sign : value.negative <;> simp

/-- A written double is one number token. -/
theorem lexes_double {text : List Char} {tokens : List Token} (lexes : Lexes text tokens)
    (ends : Ends text) (canonical : value.IsCanonical) (level : Nat) :
    Lexes (renderAt level (double value) ++ text) (.number (doubleText value) :: tokens) := by
  have read := lexes.number ends (isSpelled_doubleText canonical)
  rwa [chars_doubleText] at read

/-! ## Values -/

theorem powerOf_toDigits (power : Int) :
    powerOf (some (decide (power < 0), Nat.toDigits 10 power.natAbs)) = power := by
  by_cases negative : power < 0
  · simp only [negative, decide_true, powerOf, natOfDigits_toDigits]
    omega
  · simp only [negative, decide_false, powerOf, natOfDigits_toDigits]
    omega

theorem spelledNumber_layOut (some_digit : IsDigits digits) :
    spelledNumber (layOut negative digits power) = natOfDigits digits * 10 ^ power := by
  have length_pos := List.length_pos_iff.mpr some_digit.1
  rw [layOut]
  generalize spread : power + digits.length - 1 = first
  split_ifs with positional small whole single
  · have padded : natOfDigits ('0' :: (List.replicate (-first - 1).toNat '0' ++ digits)) =
        natOfDigits digits := by
      rw [← List.cons_append, ← List.replicate_succ, natOfDigits_append, natOfDigits_zeros]
      omega
    simp only [spelledNumber, Option.getD_some, List.singleton_append, padded, powerOf]
    congr 2
    simp
    omega
  · obtain ⟨count, rfl⟩ := Int.eq_ofNat_of_zero_le whole
    simp only [spelledNumber, Option.getD_some, natOfDigits_append, natOfDigits_zeros, powerOf,
      List.length_replicate, Int.toNat_natCast]
    rw [show natOfDigits ['0'] = 0 from rfl]
    norm_num
    ring
  · simp only [spelledNumber, Option.getD_some, List.take_append_drop, powerOf]
    congr 2
    simp
    omega
  · have all : digits.take 1 = digits := by
      have joined := List.take_append_drop 1 digits
      rwa [single, List.append_nil] at joined
    have one : digits.length ≤ 1 := List.drop_eq_nil_iff.mp single
    simp only [spelledNumber, Option.getD_none, List.append_nil, all, powerOf_toDigits]
    congr 2
    simp
    omega
  · simp only [spelledNumber, Option.getD_some, List.take_append_drop, powerOf_toDigits]
    congr 2
    simp
    omega

/-- A number with a point or an exponent is a double. -/
theorem ofNumber?_of_parts {spelling : NumberText}
    (parts : spelling.fraction ≠ none ∨ spelling.exponent ≠ none) :
    ofNumber? spelling = ofDouble? spelling.negative
      (spelling.whole ++ spelling.fraction.getD [])
      (powerOf spelling.exponent - (spelling.fraction.getD []).length) := by
  rw [ofNumber?]
  split
  · next whole unscaled => simp [whole, unscaled] at parts
  · rfl

theorem parts_layOut (negative : Bool) (digits : List Char) (power : Int) :
    (layOut negative digits power).fraction ≠ none ∨
      (layOut negative digits power).exponent ≠ none := by
  rw [layOut]
  split_ifs <;> simp

/-- The spelling of a double means the double. -/
theorem ofNumber?_doubleText (canonical : value.IsCanonical) :
    ofNumber? (doubleText value) = some (double value) := by
  rw [doubleText]
  split
  · next none =>
      have least := canonical.full.resolve_left (by rw [none]; decide)
      obtain ⟨negative, mantissa, exponent⟩ := value
      cases none
      cases least
      rfl
  · next nonzero =>
      have positive := Nat.pos_of_ne_zero nonzero
      have covers := covers_shortest canonical positive
      rw [ofNumber?_of_parts (parts_layOut _ _ _), negative_layOut, ofDouble?]
      have same : spelledNumber (layOut value.negative _ value.shortest.power) = _ :=
        spelledNumber_layOut (isDigits_toDigits value.shortest.digits)
      rw [natOfDigits_toDigits, ← Decimal.number] at same
      rw [← same] at covers
      rw [ofDecimal?_of_covers canonical positive covers]
      rfl

end JsonValue
end ClassEnhancement
