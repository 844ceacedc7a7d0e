import ClassEnhancement.Json.Render
import Mathlib.Tactic.SplitIfs

/-!
# Tokens of written text

What is written for punctuation, words, strings and numbers is read as one token each, whatever
stands after it; only a number has to be followed by something that is no part of a number.
-/

namespace ClassEnhancement
namespace Json

/-- A text has these tokens, however many more would be accepted. -/
def Lexes (text : List Char) (tokens : List Token) : Prop :=
  ∀ bound, text.length ≤ bound → tokensWithin bound text = some tokens

theorem Lexes.tokens_eq {text : String} {found : List Token}
    (lexes : Lexes text.toList found) : tokens text = some found :=
  lexes _ (Nat.le_refl _)

theorem lexes_nil : Lexes [] [] := by
  intro bound _
  cases bound <;> rfl

/-- White space before a text does not count. -/
theorem Lexes.space {c : Char} {text : List Char} {tokens : List Token}
    (lexes : Lexes text tokens) (space : isSpace c = true) : Lexes (c :: text) tokens := by
  intro bound fits
  cases bound with
  | zero => cases fits
  | succ bound =>
      have read := lexes (bound + 1) (Nat.le_of_succ_le fits)
      rw [tokensWithin] at read ⊢
      rwa [List.dropWhile_cons_of_pos space]

theorem Lexes.spaces {blank text : List Char} {tokens : List Token} (lexes : Lexes text tokens)
    (space : ∀ c ∈ blank, isSpace c = true) : Lexes (blank ++ text) tokens := by
  induction blank with
  | nil => exact lexes
  | cons c blank hypothesis =>
      have first := space c List.mem_cons_self
      have others : ∀ c ∈ blank, isSpace c = true := fun c member =>
        space c (List.mem_cons_of_mem _ member)
      exact (hypothesis others).space first

/-- A token before a text comes first. -/
theorem Lexes.token {c : Char} {rest after : List Char} {token : Token} {tokens : List Token}
    (lexes : Lexes after tokens) (visible : isSpace c = false)
    (next : nextToken (c :: rest) = some (token, after)) (shorter : after.length ≤ rest.length) :
    Lexes (c :: rest) (token :: tokens) := by
  intro bound fits
  cases bound with
  | zero => cases fits
  | succ bound =>
      have read := lexes bound (Nat.le_trans shorter (Nat.le_of_succ_le_succ fits))
      rw [tokensWithin, List.dropWhile_cons_of_neg (by simp [visible])]
      simp [next, read]

theorem Lexes.mark {c : Char} {text : List Char} {token : Token} {tokens : List Token}
    (lexes : Lexes text tokens) (visible : isSpace c = false)
    (next : ∀ rest, nextToken (c :: rest) = some (token, rest)) :
    Lexes (c :: text) (token :: tokens) :=
  lexes.token visible (next text) (Nat.le_refl _)

theorem Lexes.null {text : List Char} {tokens : List Token} (lexes : Lexes text tokens) :
    Lexes ("null".toList ++ text) (.null :: tokens) :=
  lexes.token rfl rfl (by simp; omega)

theorem Lexes.bool {text : List Char} {tokens : List Token} (lexes : Lexes text tokens)
    (value : Bool) (level : Nat) :
    Lexes ((JsonValue.bool value).renderAt level ++ text) (.bool value :: tokens) := by
  cases value with
  | false => exact lexes.token rfl rfl (by simp; omega)
  | true => exact lexes.token rfl rfl (by simp; omega)

/-! ## Strings -/

/-- Units with a character before them. -/
abbrev withChar (c : Char) (read : List Unit16 × List Char) : List Unit16 × List Char :=
  (.char c :: read.1, read.2)

theorem stringUnits_short {letter value : Char} (named : shortEscape? letter = some value)
    (text : List Char) :
    stringUnits ('\\' :: letter :: text) = (stringUnits text).map (withChar value) := by
  have plain : letter ≠ 'u' := by
    rintro rfl
    cases named
  rw [stringUnits, named]
  · cases stringUnits text <;> rfl
  · simp [plain]

theorem hexCode?_control :
    ∀ code < 0x20, hexCode? '0' '0' (code / 16).digitChar (code % 16).digitChar = some code := by
  decide

theorem stringUnits_control {c : Char} (control : c.toNat < 0x20) (text : List Char) :
    stringUnits ('\\' :: 'u' :: '0' :: '0' :: (c.toNat / 16).digitChar ::
      (c.toNat % 16).digitChar :: text) = (stringUnits text).map (withChar c) := by
  have single : Unit16.ofCode c.toNat = .char c := by
    have low : ¬ 0xd800 ≤ c.toNat ∧ ¬ 0xdc00 ≤ c.toNat := by omega
    simp [Unit16.ofCode, low, Char.ofNat_toNat]
  rw [stringUnits, hexCode?_control _ control]
  cases stringUnits text <;> simp [single, withChar]

theorem stringUnits_plain {c : Char} (quote : c ≠ '"') (backslash : c ≠ '\\')
    (control : ¬ c.toNat < 0x20) (text : List Char) :
    stringUnits (c :: text) = (stringUnits text).map (withChar c) := by
  rw [stringUnits]
  · simp [control, backslash]
  · simp [quote]
  · simp [backslash]
  · simp [backslash]

/-- A written character is read as itself. -/
theorem stringUnits_escapeChar (c : Char) (text : List Char) :
    stringUnits (JsonValue.escapeChar c ++ text) = (stringUnits text).map (withChar c) := by
  unfold JsonValue.escapeChar
  split_ifs with quote backslash backspace feed line carriage tab control
  · exact stringUnits_short (by rw [quote]; rfl) text
  · exact stringUnits_short (by rw [backslash]; rfl) text
  · exact stringUnits_short (by rw [backspace]; rfl) text
  · exact stringUnits_short (by rw [feed]; rfl) text
  · exact stringUnits_short (by rw [line]; rfl) text
  · exact stringUnits_short (by rw [carriage]; rfl) text
  · exact stringUnits_short (by rw [tab]; rfl) text
  · exact stringUnits_control control text
  · exact stringUnits_plain quote backslash control text

theorem stringUnits_escaped (text rest : List Char) :
    stringUnits (text.flatMap JsonValue.escapeChar ++ '"' :: rest) =
      some (text.map .char, rest) := by
  induction text with
  | nil => rfl
  | cons c text hypothesis =>
      rw [List.flatMap_cons, List.append_assoc, stringUnits_escapeChar, hypothesis]
      rfl

theorem joinUnits_chars (text : List Char) : joinUnits (text.map .char) = some text := by
  induction text with
  | nil => rfl
  | cons c text hypothesis => simp [joinUnits, hypothesis]

/-- A written text is one string token. -/
theorem Lexes.text {text : List Char} {tokens : List Token} (lexes : Lexes text tokens)
    (written : String) :
    Lexes (JsonValue.renderText written ++ text) (.string (some written) :: tokens) := by
  have read : nextToken ('"' :: (written.toList.flatMap JsonValue.escapeChar ++ '"' :: text)) =
      some (.string (some written), text) := by
    simp [nextToken, stringUnits_escaped, joinUnits_chars]
  have spelled : JsonValue.renderText written ++ text =
      '"' :: (written.toList.flatMap JsonValue.escapeChar ++ '"' :: text) := by
    simp [JsonValue.renderText]
  rw [spelled]
  exact lexes.token rfl read (by simp; omega)

/-! ## Numbers -/

/-- Digits, at least one. -/
def IsDigits (digits : List Char) : Prop := digits ≠ [] ∧ ∀ c ∈ digits, c.isDigit = true

/-- A text that does not go on with a digit. -/
def Stops (text : List Char) : Prop := ∀ c ∈ text.head?, c.isDigit = false

/-- A text that does not go on with a number. -/
def Ends (text : List Char) : Prop :=
  ∀ c ∈ text.head?, c.isDigit = false ∧ c ≠ '.' ∧ c ≠ 'e' ∧ c ≠ 'E'

theorem ends_nil : Ends [] := by
  intro c first
  cases first

theorem ends_cons {c : Char} (apart : c.isDigit = false ∧ c ≠ '.' ∧ c ≠ 'e' ∧ c ≠ 'E')
    (text : List Char) : Ends (c :: text) := by
  intro first here
  cases here
  exact apart

theorem stops_cons {c : Char} (apart : c.isDigit = false) (text : List Char) :
    Stops (c :: text) := by
  intro first here
  cases here
  exact apart

theorem Ends.stops {text : List Char} (ends : Ends text) : Stops text :=
  fun c first => (ends c first).1

variable {digits text : List Char}

theorem takeDigits_append (all : ∀ c ∈ digits, c.isDigit = true) (stops : Stops text) :
    takeDigits (digits ++ text) = (digits, text) := by
  have stopped : text.takeWhile Char.isDigit = [] ∧ text.dropWhile Char.isDigit = text := by
    cases text with
    | nil => exact ⟨rfl, rfl⟩
    | cons c text => simp [stops c rfl]
  rw [takeDigits, List.takeWhile_append_of_pos all, List.dropWhile_append_of_pos all, stopped.1,
    stopped.2, List.append_nil]

theorem IsDigits.someDigits_append (some_digit : IsDigits digits) (stops : Stops text) :
    someDigits (digits ++ text) = some (digits, text) := by
  simp [someDigits, takeDigits_append some_digit.2 stops, some_digit.1]

theorem IsDigits.wholeDigits_append (some_digit : IsDigits digits)
    (alone : digits.head? = some '0' → digits = ['0']) (stops : Stops text) :
    wholeDigits (digits ++ text) = some (digits, text) := by
  rw [← some_digit.someDigits_append stops]
  cases digits with
  | nil => exact absurd rfl some_digit.1
  | cons digit rest =>
      by_cases zero : digit = '0'
      · subst zero
        obtain ⟨-, rfl⟩ := List.cons.inj (alone rfl)
        exact (some_digit.someDigits_append stops).symm
      · rw [List.cons_append, wholeDigits]
        simp [zero]

/-- How digits after a point are spelled, where there are any. -/
def fractionChars : Option (List Char) → List Char
  | none => []
  | some digits => '.' :: digits

/-- How an exponent is spelled, where there is one. -/
def exponentChars : Option (Bool × List Char) → List Char
  | none => []
  | some (negative, digits) => 'e' :: (if negative then '-' else '+') :: digits

theorem fractionDigits_append {fraction : Option (List Char)}
    (some_digit : ∀ digits ∈ fraction, IsDigits digits) (stops : Stops text)
    (pointless : text.head? ≠ some '.') :
    fractionDigits (fractionChars fraction ++ text) = some (fraction, text) := by
  cases fraction with
  | none =>
      cases text with
      | nil => rfl
      | cons c text =>
          have other : c ≠ '.' := by simpa using pointless
          rw [fractionChars, List.nil_append, fractionDigits]
          simp [other]
  | some digits =>
      rw [fractionChars, List.cons_append, fractionDigits,
        (some_digit digits rfl).someDigits_append stops]
      rfl

theorem exponentDigits_append {exponent : Option (Bool × List Char)}
    (some_digit : ∀ signed ∈ exponent, IsDigits signed.2) (ends : Ends text) :
    exponentDigits (exponentChars exponent ++ text) = some (exponent, text) := by
  cases exponent with
  | none =>
      cases text with
      | nil => rfl
      | cons c text =>
          obtain ⟨-, -, small, capital⟩ := ends c rfl
          rw [exponentChars, List.nil_append, exponentDigits]
          · simp [small]
          · simp [capital]
  | some signed =>
      obtain ⟨negative, digits⟩ := signed
      have read := (some_digit _ rfl).someDigits_append ends.stops
      cases negative with
      | false => simp [exponentChars, exponentDigits, signedDigits, read]
      | true => simp [exponentChars, exponentDigits, signedDigits, read]

theorem stops_exponentChars (exponent : Option (Bool × List Char)) (ends : Ends text) :
    Stops (exponentChars exponent ++ text) ∧ (exponentChars exponent ++ text).head? ≠ some '.' := by
  cases exponent with
  | none =>
      refine ⟨ends.stops, fun point => ?_⟩
      exact (ends '.' point).2.1 rfl
  | some signed => exact ⟨stops_cons (by decide) _, by simp [exponentChars]⟩

theorem stops_fractionChars (fraction : Option (List Char)) (stops : Stops text) :
    Stops (fractionChars fraction ++ text) := by
  cases fraction with
  | none => exact stops
  | some digits => exact stops_cons (by decide) _

/-- How a number is spelled. -/
def NumberText.chars (spelling : NumberText) : List Char :=
  (if spelling.negative then ['-'] else []) ++
    (spelling.whole ++ (fractionChars spelling.fraction ++ exponentChars spelling.exponent))

/-- A number whose parts are digits, with no needless zero in front. -/
structure IsSpelled (spelling : NumberText) : Prop where
  whole : IsDigits spelling.whole
  alone : spelling.whole.head? = some '0' → spelling.whole = ['0']
  fraction : ∀ digits ∈ spelling.fraction, IsDigits digits
  exponent : ∀ signed ∈ spelling.exponent, IsDigits signed.2

variable {spelling : NumberText}

theorem IsSpelled.unsignedNumber_append (spelled : IsSpelled spelling) (ends : Ends text) :
    unsignedNumber spelling.negative (spelling.whole ++ (fractionChars spelling.fraction ++
      (exponentChars spelling.exponent ++ text))) = some (spelling, text) := by
  obtain ⟨stops, pointless⟩ := stops_exponentChars spelling.exponent ends
  have whole := spelled.whole.wholeDigits_append spelled.alone
    (stops_fractionChars spelling.fraction stops)
  simp [unsignedNumber, whole, fractionDigits_append spelled.fraction stops pointless,
    exponentDigits_append spelled.exponent ends]

theorem nextToken_number {c : Char} {rest after : List Char}
    (starts : c = '-' ∨ c.isDigit = true) (read : number (c :: rest) = some (spelling, after)) :
    nextToken (c :: rest) = some (.number spelling, after) := by
  rw [nextToken]
  · simp [read]
  -- No other kind of token starts as a number does.
  all_goals
    intro other same
    obtain rfl := (List.cons.inj same).1
    exact absurd starts (by decide)

theorem isSpace_of_isDigit {c : Char} (digit : c.isDigit = true) : isSpace c = false := by
  cases space : isSpace c with
  | false => rfl
  | true =>
      simp only [isSpace, Bool.or_eq_true, beq_iff_eq] at space
      rcases space with ((rfl | rfl) | rfl) | rfl <;> cases digit

/-- A spelled number is one token. -/
theorem Lexes.number {tokens : List Token} (lexes : Lexes text tokens) (ends : Ends text)
    (spelled : IsSpelled spelling) :
    Lexes (spelling.chars ++ text) (.number spelling :: tokens) := by
  have read := spelled.unsignedNumber_append ends
  rw [NumberText.chars, List.append_assoc, List.append_assoc, List.append_assoc]
  cases sign : spelling.negative with
  | true =>
      rw [sign] at read
      exact lexes.token rfl (nextToken_number (.inl rfl) read) (by simp; omega)
  | false =>
      rw [sign] at read
      have some_digit := spelled.whole
      cases whole : spelling.whole with
      | nil => exact absurd whole some_digit.1
      | cons digit rest =>
          rw [whole] at read some_digit
          have starts := some_digit.2 digit List.mem_cons_self
          have unsigned : digit ≠ '-' := by
            rintro rfl
            cases starts
          have found : Json.number (digit :: (rest ++ (fractionChars spelling.fraction ++
              (exponentChars spelling.exponent ++ text)))) = some (spelling, text) := by
            rw [Json.number]
            · exact read
            · simp [unsigned]
          exact lexes.token (isSpace_of_isDigit starts) (nextToken_number (.inr starts) found)
            (by simp; omega)

/-! ## Integers -/

theorem head_toDigits_ne_zero {n : Nat} (positive : 0 < n) :
    (Nat.toDigits 10 n).head? ≠ some '0' := by
  induction n using Nat.strongRecOn with
  | ind n hypothesis =>
      by_cases small : n < 10
      · have digit : ∀ n < 10, 0 < n → n.digitChar ≠ '0' := by decide
        simpa [Nat.toDigits_of_lt_base small] using digit n small positive
      · rw [Nat.toDigits_of_base_le (by decide) (Nat.le_of_not_lt small), List.head?_append]
        have front := hypothesis (n / 10) (by omega) (by omega)
        cases digits : Nat.toDigits 10 (n / 10) with
        | nil => exact absurd digits Nat.toDigits_ne_nil
        | cons digit rest => simpa [digits] using front

theorem isDigits_toDigits (n : Nat) : IsDigits (Nat.toDigits 10 n) :=
  ⟨Nat.toDigits_ne_nil, fun _ member => Nat.isDigit_of_mem_toDigits (by decide) (by decide) member⟩

/-- The spelling of an integer. -/
def integerText (value : Int) : NumberText :=
  ⟨decide (value < 0), Nat.toDigits 10 value.natAbs, none, none⟩

theorem isSpelled_integerText (value : Int) : IsSpelled (integerText value) where
  whole := isDigits_toDigits _
  alone zero := by
    rcases Nat.eq_zero_or_pos value.natAbs with none | positive
    · rw [integerText, none]
      rfl
    · exact absurd zero (head_toDigits_ne_zero positive)
  fraction := nofun
  exponent := nofun

theorem chars_integerText (value : Int) : (integerText value).chars = (toString value).toList := by
  cases value with
  | ofNat n => simp [NumberText.chars, integerText, fractionChars, exponentChars, toString, Int.repr]
  | negSucc n =>
      simp [NumberText.chars, integerText, fractionChars, exponentChars, toString, Int.repr,
        Int.negSucc_lt_zero]

/-- A written integer is one number token. -/
theorem Lexes.integer {tokens : List Token} (lexes : Lexes text tokens) (ends : Ends text)
    (value : Int) :
    Lexes ((toString value).toList ++ text) (.number (integerText value) :: tokens) :=
  chars_integerText value ▸ lexes.number ends (isSpelled_integerText value)

end Json
end ClassEnhancement
