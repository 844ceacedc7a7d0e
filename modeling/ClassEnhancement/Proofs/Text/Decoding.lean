import ClassEnhancement.Text.Utf8

/-!
# Decoding what was encoded

The octets of a text are UTF-8, and decoding them gives the text back.
-/

namespace ClassEnhancement
namespace Utf8

/-- A code of a character is below the halves of surrogate pairs, or above them. -/
theorem toNat_cases (c : Char) :
    c.toNat < 0xd800 ∨ (0xdfff < c.toNat ∧ c.toNat < 0x110000) := c.valid

theorem toNat_ofNat_of_lt {octet : Nat} (small : octet < 256) :
    (UInt8.ofNat octet).toNat = octet := by
  rw [UInt8.toNat_ofNat']
  exact Nat.mod_eq_of_lt small

/-! ## Sequences of each length -/

section Sequences

variable {first second third fourth : UInt8}

theorem head_one (lead : first.toNat < 0x80) (rest : Bytes) :
    head first rest = .char (Char.ofNat first.toNat) 0 := by
  simp [head, lead]

theorem head_two (lead : 0xc2 ≤ first.toNat) (short : first.toNat < 0xe0)
    (admitted : isSecond first.toNat second.toNat = true) (rest : Bytes) :
    head first (second :: rest) =
      .char (Char.ofNat ((first.toNat - 0xc0) * 64 + (second.toNat - 0x80))) 1 := by
  have multiple : ¬ first.toNat < 0x80 := by omega
  have possible : ¬ first.toNat < 0xc2 ∧ ¬ 0xf4 < first.toNat := by omega
  simp [head, multiple, possible, admitted, short]

theorem head_three (lead : 0xe0 ≤ first.toNat) (short : first.toNat < 0xf0)
    (admitted : isSecond first.toNat second.toNat = true) (tail : isTail third.toNat = true)
    (rest : Bytes) :
    head first (second :: third :: rest) =
      .char (Char.ofNat ((first.toNat - 0xe0) * 4096 + (second.toNat - 0x80) * 64 +
        (third.toNat - 0x80))) 2 := by
  have multiple : ¬ first.toNat < 0x80 := by omega
  have possible : ¬ first.toNat < 0xc2 ∧ ¬ 0xf4 < first.toNat := by omega
  have long : ¬ first.toNat < 0xe0 := by omega
  simp [head, multiple, possible, admitted, tail, long, short]

theorem head_four (lead : 0xf0 ≤ first.toNat) (possible : first.toNat ≤ 0xf4)
    (admitted : isSecond first.toNat second.toNat = true) (tail : isTail third.toNat = true)
    (last : isTail fourth.toNat = true) (rest : Bytes) :
    head first (second :: third :: fourth :: rest) =
      .char (Char.ofNat ((first.toNat - 0xf0) * 262144 + (second.toNat - 0x80) * 4096 +
        (third.toNat - 0x80) * 64 + (fourth.toNat - 0x80))) 3 := by
  have multiple : ¬ first.toNat < 0x80 := by omega
  have possible : ¬ first.toNat < 0xc2 ∧ ¬ 0xf4 < first.toNat := by omega
  have long : ¬ first.toNat < 0xe0 ∧ ¬ first.toNat < 0xf0 := by omega
  simp [head, multiple, possible, admitted, tail, last, long]

end Sequences

theorem isTail_iff {octet : Nat} : isTail octet = true ↔ 0x80 ≤ octet ∧ octet ≤ 0xbf := by
  simp [isTail]

/-- Four first octets restrict the second one. -/
theorem isSecond_iff {first second : Nat} :
    isSecond first second = true ↔
      0x80 ≤ second ∧ second ≤ 0xbf ∧ (first = 0xe0 → 0xa0 ≤ second) ∧
        (first = 0xed → second ≤ 0x9f) ∧ (first = 0xf0 → 0x90 ≤ second) ∧
        (first = 0xf4 → second ≤ 0x8f) := by
  unfold isSecond secondBounds
  repeat' split
  all_goals
    simp only [Bool.and_eq_true, decide_eq_true_eq]
    omega

/-! ## Characters -/

/-- The first of some octets announces how many follow, and with them names the character. -/
def Announces (c : Char) (octets : Bytes) : Prop :=
  ∃ first more, octets = first :: more ∧ ∀ rest, head first (more ++ rest) = .char c more.length

theorem ofNat_of_eq_toNat (c : Char) {code : Nat} (same : code = c.toNat) :
    Char.ofNat code = c := by
  rw [same, Char.ofNat_toNat]

variable {c : Char}

theorem announces_one (one : c.toNat < 0x80) : Announces c (encodeChar c) := by
  have spelled : encodeChar c = [UInt8.ofNat c.toNat] := by simp [encodeChar, one]
  have lead := toNat_ofNat_of_lt (show c.toNat < 256 by omega)
  refine ⟨_, _, spelled, fun rest => ?_⟩
  rw [List.nil_append, head_one (by rw [lead]; exact one), lead, ofNat_of_eq_toNat c rfl]
  rfl

theorem announces_two (long : ¬ c.toNat < 0x80) (two : c.toNat < 0x800) :
    Announces c (encodeChar c) := by
  have spelled : encodeChar c =
      [UInt8.ofNat (0xc0 + c.toNat / 64), UInt8.ofNat (0x80 + c.toNat % 64)] := by
    simp [encodeChar, long, two]
  have lead := toNat_ofNat_of_lt (show 0xc0 + c.toNat / 64 < 256 by omega)
  have second := toNat_ofNat_of_lt (show 0x80 + c.toNat % 64 < 256 by omega)
  refine ⟨_, _, spelled, fun rest => ?_⟩
  rw [List.singleton_append, head_two (by rw [lead]; omega) (by rw [lead]; omega)
    (by rw [lead, second, isSecond_iff]; omega), lead, second, ofNat_of_eq_toNat c (by omega)]
  rfl

theorem announces_three (long : ¬ c.toNat < 0x800) (three : c.toNat < 0x10000) :
    Announces c (encodeChar c) := by
  have valid := toNat_cases c
  have multiple : ¬ c.toNat < 0x80 := by omega
  have spelled : encodeChar c =
      [UInt8.ofNat (0xe0 + c.toNat / 4096), UInt8.ofNat (0x80 + c.toNat / 64 % 64),
        UInt8.ofNat (0x80 + c.toNat % 64)] := by
    simp [encodeChar, multiple, long, three]
  have lead := toNat_ofNat_of_lt (show 0xe0 + c.toNat / 4096 < 256 by omega)
  have second := toNat_ofNat_of_lt (show 0x80 + c.toNat / 64 % 64 < 256 by omega)
  have third := toNat_ofNat_of_lt (show 0x80 + c.toNat % 64 < 256 by omega)
  refine ⟨_, _, spelled, fun rest => ?_⟩
  rw [List.cons_append, List.singleton_append, head_three (by rw [lead]; omega)
    (by rw [lead]; omega) (by rw [lead, second, isSecond_iff]; omega)
    (by rw [third, isTail_iff]; omega), lead, second, third, ofNat_of_eq_toNat c (by omega)]
  rfl

theorem announces_four (long : ¬ c.toNat < 0x10000) : Announces c (encodeChar c) := by
  have valid := toNat_cases c
  have multiple : ¬ c.toNat < 0x80 ∧ ¬ c.toNat < 0x800 := by omega
  have spelled : encodeChar c =
      [UInt8.ofNat (0xf0 + c.toNat / 262144), UInt8.ofNat (0x80 + c.toNat / 4096 % 64),
        UInt8.ofNat (0x80 + c.toNat / 64 % 64), UInt8.ofNat (0x80 + c.toNat % 64)] := by
    simp [encodeChar, multiple, long]
  have lead := toNat_ofNat_of_lt (show 0xf0 + c.toNat / 262144 < 256 by omega)
  have second := toNat_ofNat_of_lt (show 0x80 + c.toNat / 4096 % 64 < 256 by omega)
  have third := toNat_ofNat_of_lt (show 0x80 + c.toNat / 64 % 64 < 256 by omega)
  have fourth := toNat_ofNat_of_lt (show 0x80 + c.toNat % 64 < 256 by omega)
  refine ⟨_, _, spelled, fun rest => ?_⟩
  rw [List.cons_append, List.cons_append, List.singleton_append, head_four (by rw [lead]; omega)
    (by rw [lead]; omega) (by rw [lead, second, isSecond_iff]; omega)
    (by rw [third, isTail_iff]; omega) (by rw [fourth, isTail_iff]; omega), lead, second, third,
    fourth, ofNat_of_eq_toNat c (by omega)]
  rfl

theorem announces_encodeChar (c : Char) : Announces c (encodeChar c) := by
  by_cases one : c.toNat < 0x80
  · exact announces_one one
  by_cases two : c.toNat < 0x800
  · exact announces_two one two
  by_cases three : c.toNat < 0x10000
  · exact announces_three two three
  · exact announces_four three

/-! ## Texts -/

/-- Octets that belong to a character already read are passed over. -/
theorem decodeFrom_skip (index : Nat) (passed rest : Bytes) :
    decodeFrom index passed.length (passed ++ rest) =
      decodeFrom (index + passed.length) 0 rest := by
  induction passed generalizing index with
  | nil => rfl
  | cons octet passed hypothesis =>
      rw [List.cons_append, List.length_cons, decodeFrom, hypothesis]
      congr 1
      omega

theorem decodeFrom_encodeChars (index : Nat) (text : List Char) :
    decodeFrom index 0 (encodeChars text) = .ok text := by
  induction text generalizing index with
  | nil => rfl
  | cons c text hypothesis =>
      obtain ⟨first, more, octets, read⟩ := announces_encodeChar c
      rw [encodeChars_cons, octets, List.cons_append, decodeFrom, read]
      simp only [decodeFrom_skip, hypothesis]
      rfl

/-- Decoding gives back what was encoded. -/
theorem decode_encode (text : String) : decode (encode text) = .ok text := by
  rw [decode, decodeChars, encode, decodeFrom_encodeChars]
  exact congrArg Except.ok String.ofList_toList

theorem decodeLenientFrom_skip (passed rest : Bytes) :
    decodeLenientFrom passed.length (passed ++ rest) = decodeLenientFrom 0 rest := by
  induction passed with
  | nil => rfl
  | cons octet passed hypothesis => exact hypothesis

/-- Lenient decoding has nothing to replace in what was encoded. -/
theorem decodeLenient_encode (text : String) : decodeLenient (encode text) = text := by
  have decoded : ∀ chars : List Char, decodeLenientFrom 0 (encodeChars chars) = chars := by
    intro chars
    induction chars with
    | nil => rfl
    | cons c chars hypothesis =>
        obtain ⟨first, more, octets, read⟩ := announces_encodeChar c
        rw [encodeChars_cons, octets, List.cons_append, decodeLenientFrom, read]
        simp only [decodeLenientFrom_skip, hypothesis]
  rw [decodeLenient, encode, decoded, String.ofList_toList]

/-! ## Beginnings -/

/-- Where octets begin with characters, the characters begin with each other. -/
theorem encodeChars_isPrefix_iff {front text : List Char} :
    encodeChars front <+: encodeChars text ↔ front <+: text := by
  constructor
  · intro begins
    induction front generalizing text with
    | nil => exact List.nil_prefix
    | cons c front hypothesis =>
        obtain ⟨first, more, octets, read⟩ := announces_encodeChar c
        rw [encodeChars_cons, octets] at begins
        cases text with
        | nil => simp at begins
        | cons d text =>
            obtain ⟨first', more', octets', read'⟩ := announces_encodeChar d
            rw [encodeChars_cons, octets'] at begins
            obtain ⟨tail, joined⟩ := begins
            simp only [List.cons_append, List.append_assoc, List.cons.injEq] at joined
            obtain ⟨rfl, joined⟩ := joined
            -- The same octets announce both characters.
            have announced := (read _).symm.trans ((congrArg (head first) joined).trans (read' _))
            obtain ⟨rfl, width⟩ := Head.char.inj announced
            obtain ⟨-, rest⟩ := List.append_inj joined width
            exact (List.cons_prefix_cons).mpr ⟨rfl, hypothesis ⟨tail, rest⟩⟩
  · rintro ⟨tail, rfl⟩
    rw [encodeChars_append]
    exact List.prefix_append _ _

end Utf8
end ClassEnhancement
