import ClassEnhancement.Proofs.Text.Decoding

/-!
# Octets of code units

Texts of class files are written one code unit of UTF-16 after the other, each half of a surrogate
pair by itself, and the unit zero takes two octets.  For all other units these are the octets of
UTF-8, and a text with such a unit is no UTF-8 at all.
-/

namespace ClassEnhancement
namespace Utf8

/-- A half of a surrogate pair. -/
def IsHalf (unit : UInt16) : Prop := 0xd800 ≤ unit.toNat ∧ unit.toNat ≤ 0xdfff

instance (unit : UInt16) : Decidable (IsHalf unit) :=
  inferInstanceAs (Decidable (_ ∧ _))

/-- A unit that is a character by itself and takes the octets of that character. -/
def IsWhole (unit : UInt16) : Prop := unit ≠ 0 ∧ ¬ IsHalf unit

instance (unit : UInt16) : Decidable (IsWhole unit) :=
  inferInstanceAs (Decidable (_ ∧ _))

/-- Octets of a code unit. -/
def encodeUnit (unit : UInt16) : Bytes :=
  let code := unit.toNat
  if 0 < code ∧ code < 0x80 then [UInt8.ofNat code]
  else if code < 0x800 then [UInt8.ofNat (0xc0 + code / 64), UInt8.ofNat (0x80 + code % 64)]
  else
    [UInt8.ofNat (0xe0 + code / 4096), UInt8.ofNat (0x80 + code / 64 % 64),
      UInt8.ofNat (0x80 + code % 64)]

/-- Octets of code units. -/
def encodeUnits (units : List UInt16) : Bytes := units.flatMap encodeUnit

@[simp]
theorem encodeUnits_cons (unit : UInt16) (units : List UInt16) :
    encodeUnits (unit :: units) = encodeUnit unit ++ encodeUnits units := rfl

variable {unit : UInt16}

/-! ## Units that are characters -/

theorem toNat_ofNat_of_isWhole (whole : IsWhole unit) :
    (Char.ofNat unit.toNat).toNat = unit.toNat := by
  have small : unit.toNat < 65536 := unit.toNat_lt
  have not_half := whole.2
  rw [IsHalf] at not_half
  have valid : unit.toNat.isValidChar := by
    rw [Nat.isValidChar]
    omega
  rw [Char.ofNat, dif_pos valid]
  rfl

theorem encodeUnit_of_isWhole (whole : IsWhole unit) :
    encodeUnit unit = encodeChar (Char.ofNat unit.toNat) := by
  have small : unit.toNat < 65536 := unit.toNat_lt
  have some_unit : 0 < unit.toNat :=
    Nat.pos_of_ne_zero fun zero => whole.1 (UInt16.toNat_inj.mp zero)
  rw [encodeUnit, encodeChar, toNat_ofNat_of_isWhole whole]
  simp only [some_unit, true_and, small, if_true]

/-! ## Units that are no characters -/

/-- The first octet of the unit zero begins no character. -/
theorem head_zero (rest : Bytes) :
    ∃ more, encodeUnit 0 = 0xc0 :: more ∧ head 0xc0 (more ++ rest) = .broken 0 :=
  ⟨[0x80], rfl, rfl⟩

theorem head_of_not_isSecond {first second : UInt8} (lead : 0xc2 ≤ first.toNat)
    (possible : first.toNat ≤ 0xf4) (refused : isSecond first.toNat second.toNat = false)
    (rest : Bytes) : head first (second :: rest) = .broken 0 := by
  have multiple : ¬ first.toNat < 0x80 := by omega
  have begins : ¬ first.toNat < 0xc2 ∧ ¬ 0xf4 < first.toNat := by omega
  simp [head, multiple, begins, refused]

/-- The second octet of a half does not follow the first one in any character. -/
theorem head_half (half : IsHalf unit) (rest : Bytes) :
    ∃ first more, encodeUnit unit = first :: more ∧ head first (more ++ rest) = .broken 0 := by
  obtain ⟨least, greatest⟩ := half
  have spelled : encodeUnit unit =
      [UInt8.ofNat (0xe0 + unit.toNat / 4096), UInt8.ofNat (0x80 + unit.toNat / 64 % 64),
        UInt8.ofNat (0x80 + unit.toNat % 64)] := by
    rw [encodeUnit, if_neg (by omega), if_neg (by omega)]
  have lead : (UInt8.ofNat (0xe0 + unit.toNat / 4096)).toNat = 0xed := by
    rw [toNat_ofNat_of_lt (by omega)]
    omega
  have second := toNat_ofNat_of_lt (show 0x80 + unit.toNat / 64 % 64 < 256 by omega)
  refine ⟨_, _, spelled, head_of_not_isSecond (by rw [lead]; omega) (by rw [lead]; omega) ?_ _⟩
  rw [lead, second, Bool.eq_false_iff, ne_eq, isSecond_iff]
  omega

theorem head_of_not_isWhole (broken : ¬ IsWhole unit) (rest : Bytes) :
    ∃ first more, encodeUnit unit = first :: more ∧ head first (more ++ rest) = .broken 0 := by
  by_cases zero : unit = 0
  · subst zero
    exact ⟨_, head_zero rest⟩
  · exact head_half (Decidable.not_not.mp fun whole => broken ⟨zero, whole⟩) rest

/-! ## Texts -/

theorem exists_decodeFrom_iff (index : Nat) (units : List UInt16) :
    (∃ text, decodeFrom index 0 (encodeUnits units) = .ok text) ↔
      ∀ unit ∈ units, IsWhole unit := by
  induction units generalizing index with
  | nil => exact ⟨fun _ => List.forall_mem_nil _, fun _ => ⟨[], rfl⟩⟩
  | cons unit units hypothesis =>
      rw [List.forall_mem_cons, encodeUnits_cons]
      by_cases whole : IsWhole unit
      · obtain ⟨first, more, octets, read⟩ := announces_encodeChar (Char.ofNat unit.toNat)
        rw [encodeUnit_of_isWhole whole, octets, List.cons_append, decodeFrom, read,
          and_iff_right whole, ← hypothesis (index + 1 + more.length)]
        simp only [decodeFrom_skip]
        cases decodeFrom (index + 1 + more.length) 0 (encodeUnits units) with
        | error fault => exact iff_of_false (by rintro ⟨text, ⟨⟩⟩) (by rintro ⟨text, ⟨⟩⟩)
        | ok text => exact ⟨fun _ => ⟨_, rfl⟩, fun _ => ⟨_, rfl⟩⟩
      · obtain ⟨first, more, octets, broken⟩ := head_of_not_isWhole whole (encodeUnits units)
        rw [octets, List.cons_append, decodeFrom, broken]
        exact iff_of_false (by rintro ⟨text, ⟨⟩⟩) (mt And.left whole)

/-- Code units are written in UTF-8 if and only if all of them are characters. -/
theorem exists_decode_iff (units : List UInt16) :
    (∃ text, decode (encodeUnits units) = .ok text) ↔ ∀ unit ∈ units, IsWhole unit := by
  rw [← exists_decodeFrom_iff 0, decode, decodeChars]
  cases decodeFrom 0 0 (encodeUnits units) with
  | error fault => exact iff_of_false (by rintro ⟨text, ⟨⟩⟩) (by rintro ⟨text, ⟨⟩⟩)
  | ok text => exact ⟨fun _ => ⟨_, rfl⟩, fun _ => ⟨_, rfl⟩⟩

end Utf8
end ClassEnhancement
