import ClassEnhancement.ClassFile.Encoding
import ClassEnhancement.Proofs.Source.Spelling
import ClassEnhancement.Proofs.Text.Decoding

/-!
# The format of class files

The format gives every entry of a constant pool a tag, fields of fixed widths, and one slot or two.
Reading a header finds the entries that were written, each in its slot whatever stands before it, so
the class and its super class are those that the two references lead to, in either direction of the
pool.
-/

namespace ClassEnhancement
namespace ClassFile

/-! ## Entries and their octets -/

def encodeU4 (value : UInt32) : Bytes :=
  encodeU2 (UInt16.ofNat (value.toNat / 65536)) ++ encodeU2 (UInt16.ofNat (value.toNat % 65536))

def encodeU8 (value : UInt64) : Bytes :=
  encodeU4 (UInt32.ofNat (value.toNat / 4294967296)) ++
    encodeU4 (UInt32.ofNat (value.toNat % 4294967296))

/-- An entry of a constant pool with the fields that the format gives it. -/
inductive Entry where
  | text (value : String) (fits : (Utf8.encode value).length < 65536)
  | integer (value : UInt32)
  | float (bits : UInt32)
  | long (value : UInt64)
  | double (bits : UInt64)
  | classRef (name : UInt16)
  | string (value : UInt16)
  | fieldRef (owner member : UInt16)
  | methodRef (owner member : UInt16)
  | interfaceMethodRef (owner member : UInt16)
  | nameAndType (name descriptor : UInt16)
  | methodHandle (kind : UInt8) (reference : UInt16)
  | methodType (descriptor : UInt16)
  | dynamic (bootstrap member : UInt16)
  | invokeDynamic (bootstrap member : UInt16)
  | module (name : UInt16)
  | package (name : UInt16)

namespace Entry

/-- Octets of an entry: the tag, then the fields. -/
def octets : Entry → Bytes
  | text value _ => 1 :: encodeU2 (UInt16.ofNat (Utf8.encode value).length) ++ Utf8.encode value
  | integer value => 3 :: encodeU4 value
  | float bits => 4 :: encodeU4 bits
  | long value => 5 :: encodeU8 value
  | double bits => 6 :: encodeU8 bits
  | classRef name => 7 :: encodeU2 name
  | string value => 8 :: encodeU2 value
  | fieldRef owner member => 9 :: encodeU2 owner ++ encodeU2 member
  | methodRef owner member => 10 :: encodeU2 owner ++ encodeU2 member
  | interfaceMethodRef owner member => 11 :: encodeU2 owner ++ encodeU2 member
  | nameAndType name descriptor => 12 :: encodeU2 name ++ encodeU2 descriptor
  | methodHandle kind reference => 15 :: kind :: encodeU2 reference
  | methodType descriptor => 16 :: encodeU2 descriptor
  | dynamic bootstrap member => 17 :: encodeU2 bootstrap ++ encodeU2 member
  | invokeDynamic bootstrap member => 18 :: encodeU2 bootstrap ++ encodeU2 member
  | module name => 19 :: encodeU2 name
  | package name => 20 :: encodeU2 name

/-- Number of slots that an entry takes. -/
def width : Entry → Nat
  | long _ | double _ => 2
  | _ => 1

/-- The constant that a reader keeps of an entry. -/
def constant : Entry → Constant
  | text value _ => .text value
  | integer value => .plain .integer (encodeU4 value)
  | float bits => .plain .float (encodeU4 bits)
  | long value => .plain .long (encodeU8 value)
  | double bits => .plain .double (encodeU8 bits)
  | classRef name => .classRef name
  | string value => .plain .string (encodeU2 value)
  | fieldRef owner member => .plain .fieldRef (encodeU2 owner ++ encodeU2 member)
  | methodRef owner member => .plain .methodRef (encodeU2 owner ++ encodeU2 member)
  | interfaceMethodRef owner member =>
      .plain .interfaceMethodRef (encodeU2 owner ++ encodeU2 member)
  | nameAndType name descriptor => .plain .nameAndType (encodeU2 name ++ encodeU2 descriptor)
  | methodHandle kind reference => .plain .methodHandle (kind :: encodeU2 reference)
  | methodType descriptor => .plain .methodType (encodeU2 descriptor)
  | dynamic bootstrap member => .plain .dynamic (encodeU2 bootstrap ++ encodeU2 member)
  | invokeDynamic bootstrap member =>
      .plain .invokeDynamic (encodeU2 bootstrap ++ encodeU2 member)
  | module name => .plain .module (encodeU2 name)
  | package name => .plain .package (encodeU2 name)

end Entry

/-! ## Reading one entry -/

theorem takeBytes_append {front : Bytes} {count : Nat} (length_eq : front.length = count)
    (rest : Bytes) : takeBytes count (front ++ rest) = .ok (front, rest) := by
  subst length_eq
  simp [takeBytes]

theorem u2OfBytes_encode (value : UInt16) :
    u2OfBytes (UInt8.ofNat (value.toNat / 256)) (UInt8.ofNat (value.toNat % 256)) = value := by
  have bounded : value.toNat < 65536 := value.toNat_lt
  have high : (UInt8.ofNat (value.toNat / 256)).toNat = value.toNat / 256 :=
    Utf8.toNat_ofNat_of_lt (by omega)
  have low : (UInt8.ofNat (value.toNat % 256)).toNat = value.toNat % 256 :=
    Utf8.toNat_ofNat_of_lt (by omega)
  rw [u2OfBytes, high, low, Nat.div_add_mod', UInt16.ofNat_toNat]

theorem readU2_append (value : UInt16) (rest : Bytes) :
    readU2 (encodeU2 value ++ rest) = .ok (value, rest) := by
  rw [encodeU2, List.cons_append, List.singleton_append, readU2, u2OfBytes_encode]

/-- What is read of a text depends on whether its octets are UTF-8. -/
theorem readConstant_content {content : Bytes} (fits : content.length < 65536) (rest : Bytes) :
    readConstant (1 :: encodeU2 (UInt16.ofNat content.length) ++ content ++ rest) =
      match Utf8.decode content with
      | .ok value => .ok (.text value, rest)
      | .error fault => .error (.invalidText fault) := by
  have length_eq : (UInt16.ofNat content.length).toNat = content.length := by
    rw [UInt16.toNat_ofNat']
    exact Nat.mod_eq_of_lt fits
  have taken := takeBytes_append length_eq.symm rest
  have read : readText (encodeU2 (UInt16.ofNat content.length) ++ (content ++ rest)) =
      match Utf8.decode content with
      | .ok value => .ok (.text value, rest)
      | .error fault => .error (.invalidText fault) := by
    cases decoded : Utf8.decode content with
    | ok value => simp only [readText, readU2_append, bind, Except.bind, taken, decoded]
    | error fault => simp only [readText, readU2_append, bind, Except.bind, taken, decoded]
  rw [List.append_assoc, List.cons_append]
  exact read

theorem readConstant_text {value : String} (fits : (Utf8.encode value).length < 65536)
    (rest : Bytes) :
    readConstant ((Entry.text value fits).octets ++ rest) = .ok (.text value, rest) := by
  rw [Entry.octets, readConstant_content fits, Utf8.decode_encode]

theorem readConstant_plain (kind : PlainKind) {payload : Bytes}
    (length_eq : payload.length = kind.payloadSize) (rest : Bytes) :
    readConstant (kind.tag :: payload ++ rest) = .ok (.plain kind payload, rest) := by
  have no_text : kind.tag ≠ Constant.textTag := by cases kind <;> decide
  have no_class : kind.tag ≠ Constant.classTag := by cases kind <;> decide
  have taken := takeBytes_append length_eq rest
  simp only [readConstant, List.cons_append, readU1, bind, Except.bind, if_neg no_text,
    if_neg no_class, PlainKind.ofTag?_tag, taken]

/-- An entry of another kind has the tag and the payload size of its kind. -/
theorem octets_of_plain {entry : Entry} {kind : PlainKind} {payload : Bytes}
    (kept : entry.constant = .plain kind payload) :
    entry.octets = kind.tag :: payload ∧ payload.length = kind.payloadSize := by
  cases entry <;> cases kept <;> exact ⟨rfl, rfl⟩

theorem readConstant_of_plain {entry : Entry} {kind : PlainKind} {payload : Bytes}
    (kept : entry.constant = .plain kind payload) (rest : Bytes) :
    readConstant (entry.octets ++ rest) = .ok (entry.constant, rest) := by
  obtain ⟨spelled, length_eq⟩ := octets_of_plain kept
  rw [spelled, kept, readConstant_plain kind length_eq]

/-- An entry is read back with what follows it left over. -/
theorem readConstant_octets (entry : Entry) (rest : Bytes) :
    readConstant (entry.octets ++ rest) = .ok (entry.constant, rest) := by
  cases entry with
  | text value fits => exact readConstant_text fits rest
  | classRef name =>
      have read := readU2_append name rest
      simp only [Entry.octets, List.cons_append, readConstant, readU1, bind, Except.bind, read]
      rfl
  | _ => exact readConstant_of_plain rfl rest

/-! ## Reading the pool -/

/-- Number of slots that entries take together. -/
def slotCount : List Entry → Nat
  | [] => 0
  | entry :: rest => entry.width + slotCount rest

/-- The slots that a reader keeps of entries. -/
def poolOf (entries : List Entry) : Slots := slotsOf (entries.map Entry.constant)

@[simp]
theorem slotCount_cons (entry : Entry) (entries : List Entry) :
    slotCount (entry :: entries) = entry.width + slotCount entries := rfl

@[simp]
theorem poolOf_cons (entry : Entry) (entries : List Entry) :
    poolOf (entry :: entries) = entry.constant.slots ++ poolOf entries := by
  simp [poolOf, slotsOf]

theorem length_slots (entry : Entry) : entry.constant.slots.length = entry.width := by
  cases entry <;> rfl

theorem length_poolOf (entries : List Entry) : (poolOf entries).length = slotCount entries := by
  induction entries with
  | nil => rfl
  | cons entry entries induction =>
      rw [poolOf_cons, List.length_append, length_slots, induction, slotCount_cons]

/-- The constant that is read next fills its slots, and the others are read after it. -/
theorem readSlots_of_ok {bytes rest : Bytes} {constant : Constant}
    (read : readConstant bytes = .ok (constant, rest)) (count : Nat) :
    readSlots (constant.slots.length + count) bytes =
      (readSlots count rest).map fun filled => (constant.slots ++ filled.1, filled.2) := by
  by_cases wide : constant.isWide = true
  · have length_eq : constant.slots.length = 2 := by
      rw [Constant.slots, if_pos wide]
      rfl
    rw [length_eq, Nat.add_comm]
    simp only [readSlots, read, bind, Except.bind, wide, if_true]
    cases readSlots count rest <;> rfl
  · have length_eq : constant.slots.length = 1 := by
      rw [Constant.slots, if_neg wide]
      rfl
    rw [length_eq, Nat.add_comm]
    -- The reader treats the last slot apart, because a wide constant there reaches beyond it.
    cases count with
    | zero => simp [readSlots, read, bind, Except.bind, Except.map]
    | succ count =>
        simp only [readSlots, read, bind, Except.bind, wide]
        cases readSlots (count + 1) rest <;> rfl

theorem readSlots_of_error {bytes : Bytes} {error : HeaderError}
    (failed : readConstant bytes = .error error) {count : Nat} (wanted : 0 < count) :
    readSlots count bytes = .error error := by
  match count, wanted with
  | 1, _ => simp only [readSlots, failed, bind, Except.bind]
  | count + 2, _ => simp only [readSlots, failed, bind, Except.bind]

/-- The pool is read back slot by slot, with what follows it left over. -/
theorem readSlots_octets (entries : List Entry) (rest : Bytes) :
    readSlots (slotCount entries) (entries.flatMap Entry.octets ++ rest) =
      .ok (poolOf entries, rest) := by
  induction entries with
  | nil => rfl
  | cons entry entries induction =>
      have read := readConstant_octets entry (entries.flatMap Entry.octets ++ rest)
      rw [slotCount_cons, List.flatMap_cons, List.append_assoc, poolOf_cons, ← length_slots,
        readSlots_of_ok read, induction]
      rfl

/-! ## Indices -/

/-- An entry stands in the slot after those of the entries before it, counted from one. -/
def StandsAt (entries : List Entry) (index : UInt16) (entry : Entry) : Prop :=
  ∃ front back, entries = front ++ entry :: back ∧ index.toNat = slotCount front + 1

/-- An index leads to a class reference, and the reference to the slash spelling of a class. -/
def Names (entries : List Entry) (index : UInt16) (name : ClassName) : Prop :=
  ∃ nameIndex fits, StandsAt entries index (.classRef nameIndex) ∧
    StandsAt entries nameIndex (.text name.slashed fits)

/-- The index of a super class is zero, or it leads to the class. -/
def NamesSuper (entries : List Entry) (index : UInt16) : Option ClassName → Prop
  | none => index = 0
  | some name => Names entries index name

/-- A constant is found in the slot after those of the constants before it. -/
theorem constant?_slotsOf {front back : List Constant} {index : UInt16} (constant : Constant)
    (number : index.toNat = (slotsOf front).length + 1) :
    (slotsOf (front ++ constant :: back)).constant? index = some constant := by
  have split : slotsOf (front ++ constant :: back) =
      slotsOf front ++ (constant.slots ++ slotsOf back) := by
    simp [slotsOf]
  have first : (constant.slots ++ slotsOf back)[0]? = some (some constant) := by
    rw [Constant.slots]
    split <;> rfl
  rw [Slots.constant?, number]
  simp only [split]
  rw [List.getElem?_append_right (Nat.le_refl _), Nat.sub_self, first]
  rfl

theorem constant?_of_standsAt {entries : List Entry} {index : UInt16} {entry : Entry}
    (standing : StandsAt entries index entry) :
    (poolOf entries).constant? index = some entry.constant := by
  obtain ⟨front, back, rfl, number⟩ := standing
  rw [← length_poolOf] at number
  rw [poolOf, List.map_append, List.map_cons]
  exact constant?_slotsOf entry.constant number

theorem ne_zero_of_standsAt {entries : List Entry} {index : UInt16} {entry : Entry}
    (standing : StandsAt entries index entry) : index ≠ 0 := by
  rintro rfl
  obtain ⟨front, back, -, number⟩ := standing
  cases number

theorem classText_of_standsAt {entries : List Entry} {index nameIndex : UInt16} {value : String}
    {fits : (Utf8.encode value).length < 65536}
    (reference : StandsAt entries index (.classRef nameIndex))
    (spelling : StandsAt entries nameIndex (.text value fits)) :
    (poolOf entries).classText index = .ok value := by
  simp only [Slots.classText, Slots.text, constant?_of_standsAt reference,
    constant?_of_standsAt spelling, Entry.constant]

theorem className_of_names {entries : List Entry} {index : UInt16} {name : ClassName}
    (names : Names entries index name) : (poolOf entries).className index = .ok name := by
  obtain ⟨nameIndex, fits, reference, spelling⟩ := names
  simp only [Slots.className, classText_of_standsAt reference spelling, bind, Except.bind,
    name.ofSlashed_slashed]

theorem superName_of_namesSuper {entries : List Entry} {index : UInt16}
    {superName : Option ClassName} (names : NamesSuper entries index superName) :
    (poolOf entries).superName index = .ok superName := by
  cases superName with
  | none =>
      have absent : index = 0 := names
      rw [Slots.superName, if_pos absent]
  | some name =>
      have ⟨nameIndex, fits, reference, _⟩ := names
      rw [Slots.superName, if_neg (ne_zero_of_standsAt reference), className_of_names names]
      rfl

/-! ## Headers -/

/-- A header as the format has it. -/
structure Outline where
  minorVersion : UInt16
  majorVersion : UInt16
  /-- Entries of the constant pool, in order. -/
  entries : List Entry
  accessFlags : UInt16
  /-- Slot of the reference to the class. -/
  thisClass : UInt16
  /-- Slot of the reference to the super class, or zero. -/
  superClass : UInt16
  /-- The count in front of the pool, one more than its slots, is a number of two octets. -/
  numbered : slotCount entries ≤ 65534

namespace Outline

def octets (outline : Outline) : Bytes :=
  [0xca, 0xfe, 0xba, 0xbe] ++ encodeU2 outline.minorVersion ++ encodeU2 outline.majorVersion
    ++ encodeU2 (UInt16.ofNat (slotCount outline.entries + 1))
    ++ outline.entries.flatMap Entry.octets
    ++ encodeU2 outline.accessFlags ++ encodeU2 outline.thisClass ++ encodeU2 outline.superClass

/-- The constants of a header as a reader keeps them. -/
def layout (outline : Outline) : Layout where
  minorVersion := outline.minorVersion
  majorVersion := outline.majorVersion
  constants := outline.entries.map Entry.constant
  accessFlags := outline.accessFlags
  thisClass := outline.thisClass
  superClass := outline.superClass

theorem count_eq (outline : Outline) :
    (UInt16.ofNat (slotCount outline.entries + 1)).toNat - 1 = slotCount outline.entries := by
  have numbered := outline.numbered
  rw [UInt16.toNat_ofNat', Nat.mod_eq_of_lt (by omega), Nat.add_sub_cancel]

theorem encode_constant (entry : Entry) : entry.constant.encode = entry.octets := by
  cases entry <;> rfl

/-- What the library writes of kept constants is in the format. -/
theorem encode_layout (outline : Outline) : outline.layout.encode = outline.octets := by
  have count : (slotsOf outline.layout.constants).length = slotCount outline.entries :=
    length_poolOf outline.entries
  have written : outline.layout.constants.flatMap Constant.encode =
      outline.entries.flatMap Entry.octets := by
    simp only [layout, List.flatMap_map, encode_constant]
  rw [Layout.encode, count, written]
  rfl

/-- The header of a public class with a super class. -/
def minimal (name superName : ClassName) (fits : (Utf8.encode name.slashed).length < 65536)
    (super_fits : (Utf8.encode superName.slashed).length < 65536) : Outline where
  minorVersion := 0
  majorVersion := 61
  entries := [.text name.slashed fits, .classRef 1, .text superName.slashed super_fits, .classRef 3]
  accessFlags := 0x21
  thisClass := 2
  superClass := 4
  numbered := show 4 ≤ 65534 by decide

theorem minimalFile_eq (name superName : ClassName)
    (fits : (Utf8.encode name.slashed).length < 65536)
    (super_fits : (Utf8.encode superName.slashed).length < 65536) :
    minimalFile name.slashed superName.slashed =
      (minimal name superName fits super_fits).octets ++ List.replicate 8 0 := by
  rw [← encode_layout]
  rfl

theorem names_minimal (name superName : ClassName)
    (fits : (Utf8.encode name.slashed).length < 65536)
    (super_fits : (Utf8.encode superName.slashed).length < 65536) :
    Names (minimal name superName fits super_fits).entries 2 name ∧
      NamesSuper (minimal name superName fits super_fits).entries 4 (some superName) := by
  constructor
  · exact ⟨1, fits, ⟨[_], _, rfl, rfl⟩, ⟨[], _, rfl, rfl⟩⟩
  · exact ⟨3, super_fits, ⟨[_, _, _], _, rfl, rfl⟩, ⟨[_, _], _, rfl, rfl⟩⟩

end Outline

/-- The class and the super class that two references lead to. -/
def Slots.names (slots : Slots) (thisClass superClass : UInt16) :
    Except HeaderError (ClassName × Option ClassName) := do
  let name ← slots.className thisClass
  let superName ← slots.superName superClass
  .ok (name, superName)

/-- Whatever the references lead to, a header is read as far as the names. -/
theorem read_outline (outline : Outline) (tail : Bytes) :
    ClassHeader.read (outline.octets ++ tail) =
      ((poolOf outline.entries).names outline.thisClass outline.superClass).map fun names =>
        ⟨outline.minorVersion, outline.majorVersion, outline.accessFlags, names.1, names.2⟩ := by
  have magic := takeBytes_append (show [0xca, 0xfe, 0xba, 0xbe].length = 4 from rfl)
  simp only [ClassHeader.read, Outline.octets, List.append_assoc, magic, bind, Except.bind,
    readU2_append, outline.count_eq, readSlots_octets, Slots.names]
  cases (poolOf outline.entries).className outline.thisClass with
  | error error => rfl
  | ok name => cases (poolOf outline.entries).superName outline.superClass <;> rfl

theorem read_octets (outline : Outline) {name : ClassName} {superName : Option ClassName}
    (named : Names outline.entries outline.thisClass name)
    (extending : NamesSuper outline.entries outline.superClass superName) (tail : Bytes) :
    ClassHeader.read (outline.octets ++ tail) =
      .ok ⟨outline.minorVersion, outline.majorVersion, outline.accessFlags, name,
        superName⟩ := by
  simp only [read_outline, Slots.names, bind, Except.bind, className_of_names named,
    superName_of_namesSuper extending, Except.map]

/-- Every header in the format is read back, whatever follows it, and a minimal class file begins
with one. -/
theorem reads_format :
    (∀ (outline : Outline) (name : ClassName) (superName : Option ClassName) (tail : Bytes),
      Names outline.entries outline.thisClass name →
      NamesSuper outline.entries outline.superClass superName →
      ClassHeader.read (outline.octets ++ tail) =
        .ok ⟨outline.minorVersion, outline.majorVersion, outline.accessFlags, name,
          superName⟩) ∧
    ∀ (name superName : ClassName) (fits : (Utf8.encode name.slashed).length < 65536)
      (super_fits : (Utf8.encode superName.slashed).length < 65536) (tail : Bytes),
      minimalFile name.slashed superName.slashed =
          (Outline.minimal name superName fits super_fits).octets ++ List.replicate 8 0 ∧
        ClassHeader.read (minimalFile name.slashed superName.slashed ++ tail) =
          .ok ⟨0, 61, 0x21, name, some superName⟩ := by
  constructor
  · intro outline name superName tail named extending
    exact read_octets outline named extending tail
  · intro name superName fits super_fits tail
    have written := Outline.minimalFile_eq name superName fits super_fits
    obtain ⟨named, extending⟩ := Outline.names_minimal name superName fits super_fits
    refine ⟨written, ?_⟩
    rw [written, List.append_assoc]
    exact read_octets (Outline.minimal name superName fits super_fits) named extending _

/-! ## References in both directions -/

/-- The class of a header whose references stand before and after what they lead to. -/
def forwardName : ClassName := ⟨["a", "B$C"], by decide, by decide⟩

def forwardSuper : ClassName := ⟨["D"], by decide, by decide⟩

/-- A header with wide entries between references and texts. -/
def forward : Outline where
  minorVersion := 3
  majorVersion := 52
  entries := [.classRef 7, .long 42, .methodHandle 6 1, .double 0,
    .text forwardName.slashed (by decide), .text forwardSuper.slashed (by decide),
    .dynamic 0 9, .classRef 8]
  accessFlags := 0x20
  thisClass := 1
  superClass := 10
  numbered := by decide

/-- A forward and a backward reference past wide entries are followed. -/
theorem reads_format_forward :
    Names forward.entries forward.thisClass forwardName ∧
      NamesSuper forward.entries forward.superClass (some forwardSuper) ∧
      ClassHeader.read (forward.octets ++ [0xff]) =
        .ok ⟨3, 52, 0x20, forwardName, some forwardSuper⟩ := by
  have named : Names forward.entries forward.thisClass forwardName :=
    ⟨7, by decide, ⟨[], _, rfl, rfl⟩, ⟨[_, _, _, _], _, rfl, rfl⟩⟩
  have extending : NamesSuper forward.entries forward.superClass (some forwardSuper) :=
    ⟨8, by decide, ⟨[_, _, _, _, _, _, _], _, rfl, rfl⟩, ⟨[_, _, _, _, _], _, rfl, rfl⟩⟩
  exact ⟨named, extending, reads_format.1 forward _ _ _ named extending⟩

end ClassFile
end ClassEnhancement
