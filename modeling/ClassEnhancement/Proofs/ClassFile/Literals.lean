import ClassEnhancement.Proofs.ClassFile.Format
import ClassEnhancement.Proofs.Text.CodeUnits

/-!
# Texts that name no class

A reader decodes every text of a constant pool, whether or not it names the class or the super
class.  A text that names neither of them can change what is read only by not being UTF-8; the
format has such texts, for it writes the unit zero and the halves of surrogate pairs otherwise.
-/

namespace ClassEnhancement
namespace ClassFile

/-! ## Class files with texts of any octets -/

/-- An entry of a constant pool whose text may be any octets. -/
inductive Item where
  | text (content : Bytes) (fits : content.length < 65536)
  | other (entry : Entry) (wordless : ∀ value fits, entry ≠ .text value fits)

namespace Item

def octets : Item → Bytes
  | text content _ => 1 :: encodeU2 (UInt16.ofNat content.length) ++ content
  | other entry _ => entry.octets

/-- Number of slots that an item takes. -/
def width : Item → Nat
  | text _ _ => 1
  | other entry _ => entry.width

/-- Number of slots that items take together. -/
def totalWidth : List Item → Nat
  | [] => 0
  | item :: rest => item.width + totalWidth rest

/-- Octets of a text. -/
def content? : Item → Option Bytes
  | text content _ => some content
  | other _ _ => none

/-- Why a text is no UTF-8. -/
def fault? : Item → Option Utf8.Fault
  | text content _ =>
    match Utf8.decode content with
    | .ok _ => none
    | .error fault => some fault
  | other _ _ => none

/-- The constant that a reader keeps of an item without a fault. -/
def constant : Item → Constant
  | text content _ => .text ((Utf8.decode? content).getD "")
  | other entry _ => entry.constant

@[simp]
theorem totalWidth_cons (item : Item) (items : List Item) :
    totalWidth (item :: items) = item.width + totalWidth items := rfl

theorem length_slots (item : Item) : item.constant.slots.length = item.width := by
  cases item with
  | text content fits => rfl
  | other entry wordless => exact ClassFile.length_slots entry

theorem readConstant_of_fault {item : Item} {fault : Utf8.Fault} (broken : item.fault? = some fault)
    (rest : Bytes) : readConstant (item.octets ++ rest) = .error (.invalidText fault) := by
  cases item with
  | text content fits =>
      rw [octets, readConstant_content fits]
      rw [fault?] at broken
      cases decoded : Utf8.decode content with
      | ok value => simp [decoded] at broken
      | error found =>
          rw [decoded] at broken
          obtain rfl := Option.some.inj broken
          rfl
  | other entry wordless => cases broken

theorem readConstant_of_sound {item : Item} (sound : item.fault? = none) (rest : Bytes) :
    readConstant (item.octets ++ rest) = .ok (item.constant, rest) := by
  cases item with
  | text content fits =>
      rw [octets, readConstant_content fits, constant, Utf8.decode?]
      rw [fault?] at sound
      cases decoded : Utf8.decode content with
      | ok value => rfl
      | error fault => simp [decoded] at sound
  | other entry wordless => exact readConstant_octets entry rest

end Item

/-- A class file up to the references that name the class and the super class. -/
structure Image where
  minorVersion : UInt16
  majorVersion : UInt16
  /-- Entries of the constant pool, in order. -/
  items : List Item
  accessFlags : UInt16
  /-- Slot of the reference to the class. -/
  thisClass : UInt16
  /-- Slot of the reference to the super class, or zero. -/
  superClass : UInt16
  /-- The count in front of the pool, one more than its slots, is a number of two octets. -/
  numbered : Item.totalWidth items ≤ 65534

namespace Image

def octets (image : Image) : Bytes :=
  [0xca, 0xfe, 0xba, 0xbe] ++ encodeU2 image.minorVersion ++ encodeU2 image.majorVersion
    ++ encodeU2 (UInt16.ofNat (Item.totalWidth image.items + 1))
    ++ image.items.flatMap Item.octets
    ++ encodeU2 image.accessFlags ++ encodeU2 image.thisClass ++ encodeU2 image.superClass

/-- Octets of the texts, in order. -/
def contents (image : Image) : List Bytes := image.items.filterMap Item.content?

/-- Why the first text that is no UTF-8 is none. -/
def fault? (image : Image) : Option Utf8.Fault := image.items.findSome? Item.fault?

/-- An item stands in the slot after those of the items before it, counted from one. -/
def StandsAt (image : Image) (index : UInt16) (item : Item) : Prop :=
  ∃ front back, image.items = front ++ item :: back ∧
    index.toNat = Item.totalWidth front + 1

/-- The reference to the class or to the super class leads to a slot. -/
def IsNamedBy (image : Image) (slot : Nat) : Prop :=
  ∃ index nameIndex, (index = image.thisClass ∨ index = image.superClass) ∧
    image.StandsAt index (.other (.classRef nameIndex) nofun) ∧ nameIndex.toNat = slot

/-- The slots that a reader keeps of a class file without a fault. -/
def pool (image : Image) : Slots := slotsOf (image.items.map Item.constant)

end Image

/-! ## Reading -/

theorem readSlots_items (items : List Item) (rest : Bytes) :
    readSlots (Item.totalWidth items) (items.flatMap Item.octets ++ rest) =
      match items.findSome? Item.fault? with
      | some fault => .error (.invalidText fault)
      | none => .ok (slotsOf (items.map Item.constant), rest) := by
  induction items with
  | nil => rfl
  | cons item items induction =>
      rw [List.map_cons, Item.totalWidth_cons, List.flatMap_cons, List.append_assoc,
        List.findSome?_cons, ← item.length_slots]
      cases broken : item.fault? with
      | some fault =>
          have taken : 0 < item.constant.slots.length := by
            rw [Constant.slots]
            split <;> exact Nat.succ_pos _
          rw [readSlots_of_error (Item.readConstant_of_fault broken _) (by omega)]
      | none =>
          rw [readSlots_of_ok (Item.readConstant_of_sound broken _), induction]
          cases items.findSome? Item.fault? <;> rfl

theorem read_image (image : Image) (tail : Bytes) :
    ClassHeader.read (image.octets ++ tail) =
      match image.fault? with
      | some fault => .error (.invalidText fault)
      | none => (image.pool.names image.thisClass image.superClass).map fun names =>
          ⟨image.minorVersion, image.majorVersion, image.accessFlags, names.1, names.2⟩ := by
  have numbered := image.numbered
  have magic := takeBytes_append (show [0xca, 0xfe, 0xba, 0xbe].length = 4 from rfl)
  have count : (UInt16.ofNat (Item.totalWidth image.items + 1)).toNat - 1 =
      Item.totalWidth image.items := by
    rw [UInt16.toNat_ofNat', Nat.mod_eq_of_lt (by omega), Nat.add_sub_cancel]
  simp only [ClassHeader.read, Image.octets, List.append_assoc, magic, bind, Except.bind,
    readU2_append, count, readSlots_items, Image.fault?]
  cases image.items.findSome? Item.fault? with
  | some fault => rfl
  | none =>
      simp only [readU2_append, Slots.names, bind, Except.bind, Image.pool]
      cases Slots.className _ image.thisClass with
      | error error => rfl
      | ok name => cases Slots.superName _ image.superClass <;> rfl

/-! ## Where constants stand -/

theorem eq_of_slots_getElem? {constant found : Constant} {position : Nat}
    (here : constant.slots[position]? = some (some found)) : position = 0 ∧ constant = found := by
  rw [Constant.slots] at here
  rcases position with _ | _ | position
  · split at here <;> exact ⟨rfl, Option.some.inj (Option.some.inj here)⟩
  · split at here <;> cases here
  · split at here <;> cases here

theorem exists_of_slotsOf_getElem? {items : List Item} {position : Nat} {constant : Constant}
    (found : (slotsOf (items.map Item.constant))[position]? = some (some constant)) :
    ∃ front item back, items = front ++ item :: back ∧
      position = Item.totalWidth front ∧ item.constant = constant := by
  induction items generalizing position with
  | nil => cases found
  | cons item items induction =>
      rw [List.map_cons, slotsOf, List.flatMap_cons] at found
      by_cases within : position < item.constant.slots.length
      · rw [List.getElem?_append_left within] at found
        obtain ⟨rfl, same⟩ := eq_of_slots_getElem? found
        exact ⟨[], item, items, rfl, rfl, same⟩
      · rw [List.getElem?_append_right (Nat.not_lt.mp within)] at found
        obtain ⟨front, other, back, rfl, number, same⟩ := induction found
        rw [item.length_slots] at number within
        refine ⟨item :: front, other, back, rfl, ?_, same⟩
        rw [Item.totalWidth_cons]
        omega

theorem Image.exists_standsAt {image : Image} {index : UInt16} {constant : Constant}
    (found : image.pool.constant? index = some constant) :
    ∃ item, image.StandsAt index item ∧ item.constant = constant := by
  rw [Slots.constant?] at found
  split at found
  · cases found
  · next position number =>
      obtain ⟨front, item, back, split, rfl, same⟩ :=
        exists_of_slotsOf_getElem? (Option.join_eq_some_iff.mp found)
      exact ⟨item, ⟨front, back, split, number⟩, same⟩

/-- The class is named by what a reader finds. -/
theorem Image.isNamedBy_of_constant? {image : Image} {index nameIndex : UInt16}
    (named : index = image.thisClass ∨ index = image.superClass)
    (found : image.pool.constant? index = some (.classRef nameIndex)) :
    image.IsNamedBy nameIndex.toNat := by
  obtain ⟨item, standing, same⟩ := exists_standsAt found
  refine ⟨index, nameIndex, named, ?_, rfl⟩
  cases item with
  | text content fits => cases same
  | other entry wordless =>
      cases entry with
      | classRef other =>
          obtain rfl := Constant.classRef.inj same
          exact standing
      | _ => cases same

/-! ## Other texts -/

/-- The items are the same up to the contents of texts, and where the contents differ they are legal
and the text stands in a slot that is not kept. -/
inductive Rewords (kept : Nat → Prop) (legal : Bytes → Prop) : Nat → List Item → List Item → Prop
  | nil {slot : Nat} : Rewords kept legal slot [] []
  | same {slot : Nat} {item : Item} {items others : List Item} :
      Rewords kept legal (slot + item.width) items others →
      Rewords kept legal slot (item :: items) (item :: others)
  | text {slot : Nat} {content other : Bytes} {fits other_fits} {items others : List Item} :
      ¬ kept slot → legal content → legal other → Rewords kept legal (slot + 1) items others →
      Rewords kept legal slot (.text content fits :: items) (.text other other_fits :: others)

/-- Two class files differ at most in texts that name neither the class nor the super class, and
these have legal contents. -/
def Differs (legal : Bytes → Prop) (first second : Image) : Prop :=
  ∃ items numbered, second = { first with items, numbered } ∧
    Rewords first.IsNamedBy legal 1 first.items items

variable {kept : Nat → Prop} {legal : Bytes → Prop}

/-- Two pools have the same constants, apart from the texts in slots that are not kept. -/
def Agrees (kept : Nat → Prop) (first second : Slots) : Prop :=
  ∀ index : UInt16, first.constant? index = second.constant? index ∨
    ¬ kept index.toNat ∧ ∃ value other,
      first.constant? index = some (.text value) ∧ second.constant? index = some (.text other)

theorem Rewords.getElem?_slotsOf {slot : Nat} {items others : List Item}
    (rewords : Rewords kept legal slot items others) (position : Nat) :
    (slotsOf (items.map Item.constant))[position]? =
        (slotsOf (others.map Item.constant))[position]? ∨
      ¬ kept (slot + position) ∧ ∃ value other,
        (slotsOf (items.map Item.constant))[position]? = some (some (.text value)) ∧
          (slotsOf (others.map Item.constant))[position]? = some (some (.text other)) := by
  induction rewords generalizing position with
  | nil => exact .inl rfl
  | @same slot item items others rewords induction =>
      simp only [List.map_cons, slotsOf, List.flatMap_cons]
      by_cases within : position < item.constant.slots.length
      · rw [List.getElem?_append_left within, List.getElem?_append_left within]
        exact .inl rfl
      · have beyond := Nat.not_lt.mp within
        have place : slot + item.width + (position - item.constant.slots.length) =
            slot + position := by
          rw [item.length_slots] at beyond ⊢
          omega
        rw [List.getElem?_append_right beyond, List.getElem?_append_right beyond, ← place]
        exact induction _
  | @text slot content other fits other_fits items others free _ _ rewords induction =>
      cases position with
      | zero => exact .inr ⟨free, _, _, rfl, rfl⟩
      | succ position =>
          rw [← Nat.add_assoc, Nat.add_right_comm]
          exact induction position

theorem Rewords.agrees {items others : List Item} (rewords : Rewords kept legal 1 items others) :
    Agrees kept (slotsOf (items.map Item.constant)) (slotsOf (others.map Item.constant)) := by
  intro index
  simp only [Slots.constant?]
  cases number : index.toNat with
  | zero => exact .inl rfl
  | succ position =>
      rcases rewords.getElem?_slotsOf position with same | ⟨free, value, other, first, second⟩
      · exact .inl (congrArg Option.join same)
      · rw [Nat.add_comm] at free
        exact .inr ⟨free, value, other, congrArg Option.join first, congrArg Option.join second⟩

namespace Agrees

variable {first second : Slots}

theorem text_eq (agrees : Agrees kept first second) {index : UInt16} (named : kept index.toNat) :
    first.text index = second.text index := by
  rcases agrees index with same | ⟨free, -⟩
  · rw [Slots.text, Slots.text, same]
  · exact absurd named free

theorem className_eq (agrees : Agrees kept first second) {index : UInt16}
    (named : ∀ nameIndex, first.constant? index = some (.classRef nameIndex) →
      kept nameIndex.toNat) :
    first.className index = second.className index := by
  have found : first.classText index = second.classText index := by
    rw [Slots.classText, Slots.classText]
    rcases agrees index with same | ⟨-, value, other, here, there⟩
    · rw [← same]
      split
      · next nameIndex reference => exact agrees.text_eq (named nameIndex reference)
      · rfl
    · rw [here, there]
  rw [Slots.className, Slots.className, found]

theorem names_eq (agrees : Agrees kept first second) {thisClass superClass : UInt16}
    (named : ∀ index nameIndex, index = thisClass ∨ index = superClass →
      first.constant? index = some (.classRef nameIndex) → kept nameIndex.toNat) :
    first.names thisClass superClass = second.names thisClass superClass := by
  have this_eq := agrees.className_eq fun nameIndex => named thisClass nameIndex (.inl rfl)
  have super_eq := agrees.className_eq fun nameIndex => named superClass nameIndex (.inr rfl)
  simp only [Slots.names, Slots.superName, this_eq, super_eq]

end Agrees

/-! ## Faults of texts -/

/-- No fault of a text is reported. -/
def Decoded {α : Type} (result : Except HeaderError α) : Prop :=
  ∀ fault, result ≠ .error (.invalidText fault)

theorem Decoded.bind {α β : Type} {result : Except HeaderError α}
    {next : α → Except HeaderError β} (decoded : Decoded result)
    (onward : ∀ value, Decoded (next value)) : Decoded (result >>= next) := by
  cases result with
  | error error =>
      exact fun fault same => decoded fault (congrArg Except.error (Except.error.inj same))
  | ok value => exact onward value

theorem Decoded.map {α β : Type} {result : Except HeaderError α} (decoded : Decoded result)
    (change : α → β) : Decoded (result.map change) := by
  cases result with
  | error error =>
      exact fun fault same => decoded fault (congrArg Except.error (Except.error.inj same))
  | ok value => rintro fault ⟨⟩

theorem decoded_className (slots : Slots) (index : UInt16) : Decoded (slots.className index) := by
  have found : Decoded (slots.classText index) := by
    rw [Slots.classText]
    split
    · rw [Slots.text]
      split <;> rintro fault ⟨⟩
    · rintro fault ⟨⟩
  exact found.bind fun text => by cases ClassName.ofSlashed text <;> rintro fault ⟨⟩

/-- Once the texts are decoded, the names report none of their faults. -/
theorem decoded_names (slots : Slots) (thisClass superClass : UInt16) :
    Decoded (slots.names thisClass superClass) := by
  have extending : Decoded (slots.superName superClass) := by
    rw [Slots.superName]
    split
    · rintro fault ⟨⟩
    · exact (decoded_className slots superClass).map some
  refine (decoded_className slots thisClass).bind fun name => extending.bind fun superName => ?_
  rintro fault ⟨⟩

/-! ## What a text decides -/

theorem read_eq_invalidText_iff {image : Image} {fault : Utf8.Fault} (tail : Bytes) :
    ClassHeader.read (image.octets ++ tail) = .error (.invalidText fault) ↔
      image.fault? = some fault := by
  rw [read_image]
  cases image.fault? with
  | some found => simp only [Except.error.injEq, HeaderError.invalidText.injEq, Option.some.injEq]
  | none =>
      have decoded := (decoded_names image.pool image.thisClass image.superClass).map
        fun names => (⟨image.minorVersion, image.majorVersion, image.accessFlags, names.1,
          names.2⟩ : ClassHeader)
      exact ⟨fun same => absurd same (decoded fault), nofun⟩

/-- Two class files that differ in texts that name nothing are read alike just where they have the
same fault, or none. -/
theorem read_eq_iff {first second : Image} (differs : Differs legal first second) (tail : Bytes) :
    ClassHeader.read (first.octets ++ tail) = ClassHeader.read (second.octets ++ tail) ↔
      first.fault? = second.fault? := by
  constructor
  · intro same
    cases broken : second.fault? with
    | some fault =>
        rw [← read_eq_invalidText_iff tail] at broken ⊢
        exact same.trans broken
    | none =>
        refine Option.eq_none_iff_forall_ne_some.mpr fun fault found => ?_
        rw [← read_eq_invalidText_iff tail, same, read_eq_invalidText_iff, broken] at found
        cases found
  · intro same
    obtain ⟨items, numbered, rfl, rewords⟩ := differs
    have names := rewords.agrees.names_eq
      fun index nameIndex named found => Image.isNamedBy_of_constant? named found
    rw [read_image, read_image, same]
    simp only [Image.pool, names]

/-- Octets that spell code units, as the format writes them. -/
def IsLegal (content : Bytes) : Prop := ∃ units, Utf8.encodeUnits units = content

/-- Octets that spell code units all of which are characters. -/
def IsPlain (content : Bytes) : Prop :=
  ∃ units, Utf8.encodeUnits units = content ∧ ∀ unit ∈ units, Utf8.IsWhole unit

theorem Item.fault?_text_eq_none_iff {content : Bytes} {fits : content.length < 65536} :
    (Item.text content fits).fault? = none ↔ ∃ value, Utf8.decode content = .ok value := by
  rw [fault?]
  cases Utf8.decode content with
  | ok value => exact ⟨fun _ => ⟨value, rfl⟩, fun _ => rfl⟩
  | error fault => exact ⟨nofun, nofun⟩

theorem IsPlain.fault?_eq_none {content : Bytes} (plain : IsPlain content)
    (fits : content.length < 65536) : (Item.text content fits).fault? = none := by
  obtain ⟨units, rfl, whole⟩ := plain
  exact Item.fault?_text_eq_none_iff.mpr ((Utf8.exists_decode_iff units).mpr whole)

theorem Rewords.findSome?_eq {slot : Nat} {items others : List Item}
    (rewords : Rewords kept IsPlain slot items others) :
    items.findSome? Item.fault? = others.findSome? Item.fault? := by
  induction rewords with
  | nil => rfl
  | same rewords induction => rw [List.findSome?_cons, List.findSome?_cons, induction]
  | text free plain other_plain rewords induction =>
      rw [List.findSome?_cons, List.findSome?_cons, plain.fault?_eq_none,
        other_plain.fault?_eq_none, induction]

theorem Differs.fault?_eq {first second : Image} (differs : Differs IsPlain first second) :
    first.fault? = second.fault? := by
  obtain ⟨items, numbered, rfl, rewords⟩ := differs
  exact rewords.findSome?_eq

theorem Item.exists_fault_iff {item : Item} :
    (∃ fault, item.fault? = some fault) ↔
      ∃ content, item.content? = some content ∧ ¬ ∃ value, Utf8.decode content = .ok value := by
  rw [← Option.ne_none_iff_exists']
  cases item with
  | text content fits =>
      rw [ne_eq, fault?_text_eq_none_iff]
      constructor
      · exact fun broken => ⟨content, rfl, broken⟩
      · rintro ⟨other, same, broken⟩
        cases same
        exact broken
  | other entry wordless => exact ⟨fun faulty => absurd rfl faulty, nofun⟩

/-- There is a fault where a text is no UTF-8. -/
theorem Image.exists_fault_iff {image : Image} :
    (∃ fault, image.fault? = some fault) ↔
      ∃ content ∈ image.contents, ¬ ∃ value, Utf8.decode content = .ok value := by
  simp only [fault?, ← Option.isSome_iff_exists, List.findSome?_isSome_iff]
  simp only [Option.isSome_iff_exists, Item.exists_fault_iff, contents, List.mem_filterMap]
  constructor
  · rintro ⟨item, member, content, spelled, broken⟩
    exact ⟨content, ⟨item, member, spelled⟩, broken⟩
  · rintro ⟨content, ⟨item, member, spelled⟩, broken⟩
    exact ⟨item, member, content, spelled, broken⟩

/-- A text decides whether a class file is read by holding the unit zero or a half of a surrogate
pair, and in no other way unless it names the class or the super class. -/
theorem reads_alike (first second : Image) (tail : Bytes) :
    (∀ legal : Bytes → Prop, Differs legal first second →
      (ClassHeader.read (first.octets ++ tail) = ClassHeader.read (second.octets ++ tail) ↔
        first.fault? = second.fault?)) ∧
    (Differs IsPlain first second →
      ClassHeader.read (first.octets ++ tail) = ClassHeader.read (second.octets ++ tail)) ∧
    ∀ texts : List (List UInt16), first.contents = texts.map Utf8.encodeUnits →
      ((∃ fault, ClassHeader.read (first.octets ++ tail) = .error (.invalidText fault)) ↔
        ∃ units ∈ texts, ∃ unit ∈ units, unit = 0 ∨ Utf8.IsHalf unit) := by
  refine ⟨?alike, ?plain, ?refused⟩
  case alike => exact fun legal differs => read_eq_iff differs tail
  case plain => exact fun differs => (read_eq_iff differs tail).mpr differs.fault?_eq
  case refused =>
    intro texts spelled
    simp only [read_eq_invalidText_iff]
    rw [Image.exists_fault_iff, spelled]
    have broken (units : List UInt16) :
        (¬ ∃ value, Utf8.decode (Utf8.encodeUnits units) = .ok value) ↔
          ∃ unit ∈ units, unit = 0 ∨ Utf8.IsHalf unit := by
      rw [Utf8.exists_decode_iff]
      simp only [Utf8.IsWhole, not_forall, not_and_or, not_not, exists_prop]
    simp only [List.mem_map, exists_exists_and_eq_and, broken]

/-! ## A literal -/

theorem length_slotsOf_items (items : List Item) :
    (slotsOf (items.map Item.constant)).length = Item.totalWidth items := by
  induction items with
  | nil => rfl
  | cons item items induction =>
      rw [slotsOf] at induction ⊢
      rw [List.map_cons, List.flatMap_cons, List.length_append, item.length_slots, induction]
      rfl

theorem Image.constant?_of_standsAt {image : Image} {index : UInt16} {item : Item}
    (standing : image.StandsAt index item) :
    image.pool.constant? index = some item.constant := by
  obtain ⟨front, back, split, number⟩ := standing
  rw [← length_slotsOf_items] at number
  rw [pool, split, List.map_append, List.map_cons]
  exact constant?_slotsOf item.constant number

/-- The class `A` with the super class `B` and a literal. -/
def saying (units : List UInt16) (fits : (Utf8.encodeUnits units).length < 65536) : Image where
  minorVersion := 0
  majorVersion := 61
  items := [.text (Utf8.encodeUnits [0x41]) (by decide), .other (.classRef 1) nofun,
    .text (Utf8.encodeUnits [0x42]) (by decide), .other (.classRef 3) nofun,
    .other (.string 6) nofun, .text (Utf8.encodeUnits units) fits]
  accessFlags := 0x21
  thisClass := 2
  superClass := 4
  numbered := show 6 ≤ 65534 by decide

theorem not_isNamedBy_literal (units : List UInt16) (fits) : ¬ (saying units fits).IsNamedBy 6 := by
  rintro ⟨index, nameIndex, named, standing, literal⟩
  have found := Image.constant?_of_standsAt standing
  rcases named with rfl | rfl
  all_goals
    obtain rfl := Constant.classRef.inj (Option.some.inj found)
    cases literal

theorem differs_saying {legal : Bytes → Prop} {units others : List UInt16} (fits other_fits)
    (first : legal (Utf8.encodeUnits units)) (second : legal (Utf8.encodeUnits others)) :
    Differs legal (saying units fits) (saying others other_fits) :=
  ⟨(saying others other_fits).items, (saying others other_fits).numbered, rfl,
    .same (.same (.same (.same (.same
      (.text (not_isNamedBy_literal units fits) first second .nil)))))⟩

/-- One literal is as good as another, unless it holds the unit zero. -/
theorem reads_alike_saying :
    ClassHeader.read ((saying [0x68, 0x69] (by decide)).octets ++ [0, 0]) =
        ClassHeader.read ((saying [0x4e2d] (by decide)).octets ++ [0, 0]) ∧
      ∃ fault, ClassHeader.read ((saying [0x68, 0] (by decide)).octets ++ [0, 0]) =
        .error (.invalidText fault) := by
  have first : IsPlain (Utf8.encodeUnits [0x68, 0x69]) :=
    ⟨_, rfl, by simp [Utf8.IsWhole, Utf8.IsHalf]⟩
  have second : IsPlain (Utf8.encodeUnits [0x4e2d]) :=
    ⟨_, rfl, by simp [Utf8.IsWhole, Utf8.IsHalf]⟩
  constructor
  · exact (reads_alike _ _ _).2.1 (differs_saying _ _ first second)
  · have silent := saying [0x68, 0x69] (by decide)
    exact ((reads_alike (saying [0x68, 0] (by decide)) silent [0, 0]).2.2
      [[0x41], [0x42], [0x68, 0]] rfl).mpr
        ⟨_, .tail _ (.tail _ (.head _)), 0, .tail _ (.head _), .inl rfl⟩

/-- Legal literals make one class file readable and another one unreadable. -/
theorem literal_decides :
    Differs IsLegal (saying [0x68, 0x69] (by decide)) (saying [0x68, 0] (by decide)) ∧
      ClassHeader.read (saying [0x68, 0x69] (by decide)).octets =
        .ok ⟨0, 61, 0x21, ⟨["A"], by decide, by decide⟩, some ⟨["B"], by decide, by decide⟩⟩ ∧
      ClassHeader.read (saying [0x68, 0] (by decide)).octets =
        .error (.invalidText (.invalid 1 1)) :=
  ⟨differs_saying _ _ ⟨_, rfl⟩ ⟨_, rfl⟩, rfl, rfl⟩

end ClassFile
end ClassEnhancement
