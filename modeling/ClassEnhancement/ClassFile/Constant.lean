import ClassEnhancement.ClassFile.Name
import ClassEnhancement.Text.Utf8

/-!
# Constants of a class file

The constant pool holds tagged entries.  Only text and class references matter for naming a class;
the payload of every other kind is carried along.  A long or double constant occupies two slots of
the pool, and slot zero is never used.
-/

namespace ClassEnhancement
namespace ClassFile

/-- Kinds of constants whose payload is not looked at. -/
inductive PlainKind where
  | integer | float | long | double | string | fieldRef | methodRef | interfaceMethodRef
  | nameAndType | methodHandle | methodType | dynamic | invokeDynamic | module | package
  deriving DecidableEq, Repr

namespace PlainKind

/-- Tag that introduces the constant. -/
def tag : PlainKind → UInt8
  | integer => 3
  | float => 4
  | long => 5
  | double => 6
  | string => 8
  | fieldRef => 9
  | methodRef => 10
  | interfaceMethodRef => 11
  | nameAndType => 12
  | methodHandle => 15
  | methodType => 16
  | dynamic => 17
  | invokeDynamic => 18
  | module => 19
  | package => 20

/-- Number of octets after the tag. -/
def payloadSize : PlainKind → Nat
  | long | double => 8
  | integer | float | fieldRef | methodRef | interfaceMethodRef | nameAndType | dynamic
  | invokeDynamic => 4
  | methodHandle => 3
  | string | methodType | module | package => 2

/-- Kinds that occupy two slots. -/
def isWide : PlainKind → Bool
  | long | double => true
  | _ => false

/-- Every kind. -/
def all : List PlainKind :=
  [integer, float, long, double, string, fieldRef, methodRef, interfaceMethodRef, nameAndType,
    methodHandle, methodType, dynamic, invokeDynamic, module, package]

/-- The kind that a tag introduces. -/
def ofTag? (value : UInt8) : Option PlainKind := all.find? fun kind => kind.tag == value

@[simp]
theorem ofTag?_tag (kind : PlainKind) : ofTag? kind.tag = some kind := by cases kind <;> rfl

end PlainKind

/-- One entry of the constant pool. -/
inductive Constant where
  /-- Text. -/
  | text (value : String)
  /-- A reference to a class, by the slot of its name. -/
  | classRef (nameIndex : UInt16)
  /-- A constant of another kind, with its payload. -/
  | plain (kind : PlainKind) (payload : Bytes)
  deriving DecidableEq, Repr

namespace Constant

/-- Tag of a text constant. -/
def textTag : UInt8 := 1

/-- Tag of a class reference. -/
def classTag : UInt8 := 7

/-- Entries that occupy two slots. -/
def isWide : Constant → Bool
  | plain kind _ => kind.isWide
  | _ => false

end Constant

/-- The slots of a pool, from slot one on; the second slot of a wide entry is empty. -/
abbrev Slots := List (Option Constant)

/-- The slots that one entry occupies. -/
def Constant.slots (constant : Constant) : Slots :=
  if constant.isWide then [some constant, none] else [some constant]

/-- The slots of a list of entries. -/
def slotsOf (constants : List Constant) : Slots := constants.flatMap Constant.slots

/-- The entry at an index; index zero is no entry. -/
def Slots.constant? (slots : Slots) (index : UInt16) : Option Constant :=
  match index.toNat with
  | 0 => none
  | position + 1 => slots[position]?.join

end ClassFile
end ClassEnhancement
