import ClassEnhancement.ClassFile.Header

/-!
# Writing class files

The octets of a header: versions, the constant pool, access flags and the two class references.
The count in front of the pool is one more than the number of slots.
-/

namespace ClassEnhancement
namespace ClassFile

/-- The two octets of a number, high octet first. -/
def encodeU2 (value : UInt16) : Bytes :=
  [UInt8.ofNat (value.toNat / 256), UInt8.ofNat (value.toNat % 256)]

/-- Octets of a constant, with its tag. -/
def Constant.encode : Constant → Bytes
  | .text value =>
    let content := Utf8.encode value
    Constant.textTag :: (encodeU2 (UInt16.ofNat content.length) ++ content)
  | .classRef nameIndex => Constant.classTag :: encodeU2 nameIndex
  | .plain kind payload => kind.tag :: payload

/-- Everything that a header holds, before names are looked up. -/
structure Layout where
  /-- Minor version of the format. -/
  minorVersion : UInt16
  /-- Major version of the format. -/
  majorVersion : UInt16
  /-- Constants, in pool order. -/
  constants : List Constant
  /-- Access flags of the class. -/
  accessFlags : UInt16
  /-- Slot of the reference to the class. -/
  thisClass : UInt16
  /-- Slot of the reference to the super class, or zero. -/
  superClass : UInt16
  deriving DecidableEq, Repr

/-- Octets of a header. -/
def Layout.encode (layout : Layout) : Bytes :=
  classMagic ++ encodeU2 layout.minorVersion ++ encodeU2 layout.majorVersion
    ++ encodeU2 (UInt16.ofNat ((slotsOf layout.constants).length + 1))
    ++ layout.constants.flatMap Constant.encode
    ++ encodeU2 layout.accessFlags ++ encodeU2 layout.thisClass ++ encodeU2 layout.superClass

/-- The header of a public class with a super class, both in the slash spelling. -/
def Layout.minimal (slashedName slashedSuper : String) : Layout where
  minorVersion := 0
  majorVersion := 61
  constants := [.text slashedName, .classRef 1, .text slashedSuper, .classRef 3]
  accessFlags := 0x21
  thisClass := 2
  superClass := 4

/-- A class file without interfaces, fields, methods and attributes. -/
def minimalFile (slashedName slashedSuper : String) : Bytes :=
  (Layout.minimal slashedName slashedSuper).encode ++ List.replicate 8 0

example :
    (ClassHeader.read (minimalFile "a/B" "c/D")).map (fun header => header.name.dotted)
      = .ok "a.B" := by rfl

end ClassFile
end ClassEnhancement
