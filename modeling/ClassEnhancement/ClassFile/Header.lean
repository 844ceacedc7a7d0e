import ClassEnhancement.ClassFile.Constant

/-!
# Headers of class files

The header ends with the references to the class and its super class, so reading it names the
class that a file holds.  Everything is big-endian.  Reading stops at the first octet that is
missing or wrong; what follows the header is not looked at.
-/

namespace ClassEnhancement

/-- First four octets of every class file. -/
def classMagic : Bytes := [0xca, 0xfe, 0xba, 0xbe]

/-- Identity of a compiled class. -/
structure ClassHeader where
  /-- Minor version of the format. -/
  minorVersion : UInt16
  /-- Major version of the format. -/
  majorVersion : UInt16
  /-- Access flags of the class. -/
  accessFlags : UInt16
  /-- Name of the class. -/
  name : ClassName
  /-- Name of the super class, where there is one. -/
  superName : Option ClassName
  deriving DecidableEq

/-- Why octets are no class file. -/
inductive HeaderError where
  /-- The octets end inside the header. -/
  | unexpectedEnd
  /-- The first four octets are others than `classMagic`. -/
  | invalidMagic
  /-- A constant has an unknown tag. -/
  | unsupportedConstant (tag : UInt8)
  /-- An index leads to no constant of the kind expected there. -/
  | invalidIndex (index : UInt16)
  /-- A text constant is no UTF-8. -/
  | invalidText (fault : Utf8.Fault)
  /-- The text that names a class is no class name. -/
  | invalidName (error : NameError)
  deriving DecidableEq, Repr

/-- Wording of a header error. -/
def HeaderError.message : HeaderError → String
  | .unexpectedEnd => "unexpected end of class file"
  | .invalidMagic => "invalid class file magic header"
  | .unsupportedConstant tag => s!"unsupported constant pool tag {tag.toNat}"
  | .invalidIndex index => s!"invalid constant pool index {index.toNat}"
  | .invalidText fault => s!"invalid UTF-8 string in constant pool: {fault.message}"
  | .invalidName error => s!"invalid class name in constant pool: {error.message}"

instance : ToString HeaderError := ⟨HeaderError.message⟩

namespace ClassFile

/-! ## Reading numbers and constants -/

/-- The next octets, and what follows them. -/
def takeBytes (count : Nat) (bytes : Bytes) : Except HeaderError (Bytes × Bytes) :=
  if count ≤ bytes.length then .ok (bytes.splitAt count) else .error .unexpectedEnd

/-- A one-octet number. -/
def readU1 : Bytes → Except HeaderError (UInt8 × Bytes)
  | value :: rest => .ok (value, rest)
  | [] => .error .unexpectedEnd

/-- The number that two octets spell. -/
def u2OfBytes (high low : UInt8) : UInt16 := UInt16.ofNat (high.toNat * 256 + low.toNat)

/-- A two-octet number. -/
def readU2 : Bytes → Except HeaderError (UInt16 × Bytes)
  | high :: low :: rest => .ok (u2OfBytes high low, rest)
  | _ => .error .unexpectedEnd

/-- A text constant, after its tag. -/
def readText (bytes : Bytes) : Except HeaderError (Constant × Bytes) := do
  let (length, rest) ← readU2 bytes
  let (content, rest) ← takeBytes length.toNat rest
  match Utf8.decode content with
  | .ok value => .ok (.text value, rest)
  | .error fault => .error (.invalidText fault)

/-- A constant with its tag. -/
def readConstant (bytes : Bytes) : Except HeaderError (Constant × Bytes) := do
  let (tag, rest) ← readU1 bytes
  if tag = Constant.textTag then readText rest
  else if tag = Constant.classTag then
    let (nameIndex, rest) ← readU2 rest
    .ok (.classRef nameIndex, rest)
  else
    match PlainKind.ofTag? tag with
    | none => .error (.unsupportedConstant tag)
    | some kind =>
      let (payload, rest) ← takeBytes kind.payloadSize rest
      .ok (.plain kind payload, rest)

/-- Constants that fill a number of slots; a wide constant in the last slot reaches beyond it. -/
def readSlots : Nat → Bytes → Except HeaderError (Slots × Bytes)
  | 0, bytes => .ok ([], bytes)
  | 1, bytes => do
    let (constant, rest) ← readConstant bytes
    .ok (constant.slots, rest)
  | count + 2, bytes => do
    let (constant, rest) ← readConstant bytes
    let (slots, rest) ← if constant.isWide then readSlots count rest else readSlots (count + 1) rest
    .ok (constant.slots ++ slots, rest)

/-! ## Naming the class -/

/-- The text in a slot. -/
def Slots.text (slots : Slots) (index : UInt16) : Except HeaderError String :=
  match slots.constant? index with
  | some (.text value) => .ok value
  | _ => .error (.invalidIndex index)

/-- The text that a class reference leads to. -/
def Slots.classText (slots : Slots) (index : UInt16) : Except HeaderError String :=
  match slots.constant? index with
  | some (.classRef nameIndex) => slots.text nameIndex
  | _ => .error (.invalidIndex index)

/-- The class that a reference names. -/
def Slots.className (slots : Slots) (index : UInt16) : Except HeaderError ClassName := do
  let text ← slots.classText index
  match ClassName.ofSlashed text with
  | .ok name => .ok name
  | .error error => .error (.invalidName error)

/-- The super class; index zero stands for none. -/
def Slots.superName (slots : Slots) (index : UInt16) : Except HeaderError (Option ClassName) :=
  if index = 0 then .ok none else some <$> slots.className index

end ClassFile

open ClassFile in
/-- Reads the header at the beginning of a class file. -/
def ClassHeader.read (bytes : Bytes) : Except HeaderError ClassHeader := do
  let (magic, rest) ← takeBytes 4 bytes
  if magic ≠ classMagic then .error .invalidMagic
  else
    let (minorVersion, rest) ← readU2 rest
    let (majorVersion, rest) ← readU2 rest
    let (count, rest) ← readU2 rest
    let (slots, rest) ← readSlots (count.toNat - 1) rest
    let (accessFlags, rest) ← readU2 rest
    let (thisClass, rest) ← readU2 rest
    let (superClass, _) ← readU2 rest
    let name ← slots.className thisClass
    let superName ← slots.superName superClass
    .ok { minorVersion, majorVersion, accessFlags, name, superName }

end ClassEnhancement
