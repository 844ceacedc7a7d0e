/-!
# UTF-8

Encoding writes a character as one to four octets.  Decoding accepts exactly the shortest form of
every character; where the octets are no such form, the fault names the start of the first bad
sequence and the length of its longest prefix that could have begun a character.  Lenient decoding
replaces every bad sequence by one replacement character.
-/

namespace ClassEnhancement

/-- Contents of a file or of a stream. -/
abbrev Bytes := List UInt8

namespace Utf8

/-! ## Encoding -/

/-- Octets of one character. -/
def encodeChar (c : Char) : Bytes :=
  let code := c.toNat
  if code < 0x80 then [UInt8.ofNat code]
  else if code < 0x800 then [UInt8.ofNat (0xc0 + code / 64), UInt8.ofNat (0x80 + code % 64)]
  else if code < 0x10000 then
    [UInt8.ofNat (0xe0 + code / 4096), UInt8.ofNat (0x80 + code / 64 % 64),
      UInt8.ofNat (0x80 + code % 64)]
  else
    [UInt8.ofNat (0xf0 + code / 262144), UInt8.ofNat (0x80 + code / 4096 % 64),
      UInt8.ofNat (0x80 + code / 64 % 64), UInt8.ofNat (0x80 + code % 64)]

/-- Octets of a list of characters. -/
def encodeChars (text : List Char) : Bytes := text.flatMap encodeChar

/-- Octets of a text. -/
def encode (text : String) : Bytes := encodeChars text.toList

@[simp]
theorem encodeChars_nil : encodeChars [] = [] := rfl

@[simp]
theorem encodeChars_cons (c : Char) (text : List Char) :
    encodeChars (c :: text) = encodeChar c ++ encodeChars text := rfl

@[simp]
theorem encodeChars_append (front back : List Char) :
    encodeChars (front ++ back) = encodeChars front ++ encodeChars back := by
  simp [encodeChars]

/-! ## Decoding -/

/-- What the first octets of a sequence are. -/
inductive Head where
  /-- A character, with the number of octets that follow its first one. -/
  | char (value : Char) (following : Nat)
  /-- Octets that no character starts with, counted without the first one. -/
  | broken (following : Nat)
  /-- The beginning of a character whose remaining octets are missing. -/
  | truncated
  deriving DecidableEq

/-- The least and the greatest second octet that a first octet admits. -/
def secondBounds (first : Nat) : Nat × Nat :=
  if first = 0xe0 then (0xa0, 0xbf)
  else if first = 0xed then (0x80, 0x9f)
  else if first = 0xf0 then (0x90, 0xbf)
  else if first = 0xf4 then (0x80, 0x8f)
  else (0x80, 0xbf)

/-- A second octet that may follow the first. -/
def isSecond (first second : Nat) : Bool :=
  (secondBounds first).1 ≤ second && second ≤ (secondBounds first).2

/-- A third or fourth octet. -/
def isTail (octet : Nat) : Bool := 0x80 ≤ octet && octet ≤ 0xbf

/-- Reads the sequence that an octet begins, given the octets after it. -/
def head (first : UInt8) (rest : Bytes) : Head :=
  let a := first.toNat
  if a < 0x80 then .char (Char.ofNat a) 0
  else if a < 0xc2 || 0xf4 < a then .broken 0
  else
    match rest with
    | [] => .truncated
    | second :: rest =>
      let b := second.toNat
      if !isSecond a b then .broken 0
      else if a < 0xe0 then .char (Char.ofNat ((a - 0xc0) * 64 + (b - 0x80))) 1
      else
        match rest with
        | [] => .truncated
        | third :: rest =>
          let c := third.toNat
          if !isTail c then .broken 1
          else if a < 0xf0 then
            .char (Char.ofNat ((a - 0xe0) * 4096 + (b - 0x80) * 64 + (c - 0x80))) 2
          else
            match rest with
            | [] => .truncated
            | fourth :: _ =>
              let d := fourth.toNat
              if !isTail d then .broken 2
              else
                .char
                  (Char.ofNat
                    ((a - 0xf0) * 262144 + (b - 0x80) * 4096 + (c - 0x80) * 64 + (d - 0x80))) 3

/-- Where and how octets stop being UTF-8. -/
inductive Fault where
  /-- A sequence of `length` octets at `index` begins no character. -/
  | invalid (length index : Nat)
  /-- The octets end inside the character that starts at `index`. -/
  | incomplete (index : Nat)
  deriving DecidableEq, Repr

/-- Wording of a fault. -/
def Fault.message : Fault → String
  | .invalid length index => s!"invalid utf-8 sequence of {length} bytes from index {index}"
  | .incomplete index => s!"incomplete utf-8 byte sequence from index {index}"

instance : ToString Fault := ⟨Fault.message⟩

/-- Decodes from a position, after passing over octets of a character already read. -/
def decodeFrom (index : Nat) : Nat → Bytes → Except Fault (List Char)
  | _, [] => .ok []
  | skip + 1, _ :: rest => decodeFrom (index + 1) skip rest
  | 0, first :: rest =>
    match head first rest with
    | .char value following => (value :: ·) <$> decodeFrom (index + 1) following rest
    | .broken following => .error (.invalid (following + 1) index)
    | .truncated => .error (.incomplete index)

/-- The characters of valid UTF-8. -/
def decodeChars (bytes : Bytes) : Except Fault (List Char) := decodeFrom 0 0 bytes

/-- The text of valid UTF-8. -/
def decode (bytes : Bytes) : Except Fault String := String.ofList <$> decodeChars bytes

/-- The text of valid UTF-8, or nothing. -/
def decode? (bytes : Bytes) : Option String := (decode bytes).toOption

/-- Stands for octets that are no character. -/
def replacement : Char := '\ufffd'

/-- Lenient decoding, after passing over octets already accounted for. -/
def decodeLenientFrom : Nat → Bytes → List Char
  | _, [] => []
  | skip + 1, _ :: rest => decodeLenientFrom skip rest
  | 0, first :: rest =>
    match head first rest with
    | .char value following => value :: decodeLenientFrom following rest
    | .broken following => replacement :: decodeLenientFrom following rest
    | .truncated => [replacement]

/-- The text of octets, with one replacement character for every bad sequence. -/
def decodeLenient (bytes : Bytes) : String := String.ofList (decodeLenientFrom 0 bytes)

example : decode (encode "aé中😀") = .ok "aé中😀" := rfl
example : decode [0x61, 0xe2, 0x28] = .error (.invalid 1 1) := rfl
example : decode [0x61, 0xe2, 0x82] = .error (.incomplete 1) := rfl
example : decodeLenient [0xf0, 0x9f, 0x98, 0x61, 0xff] = "\ufffda\ufffd" := by decide

end Utf8
end ClassEnhancement
