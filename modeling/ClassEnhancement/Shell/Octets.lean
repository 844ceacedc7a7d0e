import ClassEnhancement.FilePath
import ClassEnhancement.Text.Utf8

/-!
# Text as octets

A shell knows no characters but octets.  Inside it every character of a text stands for one octet,
so that any contents of a file can be the value of a variable.
-/

namespace ClassEnhancement
namespace Shell

/-- The text in which every octet is one character. -/
def textOfBytes (bytes : Bytes) : String :=
  String.ofList (bytes.map fun octet => Char.ofNat octet.toNat)

/-- The octets of a text. -/
def bytesOfText (text : String) : Bytes := text.toList.map fun c => UInt8.ofNat c.toNat

/-- A text from outside, octet by octet. -/
def textFrom (text : String) : String := textOfBytes (Utf8.encode text)

/-- The path that a text denotes. -/
def pathOfText (text : String) : FilePath := ⟨Utf8.decodeLenient (bytesOfText text)⟩

/-- A text without the line feeds at its end. -/
def withoutLineEnds (text : String) : String :=
  String.ofList (text.toList.reverse.dropWhile (· == '\n')).reverse

@[simp]
theorem bytesOfText_textOfBytes (bytes : Bytes) : bytesOfText (textOfBytes bytes) = bytes := by
  have octet (value : UInt8) : UInt8.ofNat (Char.ofNat value.toNat).toNat = value := by
    have small : value.toNat < 256 := value.toNat_lt
    have valid : value.toNat.isValidChar := .inl (by omega)
    have code : (Char.ofNat value.toNat).toNat = value.toNat := by
      rw [Char.ofNat, dif_pos valid]
      rfl
    rw [code, UInt8.ofNat_toNat]
  simp [bytesOfText, textOfBytes, Function.comp_def, octet]

end Shell
end ClassEnhancement
