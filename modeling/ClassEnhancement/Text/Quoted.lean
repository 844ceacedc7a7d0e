import ClassEnhancement.Text.Printable

/-!
# Quoted text

Diagnostic output shows a string between double quotes.  Quotes and backslashes are preceded by a
backslash, the usual control characters have letters, and every other character that cannot be
read on its own is written by its code point.
-/

namespace ClassEnhancement
namespace Text

/-- Lower-case hexadecimal digits of a number, without leading zeros. -/
def hexDigits (n : Nat) : String := String.ofList (Nat.toDigits 16 n)

/-- One character as it stands inside quotes. -/
def quotedChar (c : Char) : String :=
  if c = '"' then "\\\""
  else if c = '\\' then "\\\\"
  else if c = '\n' then "\\n"
  else if c = '\r' then "\\r"
  else if c = '\t' then "\\t"
  else if c = '\x00' then "\\0"
  else if isPrintable c then c.toString
  else "\\u\x7b" ++ hexDigits c.toNat ++ "\x7d"

/-- A text between double quotes. -/
def quoted (text : String) : String :=
  "\"" ++ String.join (text.toList.map quotedChar) ++ "\""

/-- A list of shown values between square brackets. -/
def bracketed (items : List String) : String := "[" ++ ", ".intercalate items ++ "]"

example : quoted "a\"b\n" = "\"a\\\"b\\n\"" := by decide
example : quoted "\x01'" = "\"\\u\x7b1\x7d'\"" := by decide

end Text
end ClassEnhancement
