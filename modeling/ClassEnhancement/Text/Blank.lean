/-!
# White space

White space is the Unicode property `White_Space`.  Text is taken apart as a list of characters:
trimming removes blank characters at the ends, and `words` are the pieces between them.
-/

namespace ClassEnhancement
namespace Text

/-- White space of every script: the Unicode property `White_Space`. -/
def isBlank (c : Char) : Bool :=
  let code := c.toNat
  (0x9 ≤ code && code ≤ 0xd) || code == 0x20 || code == 0x85 || code == 0xa0 || code == 0x1680 ||
    (0x2000 ≤ code && code ≤ 0x200a) || code == 0x2028 || code == 0x2029 || code == 0x202f ||
    code == 0x205f || code == 0x3000

/-- Text without the leading characters that satisfy a test. -/
def dropStart (test : Char → Bool) (text : List Char) : List Char := text.dropWhile test

/-- Text without the trailing characters that satisfy a test. -/
def dropEnd (test : Char → Bool) (text : List Char) : List Char :=
  (text.reverse.dropWhile test).reverse

/-- Text without white space at either end. -/
def trim (text : List Char) : List Char := dropEnd isBlank (dropStart isBlank text)

/-- The pieces of a text between white space. -/
def words (text : List Char) : List (List Char) :=
  (text.splitOnP isBlank).filter fun piece => !piece.isEmpty

example : trim " a b\t".toList = "a b".toList := by decide
example : words " a  b\t".toList = ["a".toList, "b".toList] := by decide

end Text
end ClassEnhancement
