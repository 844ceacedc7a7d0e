/-!
# Ranges of code points

A property of characters that a standard lists as data is a list of closed ranges of code points.
This file holds membership in such a list; the tables themselves stand in the modules named for
the property.
-/

namespace ClassEnhancement
namespace Text

/-- A closed range of code points, given by its first and last member. -/
abbrev CodeRange := Nat × Nat

/-- Membership of a character in one of the ranges. -/
def inRanges (ranges : List CodeRange) (c : Char) : Bool :=
  ranges.any fun range => range.1 ≤ c.toNat && c.toNat ≤ range.2

end Text
end ClassEnhancement
