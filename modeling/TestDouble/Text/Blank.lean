/-!
# Blank characters

The characters that count as white space wherever a text must not contain any.
-/

namespace TestDouble.Text

/-- The ranges, ends included, of the code points with the Unicode property `White_Space`. -/
def blankRanges : List (Nat × Nat) :=
  [(0x09, 0x0D), (0x20, 0x20), (0x85, 0x85), (0xA0, 0xA0), (0x1680, 0x1680), (0x2000, 0x200A),
   (0x2028, 0x2029), (0x202F, 0x202F), (0x205F, 0x205F), (0x3000, 0x3000)]

/-- Whether a character is white space. -/
def isBlank (c : Char) : Bool :=
  blankRanges.any fun (first, last) => first ≤ c.toNat && c.toNat ≤ last

/-- Whether some character of a text is white space. -/
def hasBlank (s : String) : Bool := s.toList.any isBlank

end TestDouble.Text
