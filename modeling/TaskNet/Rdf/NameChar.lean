/-!
# Characters of names

The characters that names in linked documents and in XML are made of.
-/

namespace TaskNet.Rdf

/-- Whether a number lies in one of the ranges. -/
def inRanges (ranges : List (Nat × Nat)) (number : Nat) : Bool :=
  ranges.any fun (low, high) => low ≤ number && number ≤ high

/-- The letters that a name may begin with, underscores apart. -/
def isNameLetter (c : Char) : Bool :=
  c.isAlpha ||
    inRanges [(0xC0, 0xD6), (0xD8, 0xF6), (0xF8, 0x2FF), (0x370, 0x37D), (0x37F, 0x1FFF),
      (0x200C, 0x200D), (0x2070, 0x218F), (0x2C00, 0x2FEF), (0x3001, 0xD7FF), (0xF900, 0xFDCF),
      (0xFDF0, 0xFFFD), (0x10000, 0xEFFFF)] c.toNat

/-- The characters that a name may begin with. -/
def isNameStart (c : Char) : Bool := isNameLetter c || c = '_'

/-- The characters that a name may go on with, dots apart. -/
def isNameChar (c : Char) : Bool :=
  isNameStart c || c = '-' || c.isDigit ||
    inRanges [(0xB7, 0xB7), (0x300, 0x36F), (0x203F, 0x2040)] c.toNat

end TaskNet.Rdf
