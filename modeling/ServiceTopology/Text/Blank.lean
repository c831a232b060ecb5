/-!
# Blank characters

Two classes of characters count as blank space around a number written as text. Around an integer they
are the characters with the Unicode property White_Space; around a ratio the four information
separators belong to the class as well.

White space between the tokens of a JSON document is a smaller class of its own and is not treated here.
-/

namespace ServiceTopology.Text

/-- Test whether a character lies in one of the closed ranges of code points. -/
def inRanges (ranges : List (Nat × Nat)) (c : Char) : Bool :=
  ranges.any fun range => range.1 ≤ c.toNat && c.toNat ≤ range.2

/-- Closed ranges of the code points with the property White_Space, ascending and apart. -/
def whiteSpaceRanges : List (Nat × Nat) :=
  [(0x09, 0x0D), (0x20, 0x20), (0x85, 0x85), (0xA0, 0xA0), (0x1680, 0x1680), (0x2000, 0x200A),
   (0x2028, 0x2029), (0x202F, 0x202F), (0x205F, 0x205F), (0x3000, 0x3000)]

/-- Test for the property White_Space. -/
def isWhiteSpace (c : Char) : Bool := inRanges whiteSpaceRanges c

/-- Test for white space or one of the four information separators. -/
def isSpacing (c : Char) : Bool := isWhiteSpace c || inRanges [(0x1C, 0x1F)] c

/-- Drop the leading and the trailing characters of a class. -/
def trim (drop : Char → Bool) (text : List Char) : List Char :=
  ((text.dropWhile drop).reverse.dropWhile drop).reverse

end ServiceTopology.Text
