/-! Blank text. A character is blank when Unicode calls it white space; zero-width characters and
    the separators U+001C to U+001F are not. Text is blank when all its characters are, and
    trimming removes the blank characters at both ends. -/

namespace BoundSql.Text

/-- The inclusive ranges of white space. -/
def blankRanges : List (Nat × Nat) :=
  [(0x9, 0xd), (0x20, 0x20), (0x85, 0x85), (0xa0, 0xa0), (0x1680, 0x1680), (0x2000, 0x200a),
   (0x2028, 0x2029), (0x202f, 0x202f), (0x205f, 0x205f), (0x3000, 0x3000)]

/-- Whether a code point lies in one of the inclusive ranges. -/
def inRanges (ranges : List (Nat × Nat)) (n : Nat) : Bool :=
  ranges.any fun r => r.1 ≤ n && n ≤ r.2

def isBlankChar (c : Char) : Bool := inRanges blankRanges c.toNat

/-- The characters without the blank ones at either end. -/
def trimChars (cs : List Char) : List Char :=
  ((cs.dropWhile isBlankChar).reverse.dropWhile isBlankChar).reverse

def trim (s : String) : String := String.ofList (trimChars s.toList)

def isBlank (s : String) : Bool := s.toList.all isBlankChar

end BoundSql.Text
