/-!
# Blank characters

The characters with the Unicode property White_Space, and the removal of blanks from both ends of a
text. U+FEFF and the separators U+001C to U+001F are not blank.
-/

namespace ChainBroker.Text

/-- Whether the character has the property White_Space. -/
def isBlank (c : Char) : Bool :=
  let n := c.toNat
  (0x09 ≤ n && n ≤ 0x0D) || n == 0x20 || n == 0x85 || n == 0xA0 || n == 0x1680 ||
    (0x2000 ≤ n && n ≤ 0x200A) || n == 0x2028 || n == 0x2029 || n == 0x202F || n == 0x205F ||
    n == 0x3000

/-- The text without the blanks at its start and at its end. -/
def trim (s : List Char) : List Char :=
  ((s.dropWhile isBlank).reverse.dropWhile isBlank).reverse

/-- Whether the text holds nothing but blanks. -/
def isBlankText (s : String) : Bool := s.toList.all isBlank

end ChainBroker.Text
