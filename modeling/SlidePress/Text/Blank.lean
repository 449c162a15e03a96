/-!
White space in the sense of the Unicode property of that name, and the removal of it from the two
ends of a text. Texts are lists of characters here, so that every statement about them is one
about lists; the wrappers on strings only change the container.
-/

namespace SlidePress.Text

/-- The twenty-five characters with the Unicode property `White_Space`. The zero width space and
the byte order mark are not among them. -/
def isBlank (c : Char) : Bool :=
  let code := c.toNat
  (0x9 ≤ code && code ≤ 0xD) || code == 0x20 || code == 0x85 || code == 0xA0 || code == 0x1680 ||
    (0x2000 ≤ code && code ≤ 0x200A) || code == 0x2028 || code == 0x2029 || code == 0x202F ||
    code == 0x205F || code == 0x3000

/-- What is left once the white space in front is gone. -/
def trimLeft (text : List Char) : List Char :=
  text.dropWhile isBlank

/-- What is left once the white space at the end is gone. -/
def trimRight (text : List Char) : List Char :=
  (text.reverse.dropWhile isBlank).reverse

/-- What is left once the white space at both ends is gone. -/
def trim (text : List Char) : List Char :=
  trimRight (trimLeft text)

/-- A text is blank when nothing but white space is in it. -/
def allBlank (text : List Char) : Bool :=
  text.all isBlank

/-- Strips the given character, and no other, from both ends. -/
def trimMatching (mark : Char) (text : List Char) : List Char :=
  ((text.dropWhile (· == mark)).reverse.dropWhile (· == mark)).reverse

/-- The string without the white space at its two ends. -/
def trimmed (text : String) : String :=
  String.ofList (trim text.toList)

/-- Whether a string holds nothing but white space. -/
def isBlankString (text : String) : Bool :=
  allBlank text.toList

end SlidePress.Text
