/-!
# Blank text

An identifier is blank when nothing but white space is written in it. White space is
the Unicode property `White_Space`, so an ideographic space is blank and a zero width
space is not.
-/

namespace ServiceMesh.Text

/-- The characters with the Unicode property `White_Space`. -/
def isBlankChar (c : Char) : Bool :=
  let n := c.toNat
  (0x09 ≤ n && n ≤ 0x0D) || n == 0x20 || n == 0x85 || n == 0xA0 || n == 0x1680 ||
    (0x2000 ≤ n && n ≤ 0x200A) || n == 0x2028 || n == 0x2029 || n == 0x202F ||
    n == 0x205F || n == 0x3000

/-- A text without any character that is not white space. -/
def isBlank (s : String) : Bool := s.toList.all isBlankChar

end ServiceMesh.Text
