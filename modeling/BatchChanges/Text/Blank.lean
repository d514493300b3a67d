/-! # White space

The characters with the Unicode property White_Space. They are skipped between the parts of a
timestamp, and a file that holds nothing else counts as empty.
-/

namespace BatchChanges.Text

/-- The characters with the property White_Space. -/
def isBlank (c : Char) : Bool :=
  let code := c.toNat
  (0x09 ≤ code && code ≤ 0x0d) || code == 0x20 || code == 0x85 || code == 0xa0 || code == 0x1680 ||
    (0x2000 ≤ code && code ≤ 0x200a) || code == 0x2028 || code == 0x2029 || code == 0x202f ||
    code == 0x205f || code == 0x3000

/-- The text from its first character on that is not white space. -/
def trimLeft (chars : List Char) : List Char := chars.dropWhile isBlank

/-- Whether a text is white space from end to end. -/
def isAllBlank (chars : List Char) : Bool := chars.all isBlank

end BatchChanges.Text
