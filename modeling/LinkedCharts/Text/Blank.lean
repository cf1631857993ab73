/-!
# Blank characters

The 25 characters with the property White_Space.

Results:
* `isBlank`: the property.
* `trim`: a text without blanks at its ends.
-/

namespace LinkedCharts.Text

/-- A character that counts as white space. -/
def isBlank (c : Char) : Bool :=
  let n := c.toNat
  (9 ≤ n && n ≤ 13) || n == 0x20 || n == 0x85 || n == 0xa0 || n == 0x1680 ||
    (0x2000 ≤ n && n ≤ 0x200a) || n == 0x2028 || n == 0x2029 || n == 0x202f || n == 0x205f ||
    n == 0x3000

/-- The characters without the blanks in front and behind. -/
def trim (cs : List Char) : List Char :=
  ((cs.dropWhile isBlank).reverse.dropWhile isBlank).reverse

/-- A letter of the Latin alphabet in lower case; all else as it is. -/
def lowerAscii (c : Char) : Char := c.toLower

/-- The texts differ at most in the case of Latin letters. -/
def sameIgnoringCase (a b : List Char) : Bool := a.map lowerAscii == b.map lowerAscii

end LinkedCharts.Text
