import LinkedCharts.Text.Hex
import LinkedCharts.Text.Split

/-!
# Tables of characters

The characters with a property are listed as a text of ranges. A range is a word in hexadecimal: the
codes of its first and its last character with a hyphen between them, or the one code that it has.

Results:
* `codeRanges`: the ranges that a text lists.
* `covers`: a character is in one of the ranges.
-/

namespace LinkedCharts.Text

/-- Characters from one code to another. -/
structure CodeRange where
  first : Nat
  last : Nat
deriving DecidableEq

namespace CodeRange

/-- The code is in the range. -/
def Covers (r : CodeRange) (n : Nat) : Prop := r.first ≤ n ∧ n ≤ r.last

instance (r : CodeRange) (n : Nat) : Decidable (r.Covers n) := inferInstanceAs (Decidable (_ ∧ _))

/-- A range from a word such as `41-5a` or `aa`. -/
def ofWord (word : List Char) : CodeRange :=
  let ends := (splitBy (· == '-') word).map hexNumber
  ⟨ends.headD 0, ends.getLastD 0⟩

end CodeRange

/-- The ranges that a text lists. -/
def codeRanges (table : String) : List CodeRange := (words table).map CodeRange.ofWord

/-- The character is in one of the ranges. -/
def covers (ranges : List CodeRange) (c : Char) : Bool := ranges.any fun r => r.Covers c.toNat

end LinkedCharts.Text
