import LinkedCharts.Decimal.Basic

/-!
# The shortest decimal that reads back

A binary number is written with as few digits as identify it: grids of one significant digit, of
two, and so on up to seventeen are tried, and on each only the two neighbours of the value can read
back. The first grid with a hit decides; of two hits the nearer is taken. These are the digits of
`format_from` and of the texts of `ChartSyncError`.

Results:
* `Decimal.onGrid`: the neighbour of a value on a grid of decimals that reads back.
* `Decimal.shortest`: the decimal of fewest digits that reads back.
* `Binary64.text`: a number written out in full, without an exponent.
-/

namespace LinkedCharts

namespace Decimal

open Binary64

/-- Which of two equally near decimals is taken. -/
inductive Tie
  | even
  | up
deriving DecidableEq

/-- The decimal rounds to just this many steps. -/
def ReadsBack (d : Decimal) (steps : Nat) : Prop := d.nearest = steps

instance (d : Decimal) (steps : Nat) : Decidable (d.ReadsBack steps) :=
  inferInstanceAs (Decidable (_ = _))

/-- The neighbour of `steps` among the multiples of `10 ^ e` that reads back, if one does. -/
def onGrid (tie : Tie) (steps : Nat) (e : Int) : Option Decimal :=
  let num := steps * 10 ^ (-e).toNat
  let den := 10 ^ e.toNat * stepsPerOne
  let below := num / den
  let rest := num % den
  let down : Decimal := ⟨below, e⟩
  let up : Decimal := ⟨below + 1, e⟩
  if down.ReadsBack steps then
    if up.ReadsBack steps ∧ ¬ (2 * rest < den ∨ (2 * rest = den ∧ tie = .even ∧ below % 2 = 0))
    then some up else some down
  else if up.ReadsBack steps then some up else none

/-- The least `k` such that the value of `steps` is below `10 ^ k`. -/
def topPower (steps : Nat) : Int :=
  if stepsPerOne ≤ steps then ((Nat.toDigits 10 (steps / stepsPerOne)).length : Int)
  else 1 - ((Nat.toDigits 10 ((stepsPerOne - 1) / steps)).length : Int)

/-- The value of `steps` itself, in all its digits. -/
def exact (steps : Nat) : Decimal := ⟨steps * 5 ^ (1074 : Nat), -1074⟩

/-- The decimal of fewest digits that reads back to `steps`. -/
def shortest (tie : Tie) (steps : Nat) : Decimal :=
  if steps = 0 then ⟨0, 0⟩
  else ((List.range 17).findSome? fun (i : Nat) => onGrid tie steps (topPower steps - (i + 1))).getD
    (exact steps)

end Decimal

namespace Binary64

/-- A minus sign for what is negative, and the text of the magnitude. -/
def withSign (negative : Bool) (text : List Char) : String :=
  String.ofList (if negative then '-' :: text else text)

/-- The number in the fewest digits that identify it, all in their places: `1000`, `0.1`, `-0`.
    Of two nearest decimals of that length the larger is taken. -/
def text : Binary64 → String
  | .finite s n _ => withSign s (Decimal.shortest .up n).positional
  | .infinite s => withSign s "inf".toList
  | .nan => "NaN"

end Binary64

end LinkedCharts
