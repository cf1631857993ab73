/-!
# Binary floating-point numbers of 64 bits

Every finite number of the format is a whole multiple of one smallest step, `2 ^ -1074`. A finite
number is therefore kept as a sign and a count of steps, and its order and its sums are the order
and the sums of integers; only rounding (in `LinkedCharts.Binary64.Rounding`) is special to the
format.

Results:
* `Binary64`: signed zeros, finite numbers, the two infinities and a single NaN.
* `Binary64.place`: the place of a number on the line of steps; `≤` and `<` compare places, so that
  the two zeros are equal and a NaN compares with nothing.
* `Binary64.rank`: a key for the total order in which `-0` stands below `0`.
-/

namespace LinkedCharts

-- Powers of naturals are those of the core library, also where a monoid of naturals is known.
attribute [instance (high)] instPowNat

namespace Binary64

/-! ## Magnitudes -/

/-- The first number of steps that is too large for a finite number. -/
def limit : Nat := 2 ^ (2098 : Nat)

/-- Distance, in steps, between neighbouring magnitudes at `n`: one step below `2 ^ 53`, and then
    doubling with every power of two, so that 53 significant bits are kept. -/
def spacing (n : Nat) : Nat := 2 ^ (n.log2 - 52)

/-- A number of steps that the format can hold: below the limit and on the grid of its spacing. -/
def Fits (n : Nat) : Prop := n < limit ∧ n % spacing n = 0

instance (n : Nat) : Decidable (Fits n) := inferInstanceAs (Decidable (_ ∧ _))

theorem fits_zero : Fits 0 := by decide +kernel

end Binary64

/-- A 64-bit binary floating-point number, finite numbers in steps of `2 ^ -1074`. -/
inductive Binary64
  | finite (negative : Bool) (steps : Nat) (fits : Binary64.Fits steps)
  | infinite (negative : Bool)
  | nan
deriving DecidableEq

namespace Binary64

/-- Zero, with the sign it carries. -/
def zero (negative : Bool) : Binary64 := .finite negative 0 fits_zero

instance : Inhabited Binary64 := ⟨zero false⟩

/-- The number is neither an infinity nor a NaN. -/
def isFinite : Binary64 → Bool
  | .finite .. => true
  | .infinite _ | .nan => false

/-- A count of steps with a sign. -/
def signed (negative : Bool) (steps : Nat) : Int := if negative then -(steps : Int) else steps

/-! ## Order -/

/-- The place on the line of steps. The infinities stand at the limit, outside all finite numbers;
    a NaN has no place. -/
def place : Binary64 → Option Int
  | .finite s n _ => some (signed s n)
  | .infinite s => some (signed s limit)
  | .nan => none

/-- Both numbers have a place and the first is not after the second. -/
protected def le (x y : Binary64) : Prop :=
  match x.place, y.place with
  | some a, some b => a ≤ b
  | _, _ => False

/-- Both numbers have a place and the first is before the second. -/
protected def lt (x y : Binary64) : Prop :=
  match x.place, y.place with
  | some a, some b => a < b
  | _, _ => False

instance : LE Binary64 := ⟨Binary64.le⟩
instance : LT Binary64 := ⟨Binary64.lt⟩

instance (x y : Binary64) : Decidable (x ≤ y) := by
  unfold LE.le instLE Binary64.le; dsimp only; split <;> infer_instance

instance (x y : Binary64) : Decidable (x < y) := by
  unfold LT.lt instLT Binary64.lt; dsimp only; split <;> infer_instance

/-- Numeric equality: the same place. The two zeros are equal, a NaN equals nothing. -/
def Same (x y : Binary64) : Prop := x ≤ y ∧ y ≤ x

instance (x y : Binary64) : Decidable (Same x y) := inferInstanceAs (Decidable (_ ∧ _))

/-- The key of the total order: by place, `-0` before `0`, a NaN after everything. -/
def rank : Binary64 → Int
  | .finite s n _ => if s then -(n : Int) - 1 else n
  | .infinite s => if s then -(limit : Int) - 1 else limit
  | .nan => limit + 1

/-- The smaller of two numbers; a NaN gives way to the other, and of equals the second is taken. -/
def min (x y : Binary64) : Binary64 :=
  if y = .nan then x else if x < y then x else y

/-- The larger of two numbers; a NaN gives way to the other, and of equals the second is taken. -/
def max (x y : Binary64) : Binary64 :=
  if y = .nan then x else if y < x then x else y

end Binary64

end LinkedCharts
