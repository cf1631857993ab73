import LinkedCharts.Json.Value
import LinkedCharts.Binary64.Arithmetic

/-!
# Reading number literals

A literal without a point and an exponent that fits 64 bits is a whole number. Any other literal is
a floating-point number, read in two roundings: its leading digits, as many as fit an unsigned
64-bit number, are rounded to a floating-point number, and that is multiplied or divided by a power
of ten. Digits in front of the point that did not fit count into the power, digits behind it are
dropped. A literal that is too large for a finite number has no value.

Results:
* `Numeral.ofChars?`: the parts of a literal, if the characters are one.
* `Numeral.number?`: its value.
-/

namespace LinkedCharts.Json

/-- The parts of a number literal: its digits, as numbers below ten, and its exponent. -/
structure Numeral where
  negative : Bool
  whole : List Nat
  fraction : Option (List Nat)
  exponent : Option Int
deriving DecidableEq

namespace Numeral

/-! ## Parts -/

/-- The value of a decimal digit. -/
def digit (c : Char) : Nat := c.toNat - '0'.toNat

/-- Digits read as a natural. -/
def ofDigits (ds : List Nat) : Nat := ds.foldl (fun n d => 10 * n + d) 0

/-- The digits in front, and what follows them. -/
def splitDigits (cs : List Char) : List Nat × List Char :=
  ((cs.takeWhile Char.isDigit).map digit, cs.dropWhile Char.isDigit)

/-- A sign of an exponent in front, and what follows it. -/
def splitSign : List Char → Bool × List Char
  | '-' :: rest => (true, rest)
  | '+' :: rest => (false, rest)
  | cs => (false, cs)

/-- A point and at least one digit, if there is a point; `none` if digits are missing. -/
def readFraction : List Char → Option (Option (List Nat) × List Char)
  | '.' :: rest =>
    match splitDigits rest with
    | ([], _) => none
    | (ds, rest) => some (some ds, rest)
  | cs => some (none, cs)

/-- An exponent of at least one digit, if there is one; `none` if digits are missing. -/
def readExponent (cs : List Char) : Option (Option Int × List Char) :=
  match cs with
  | [] => some (none, [])
  | c :: rest =>
    if c = 'e' ∨ c = 'E' then
      let (negative, rest) := splitSign rest
      match splitDigits rest with
      | ([], _) => none
      | (ds, rest) => some (some (if negative then -(ofDigits ds : Int) else ofDigits ds), rest)
    else some (none, cs)

/-- The parts of a literal: an optional minus, digits without a leading zero unless zero is the only
    one, and then an optional fraction and an optional exponent. -/
def ofChars? (cs : List Char) : Option Numeral := do
  let (negative, cs) := match cs with
    | '-' :: rest => (true, rest)
    | cs => (false, cs)
  let (whole, cs) := splitDigits cs
  match whole with
  | [] => none
  | 0 :: _ :: _ => none
  | _ =>
    let (fraction, cs) ← readFraction cs
    let (exponent, cs) ← readExponent cs
    if cs.isEmpty then some ⟨negative, whole, fraction, exponent⟩ else none

/-! ## Value -/

/-- Digits are gathered while the number that they spell is below this. -/
def wordLimit : Nat := 2 ^ (64 : Nat)

/-- Goes on reading a number digit by digit while it stays below the limit; the number and the count
    of digits that are left. -/
def gather (n : Nat) : List Nat → Nat × Nat
  | [] => (n, 0)
  | d :: ds => if 10 * n + d < wordLimit then gather (10 * n + d) ds else (n, ds.length + 1)

/-- A power of ten as a floating-point number. -/
def powerOfTen (k : Nat) : Binary64 := .ofNat (10 ^ k)

/-- A magnitude times a power of ten, one rounding for every step of at most 308 powers. Too large a
    result has no value. -/
def scaled (x : Binary64) (e : Int) : Option Binary64 :=
  if e.natAbs ≤ 308 then
    if 0 ≤ e then
      let r := x * powerOfTen e.toNat
      if r.isFinite then some r else none
    else some (x / powerOfTen (-e).toNat)
  else if Binary64.Same x 0 then some x
  else if 0 ≤ e then none
  else scaled (x / powerOfTen 308) (e + 308)
termination_by (-e).toNat
decreasing_by omega

/-- The literal as a floating-point number. -/
def real? (l : Numeral) : Option Binary64 :=
  let (lead, left) := gather 0 l.whole
  let (lead, used) := match l.fraction with
    | none => (lead, 0)
    | some ds =>
      let (lead, left) := gather lead ds
      (lead, ds.length - left)
  let magnitude := scaled (.ofNat lead) (l.exponent.getD 0 + left - used)
  magnitude.map fun x => if l.negative then -x else x

/-- The value of the literal. A negative zero is a floating-point number, and so is a whole number
    outside of the 64-bit range of its sign. -/
def number? (l : Numeral) : Option Number :=
  let n := ofDigits l.whole
  if l.fraction.isNone ∧ l.exponent.isNone ∧
      (if l.negative then 0 < n ∧ n ≤ 2 ^ (63 : Nat) else n < wordLimit) then
    some (.whole (if l.negative then -(n : Int) else n))
  else l.real?.map .real

end Numeral

end LinkedCharts.Json
