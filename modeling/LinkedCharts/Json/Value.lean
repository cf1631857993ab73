import LinkedCharts.Decimal.Shortest
import LinkedCharts.Text.Hex

/-!
# JSON values and their text

A JSON value as a program holds it. Numbers are whole numbers of 64 bits, signed or not, or binary
floating-point numbers, and the text keeps the two apart: a floating-point number is always written
with a point or an exponent.

Results:
* `Value.field?`: the value stored under a key of an object.
* `Value.real`: a floating-point number as a value; what is not finite becomes `null`.
* `Value.text`: the compact text of a value.
-/

namespace LinkedCharts.Json

/-- A number of a JSON value. -/
inductive Number
  | whole (value : Int)
  | real (value : Binary64)
deriving DecidableEq

/-- The number as a floating-point number, rounded if it is a large whole number. -/
def Number.toBinary64 : Number → Binary64
  | .whole i => .ofInt i
  | .real x => x

/-- A JSON value. Fields of an object keep the order in which they were put. -/
inductive Value
  | null
  | bool (value : Bool)
  | number (value : Number)
  | string (value : String)
  | array (items : List Value)
  | object (fields : List (String × Value))

namespace Value

instance : Inhabited Value := ⟨.null⟩

/-! ## Building and looking up -/

/-- A floating-point number; JSON has no infinities and no NaN, so these become `null`. -/
def real (x : Binary64) : Value := if x.isFinite then .number (.real x) else .null

/-- A natural as a whole number. -/
def ofNat (n : Nat) : Value := .number (.whole n)

/-- The value under a key of a list of fields; the first one counts. -/
def lookup (key : String) : List (String × Value) → Option Value
  | [] => none
  | (k, v) :: rest => if k = key then some v else lookup key rest

/-- The value under a key of an object. -/
def field? (key : String) : Value → Option Value
  | .object fields => lookup key fields
  | _ => none

/-! ## Text -/

/-- A character inside a quoted string: quotes, backslashes and control characters are escaped, the
    latter by a letter where there is one. -/
def escaped (c : Char) : List Char :=
  if c = '"' then ['\\', '"']
  else if c = '\\' then ['\\', '\\']
  else if c = '\n' then ['\\', 'n']
  else if c = '\r' then ['\\', 'r']
  else if c = '\t' then ['\\', 't']
  else if c.toNat = 0x08 then ['\\', 'b']
  else if c.toNat = 0x0c then ['\\', 'f']
  else if c.toNat < 0x20 then
    ['\\', 'u', '0', '0', Text.hexDigit (c.toNat / 16), Text.hexDigit (c.toNat % 16)]
  else [c]

/-- A string between quotes. -/
def quoted (s : String) : List Char := '"' :: (s.toList.flatMap escaped ++ ['"'])

/-- A magnitude in the fewest digits that identify it, of two nearest decimals the even one. The
    digits stand in their places, with `.0` behind a whole number, while the first of them has an
    exponent from -5 to 15; otherwise an exponent is written. -/
def realDigits (d : Decimal) : List Char :=
  if -5 ≤ d.order ∧ d.order < 16 then
    if 0 ≤ d.scale then d.positional ++ ['.', '0'] else d.positional
  else d.scientific

/-- The text of a number. -/
def numberText : Number → List Char
  | .whole i => if i < 0 then '-' :: Nat.toDigits 10 i.natAbs else Nat.toDigits 10 i.natAbs
  | .real (.finite s n _) =>
    let digits := if n = 0 then ['0', '.', '0'] else realDigits (Decimal.shortest .even n)
    if s then '-' :: digits else digits
  | .real (.infinite _) | .real .nan => "null".toList

mutual

/-- The compact text of a value. -/
def write : Value → List Char
  | .null => "null".toList
  | .bool true => "true".toList
  | .bool false => "false".toList
  | .number n => numberText n
  | .string s => quoted s
  | .array items => '[' :: (writeItems items ++ [']'])
  | .object fields => '{' :: (writeFields fields ++ ['}'])

/-- Items with commas between them. -/
def writeItems : List Value → List Char
  | [] => []
  | [v] => write v
  | v :: rest => write v ++ ',' :: writeItems rest

/-- Keys and values with commas between them. -/
def writeFields : List (String × Value) → List Char
  | [] => []
  | [(k, v)] => quoted k ++ ':' :: write v
  | (k, v) :: rest => quoted k ++ ':' :: (write v ++ ',' :: writeFields rest)

end

/-- The compact text of a value. -/
def text (v : Value) : String := String.ofList v.write

end Value

end LinkedCharts.Json
