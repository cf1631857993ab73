/-!
# Punycode

A label of a domain name is written in ASCII with its ASCII characters first and a hyphen behind
them. The other characters follow in ascending order, each as a number that says how far to go from
the one before: a step to the next place in the label, and past the last place to the next
character. The numbers have digits of base 36, the lowest first, and end at the first digit below
a threshold. The thresholds follow the size of the numbers so far.

Results:
* `Punycode.encode`: a label in ASCII.
* `Punycode.decode?`: the label that an ASCII text stands for.
-/

namespace LinkedCharts.Url.Punycode

/-! ## Digits -/

/-- The digit of a value below 36. -/
def digit (n : Nat) : Char := if n < 26 then Char.ofNat (97 + n) else Char.ofNat (22 + n)

/-- The value of a digit. -/
def digitValue? (c : Char) : Option Nat :=
  if 'a' ≤ c ∧ c ≤ 'z' then some (c.toNat - 97)
  else if 'A' ≤ c ∧ c ≤ 'Z' then some (c.toNat - 65)
  else if c.isDigit then some (c.toNat - 22)
  else none

/-- A digit below this is the last of its number; the place counts from 36 in steps of 36. -/
def threshold (bias place : Nat) : Nat := max 1 (min 26 (place - bias))

/-- Divides until the rest is small, and counts 36 for every division. -/
def shrink (delta count : Nat) : Nat :=
  if 455 < delta then shrink (delta / 35) (count + 36) else count + 36 * delta / (delta + 38)
termination_by delta
decreasing_by exact Nat.div_lt_self (by omega) (by omega)

/-- The bias after a number, in a label that has reached some length. The first number counts less,
    since it spans the way to the script of the label. -/
def adapt (first : Bool) (delta length : Nat) : Nat :=
  let delta := if first then delta / 700 else delta / 2
  shrink (delta + delta / length) 0

/-! ## Encoding -/

/-- A number in digits. -/
def digits (bias place n : Nat) : List Char :=
  let t := threshold bias place
  if n < t then [digit n]
  else digit (t + (n - t) % (36 - t)) :: digits bias (place + 36) ((n - t) / (36 - t))
termination_by n
decreasing_by
  have low : 1 ≤ threshold bias place := by unfold threshold; omega
  have := Nat.div_le_self (n - threshold bias place) (36 - threshold bias place)
  omega

/-- A label that is being written. -/
structure Writing where
  output : List Char
  bias : Nat
  /-- places passed since the last number -/
  delta : Nat
  /-- characters of the label that are written -/
  length : Nat

/-- Passes a place of the label while the characters of one code are written. The codes below it are
    written already. -/
def Writing.pass (basic code : Nat) (w : Writing) (c : Char) : Writing :=
  if c.toNat < code then { w with delta := w.delta + 1 }
  else if c.toNat = code then
    ⟨w.output ++ digits w.bias 36 w.delta, adapt (w.length = basic) w.delta (w.length + 1), 0,
      w.length + 1⟩
  else w

/-- Writes the characters of some codes in ascending order, from the code `next` on. -/
def Writing.passAll (label : List Char) (basic : Nat) : Nat → Writing → List Nat → Writing
  | _, w, [] => w
  | next, w, code :: rest =>
    let w := { w with delta := w.delta + (code - next) * (w.length + 1) }
    let w := label.foldl (Writing.pass basic code) w
    passAll label basic (code + 1) { w with delta := w.delta + 1 } rest

/-- A label in ASCII. -/
def encode (label : List Char) : List Char :=
  let basic := label.filter fun c => c.toNat < 0x80
  let codes := ((label.map Char.toNat).filter (0x80 ≤ ·)).mergeSort.eraseDups
  let front := if basic.isEmpty then [] else basic ++ ['-']
  front ++ (Writing.passAll label basic.length 0x80 ⟨[], 72, 0, basic.length⟩ codes).output

/-! ## Decoding -/

/-- A label that is being read. -/
structure Reading where
  label : List Char
  /-- the code of the last character -/
  code : Nat
  /-- where the next character would go if it had the same code -/
  position : Nat
  bias : Nat
  /-- the part of a number that was read, with the place and the weight of its next digit -/
  delta : Nat
  place : Nat
  weight : Nat

/-- Puts in the character that a whole number leads to. -/
def Reading.insert (r : Reading) : Option Reading :=
  let length := r.label.length + 1
  let target := r.position + r.delta
  let code := r.code + target / length
  let position := target % length
  if code.isValidChar then
    some ⟨r.label.insertIdx position (Char.ofNat code), code, position + 1,
      adapt (r.position = 0) r.delta length, 0, 36, 1⟩
  else none

/-- A weight beyond this does not fit into 32 bits. -/
def weightLimit : Nat := 2 ^ (32 : Nat)

/-- Reads a digit. -/
def Reading.read (r : Reading) (c : Char) : Option Reading := do
  let d ← digitValue? c
  let t := threshold r.bias r.place
  let r := { r with delta := r.delta + d * r.weight }
  if d < t then r.insert
  else if weightLimit ≤ r.weight * (36 - t) then none
  else some { r with place := r.place + 36, weight := r.weight * (36 - t) }

/-- The label that an ASCII text stands for. What stands before the last hyphen is ASCII; a hyphen
    in front of all else has nothing before it, and is no digit. -/
def decode? (cs : List Char) : Option (List Char) := do
  let tail := (cs.reverse.takeWhile (· != '-')).reverse
  let front := (cs.take (cs.length - tail.length)).dropLast
  if cs.head? = some '-' ∧ front.isEmpty then none
  else if front.any fun c => 0x80 ≤ c.toNat then none
  else
    let r ← tail.foldlM Reading.read ⟨front, 0x80, 0, 72, 0, 36, 1⟩
    if r.place = 36 then some r.label else none

end LinkedCharts.Url.Punycode
