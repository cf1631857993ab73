import LinkedCharts.Text.Split
import LinkedCharts.Url.Encoding

/-!
# Numeric addresses of hosts

An address of four bytes is written with one to four numbers, each decimal, octal after a `0` or
hexadecimal after `0x`; the last number fills the bytes that are left. An address of eight 16-bit
pieces is written in hexadecimal between brackets, where `::` stands for some pieces of zero.

Results:
* `endsInNumber`: a host that can only be an address of four bytes.
* `ipv4?`, `ipv6?`: the addresses that texts stand for.
* `ipv4Text`, `ipv6Text`: the one form in which each is written.
-/

namespace LinkedCharts.Url

/-- Digits of a base read as a natural, if there are only such digits. -/
def number? (base : Nat) (cs : List Char) : Option Nat :=
  cs.foldlM (fun n c =>
    (Text.hexDigit? c).bind fun d => if d < base then some (base * n + d) else none) 0

/-! ## Four bytes -/

/-- One number of an address. -/
def ipv4Number? : List Char → Option Nat
  | [] => none
  | '0' :: 'x' :: rest | '0' :: 'X' :: rest => number? 16 rest
  | '0' :: c :: rest => number? 8 (c :: rest)
  | cs => number? 10 cs

/-- The parts of a name between dots, without an empty one at the end. -/
def dottedParts (cs : List Char) : List (List Char) :=
  let parts := Text.splitBy (· == '.') cs
  if parts.length > 1 ∧ parts.getLast? = some [] then parts.dropLast else parts

/-- The last part is a number, so that the name can only be an address. -/
def endsInNumber (cs : List Char) : Bool :=
  match (dottedParts cs).getLast? with
  | none => false
  | some part => (!part.isEmpty && part.all Char.isDigit) || (ipv4Number? part).isSome

/-- The address that a name stands for. -/
def ipv4? (cs : List Char) : Option Nat := do
  let parts := dottedParts cs
  if parts.length > 4 then none
  else
    let numbers ← parts.mapM ipv4Number?
    let last ← numbers.getLast?
    let lead := numbers.dropLast
    if last ≥ 256 ^ (4 - lead.length) ∨ lead.any (· > 255) then none
    else some (lead.zipIdx.foldl (fun sum (n, i) => sum + n * 256 ^ (3 - i)) last)

/-- Four decimal numbers with dots. -/
def ipv4Text (address : Nat) : List Char :=
  List.intercalate ['.'] ([3, 2, 1, 0].map fun (i : Nat) =>
    Nat.toDigits 10 (address / 256 ^ i % 256))

/-! ## Eight pieces -/

/-- One piece: up to four hexadecimal digits. -/
def piece? (cs : List Char) : Option Nat :=
  if cs.isEmpty ∨ cs.length > 4 then none else number? 16 cs

/-- A decimal number up to 255 without a leading zero. -/
def byte? (cs : List Char) : Option Nat :=
  match cs with
  | [] => none
  | '0' :: _ :: _ => none
  | cs => (number? 10 cs).bind fun n => if n ≤ 255 then some n else none

/-- Four bytes with dots as two pieces. -/
def dottedPieces? (cs : List Char) : Option (List Nat) := do
  match ← (Text.splitBy (· == '.') cs).mapM byte? with
  | [a, b, c, d] => some [256 * a + b, 256 * c + d]
  | _ => none

/-- The pieces of a text between colons; the last may be four bytes with dots if `dotted` says
    so. -/
def pieces? (dotted : Bool) (cs : List Char) : Option (List Nat) :=
  if cs.isEmpty then some []
  else
    let parts := Text.splitBy (· == ':') cs
    match parts.getLast? with
    | none => none
    | some last =>
      if dotted ∧ last.contains '.' then do
        let lead ← parts.dropLast.mapM piece?
        let tail ← dottedPieces? last
        some (lead ++ tail)
      else parts.mapM piece?

/-- The text before and after the first pair of colons. -/
def splitDouble : List Char → List Char × Option (List Char)
  | ':' :: ':' :: rest => ([], some rest)
  | c :: rest => let (before, after) := splitDouble rest; (c :: before, after)
  | [] => ([], none)

/-- The eight pieces that a text between brackets stands for. -/
def ipv6? (cs : List Char) : Option (List Nat) := do
  match splitDouble cs with
  | (whole, none) =>
    let pieces ← pieces? true whole
    if pieces.length = 8 then some pieces else none
  | (before, some after) =>
    let lead ← pieces? false before
    let tail ← pieces? true after
    if lead.length + tail.length ≤ 7 then
      some (lead ++ List.replicate (8 - lead.length - tail.length) 0 ++ tail)
    else none

/-- The number of zeros in front. -/
def zeroRun (pieces : List Nat) : Nat := (pieces.takeWhile (· == 0)).length

/-- Start and length of the first of the longest runs of at least two zeros. -/
def longestZeroRun (pieces : List Nat) : Option (Nat × Nat) :=
  let runs := (List.range pieces.length).map fun i => (i, zeroRun (pieces.drop i))
  runs.foldl (fun best (i, n) =>
    if 2 ≤ n ∧ (best.all fun b => b.2 < n) then some (i, n) else best) none

/-- Pieces in hexadecimal with colons. -/
def pieceTexts (pieces : List Nat) : List Char :=
  List.intercalate [':'] (pieces.map (Nat.toDigits 16))

/-- The pieces with colons, where the longest run of zeros is left out. -/
def ipv6Text (pieces : List Nat) : List Char :=
  match longestZeroRun pieces with
  | none => pieceTexts pieces
  | some (start, length) =>
    pieceTexts (pieces.take start) ++ [':', ':'] ++ pieceTexts (pieces.drop (start + length))

end LinkedCharts.Url
