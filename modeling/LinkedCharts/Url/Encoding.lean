import LinkedCharts.Text.Hex

/-!
# Percent-encoding

Characters that may not stand in some part of a URL are written as the bytes of their UTF-8 form,
each as a percent sign and two hexadecimal digits. Which characters these are depends on the part;
those outside of ASCII always are.

Results:
* `encode`: a text with the characters of a set encoded.
* `decode`: the bytes that a text stands for.
-/

namespace LinkedCharts.Url

/-! ## Sets of characters -/

/-- Control characters, and all that is not ASCII. -/
def isControl (c : Char) : Bool := c.toNat < 0x20 || 0x7f ≤ c.toNat

/-- What is encoded in a fragment. -/
def inFragmentSet (c : Char) : Bool := isControl c || " \"<>`".toList.contains c

/-- What is encoded in a query. -/
def inQuerySet (c : Char) : Bool := isControl c || " \"#<>".toList.contains c

/-- What is encoded in a query of a special scheme. -/
def inSpecialQuerySet (c : Char) : Bool := inQuerySet c || c == '\''

/-- What is encoded in a path. -/
def inPathSet (c : Char) : Bool := inQuerySet c || "?`\x7b\x7d".toList.contains c

/-- What is encoded in a user name or a password. -/
def inUserSet (c : Char) : Bool := inPathSet c || "/:;=@[\\]^|".toList.contains c

/-- What is encoded in a pair of a query, a blank apart, which becomes a plus sign. -/
def inPairSet (c : Char) : Bool := !(c.isAlphanum || "*-._".toList.contains c)

/-! ## Encoding -/

/-- The bytes of the UTF-8 form of a character. -/
def utf8 (c : Char) : List Nat :=
  let n := c.toNat
  if n < 0x80 then [n]
  else if n < 0x800 then [0xc0 + n / 0x40, 0x80 + n % 0x40]
  else if n < 0x10000 then [0xe0 + n / 0x1000, 0x80 + n / 0x40 % 0x40, 0x80 + n % 0x40]
  else [0xf0 + n / 0x40000, 0x80 + n / 0x1000 % 0x40, 0x80 + n / 0x40 % 0x40, 0x80 + n % 0x40]

/-- A byte as a percent sign and two digits. -/
def encodeByte (b : Nat) : List Char :=
  ['%', Text.upperHexDigit (b / 16), Text.upperHexDigit (b % 16)]

/-- A character, encoded if it is in the set. -/
def encodeChar (set : Char → Bool) (c : Char) : List Char :=
  if set c then (utf8 c).flatMap encodeByte else [c]

/-- A text with the characters of a set encoded. -/
def encode (set : Char → Bool) (cs : List Char) : List Char := cs.flatMap (encodeChar set)

/-- A name or a value of a pair in a query. -/
def encodePair (cs : List Char) : List Char :=
  cs.flatMap fun c => if c = ' ' then ['+'] else encodeChar inPairSet c

/-! ## Decoding -/

/-- The bytes that a text stands for. A percent sign without two digits stands for itself. -/
def decode : List Char → List Nat
  | [] => []
  | '%' :: a :: b :: rest =>
    match Text.hexDigit? a, Text.hexDigit? b with
    | some x, some y => (16 * x + y) :: decode rest
    | _, _ => '%'.toNat :: decode (a :: b :: rest)
  | c :: rest => utf8 c ++ decode rest

/-- The text whose UTF-8 form is a list of bytes. -/
def textOfBytes? (bytes : List Nat) : Option String :=
  String.fromUTF8? ⟨(bytes.map UInt8.ofNat).toArray⟩

end LinkedCharts.Url
