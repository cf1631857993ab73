import LinkedCharts.Json.Numeral
import LinkedCharts.Text.Hex

/-!
# Tokens of JSON text

The text is read in one pass, character by character; the state between two characters says what
token is being read. Numbers and strings that are well formed but have no value (a literal beyond
the largest finite number, an escape of half a surrogate pair) are tokens too: whether that is an
error depends on whether somebody asks for the value.

Results:
* `Token.scan?`: the tokens of a text.
-/

namespace LinkedCharts.Json

/-- A token of JSON text. -/
inductive Token
  | openArray
  | closeArray
  | openObject
  | closeObject
  | comma
  | colon
  | null
  | bool (value : Bool)
  /-- A number literal, with its value if it has one. -/
  | number (value : Option Number)
  /-- A quoted string, with its characters if its escapes spell any. -/
  | string (value : Option String)
deriving DecidableEq

namespace Token

/-! ## Strings -/

/-- The part of a string that has been read. -/
structure Quoted where
  /-- characters read, the newest first -/
  chars : List Char
  /-- the first half of a surrogate pair, waiting for the second -/
  half : Option Nat
  /-- some half of a surrogate pair stood alone -/
  broken : Bool
deriving DecidableEq

namespace Quoted

/-- Nothing read yet. -/
def start : Quoted := ⟨[], none, false⟩

/-- A character follows; a waiting half stays alone. -/
def char (q : Quoted) (c : Char) : Quoted := ⟨c :: q.chars, none, q.broken || q.half.isSome⟩

/-- An escape of a 16-bit unit follows. -/
def unit (q : Quoted) (u : Nat) : Quoted :=
  if 0xd800 ≤ u ∧ u < 0xdc00 then ⟨q.chars, some u, q.broken || q.half.isSome⟩
  else if 0xdc00 ≤ u ∧ u < 0xe000 then
    match q.half with
    | some h =>
      ⟨Char.ofNat (0x10000 + (h - 0xd800) * 0x400 + (u - 0xdc00)) :: q.chars, none, q.broken⟩
    | none => ⟨q.chars, none, true⟩
  else q.char (Char.ofNat u)

/-- The characters of the whole string. -/
def close (q : Quoted) : Option String :=
  if q.broken || q.half.isSome then none else some (String.ofList q.chars.reverse)

end Quoted

/-- The character of an escape by a letter. -/
def letterEscape (c : Char) : Option Char :=
  if c = '"' ∨ c = '\\' ∨ c = '/' then some c
  else if c = 'n' then some '\n'
  else if c = 'r' then some '\r'
  else if c = 't' then some '\t'
  else if c = 'b' then some (Char.ofNat 0x08)
  else if c = 'f' then some (Char.ofNat 0x0c)
  else none

/-! ## Scanning -/

/-- What is being read. -/
inductive Mode
  | between
  /-- letters of a name, the newest first -/
  | name (chars : List Char)
  /-- characters of a number, the newest first -/
  | numeral (chars : List Char)
  | quoted (q : Quoted)
  /-- after a backslash -/
  | escape (q : Quoted)
  /-- inside an escape by hexadecimal digits: how many are missing, and the value so far -/
  | hex (q : Quoted) (missing : Nat) (value : Nat)
deriving DecidableEq

/-- The tokens read, the newest first, and what is being read. -/
structure Scan where
  tokens : List Token
  mode : Mode
deriving DecidableEq

namespace Scan

/-- No character read yet. -/
def start : Scan := ⟨[], .between⟩

/-- A whole token has been read. -/
def push (s : Scan) (t : Token) : Scan := ⟨t :: s.tokens, .between⟩

/-- A character outside of any token. -/
def between (s : Scan) (c : Char) : Option Scan :=
  if c = ' ' ∨ c = '\n' ∨ c = '\t' ∨ c = '\r' then some s
  else if c = '[' then some (s.push .openArray)
  else if c = ']' then some (s.push .closeArray)
  else if c = '{' then some (s.push .openObject)
  else if c = '}' then some (s.push .closeObject)
  else if c = ',' then some (s.push .comma)
  else if c = ':' then some (s.push .colon)
  else if c = '"' then some { s with mode := .quoted .start }
  else if c = '-' ∨ c.isDigit then some { s with mode := .numeral [c] }
  else if c.isAlpha then some { s with mode := .name [c] }
  else none

/-- The end of a name or a number. -/
def endWord (s : Scan) : Option Scan :=
  match s.mode with
  | .between => some s
  | .name chars =>
    match String.ofList chars.reverse with
    | "null" => some (s.push .null)
    | "true" => some (s.push (.bool true))
    | "false" => some (s.push (.bool false))
    | _ => none
  | .numeral chars => (Numeral.ofChars? chars.reverse).map fun l => s.push (.number l.number?)
  | .quoted _ | .escape _ | .hex .. => none

/-- A character that may stand in a number literal. -/
def inNumeral (c : Char) : Bool := c.isDigit || "+-.eE".toList.contains c

/-- One character further. Control characters cannot stand in a string. -/
def step (s : Scan) (c : Char) : Option Scan :=
  match s.mode with
  | .between => s.between c
  | .name chars =>
    if c.isAlpha then some { s with mode := .name (c :: chars) }
    else s.endWord.bind (·.between c)
  | .numeral chars =>
    if inNumeral c then some { s with mode := .numeral (c :: chars) }
    else s.endWord.bind (·.between c)
  | .quoted q =>
    if c = '"' then some (s.push (.string q.close))
    else if c = '\\' then some { s with mode := .escape q }
    else if c.toNat < 0x20 then none
    else some { s with mode := .quoted (q.char c) }
  | .escape q =>
    if c = 'u' then some { s with mode := .hex q 4 0 }
    else (letterEscape c).map fun d => { s with mode := .quoted (q.char d) }
  | .hex q missing value =>
    (Text.hexDigit? c).map fun d =>
      let value := 16 * value + d
      if missing ≤ 1 then { s with mode := .quoted (q.unit value) }
      else { s with mode := .hex q (missing - 1) value }

end Scan

/-- The tokens of a text, if it consists of tokens and blanks. -/
def scan? (text : List Char) : Option (List Token) :=
  ((text.foldlM Scan.step Scan.start).bind Scan.endWord).map fun s => s.tokens.reverse

end Token

end LinkedCharts.Json
