import LinkedCharts.Json.Token

/-!
# Syntax trees of JSON text

The tree keeps what the text says, in its order: repeated keys, numbers beyond the largest finite
number and strings with half a surrogate pair are all still there. The parser keeps a stack of open
containers and so reads text of any depth.

Results:
* `Tree.parse?`: the tree of a text.
* `Tree.toValue?`: the value of a tree, where the last of repeated keys counts.
* `Value.toTree`: a value as a tree, the inverse on values with distinct keys.
-/

namespace LinkedCharts.Json

/-- A JSON text as it is written. -/
inductive Tree
  | null
  | bool (value : Bool)
  | number (value : Option Number)
  | string (value : Option String)
  | array (items : List Tree)
  | object (members : List (Option String × Tree))

namespace Tree

instance : Inhabited Tree := ⟨.null⟩

/-! ## Parsing -/

/-- A container that is still open, its content newest first. An object keeps the key whose value is
    being read. -/
inductive Open
  | array (items : List Tree)
  | object (members : List (Option String × Tree)) (key : Option String)

/-- What may follow. -/
inductive Expect
  | value
  /-- a value, or the end of an array that is still empty -/
  | firstItem
  /-- a comma or the end of the container -/
  | afterItem
  /-- a key, or the end of an object that is still empty -/
  | firstKey
  | key
  | colon
  | nothing (whole : Tree)

/-- The open containers, the innermost first, and what may follow. -/
structure Parse where
  stack : List Open
  expect : Expect

namespace Parse

/-- No token read yet. -/
def start : Parse := ⟨[], .value⟩

/-- A whole value has been read. -/
def place (t : Tree) : List Open → Parse
  | [] => ⟨[], .nothing t⟩
  | .array items :: stack => ⟨.array (t :: items) :: stack, .afterItem⟩
  | .object members key :: stack => ⟨.object ((key, t) :: members) key :: stack, .afterItem⟩

/-- A token where a value may start. -/
def value (stack : List Open) : Token → Option Parse
  | .null => some (place .null stack)
  | .bool b => some (place (.bool b) stack)
  | .number n => some (place (.number n) stack)
  | .string s => some (place (.string s) stack)
  | .openArray => some ⟨.array [] :: stack, .firstItem⟩
  | .openObject => some ⟨.object [] none :: stack, .firstKey⟩
  | .closeArray | .closeObject | .comma | .colon => none

/-- A token where a key must stand. -/
def key (stack : List Open) (t : Token) : Option Parse :=
  match stack, t with
  | .object members _ :: stack, .string k => some ⟨.object members k :: stack, .colon⟩
  | _, _ => none

/-- The end of the innermost container. -/
def close (stack : List Open) (t : Token) : Option Parse :=
  match stack, t with
  | .array items :: stack, .closeArray => some (place (.array items.reverse) stack)
  | .object members _ :: stack, .closeObject => some (place (.object members.reverse) stack)
  | _, _ => none

/-- One token further. -/
def step (p : Parse) (t : Token) : Option Parse :=
  match p.expect with
  | .value => value p.stack t
  | .firstItem => if t = .closeArray then close p.stack t else value p.stack t
  | .firstKey => if t = .closeObject then close p.stack t else key p.stack t
  | .key => key p.stack t
  | .colon => if t = .colon then some { p with expect := .value } else none
  | .afterItem =>
    if t = .comma then
      match p.stack with
      | .array _ :: _ => some { p with expect := .value }
      | .object _ _ :: _ => some { p with expect := .key }
      | [] => none
    else close p.stack t
  | .nothing _ => none

end Parse

/-- The tree of a list of tokens that spell one value. -/
def ofTokens? (tokens : List Token) : Option Tree := do
  let p ← tokens.foldlM Parse.step Parse.start
  match p.expect with
  | .nothing whole => some whole
  | _ => none

/-- The tree of a text. -/
def parse? (text : String) : Option Tree := (Token.scan? text.toList).bind ofTokens?

/-! ## Values -/

/-- A field added to an object; the value of a key that is already there is replaced. -/
def putField (key : String) (v : Value) : List (String × Value) → List (String × Value)
  | [] => [(key, v)]
  | (k, w) :: rest => if k = key then (k, v) :: rest else (k, w) :: putField key v rest

mutual

/-- The value of a tree, if all its numbers and strings have values. -/
def toValue? : Tree → Option Value
  | .null => some .null
  | .bool b => some (.bool b)
  | .number n => n.map .number
  | .string s => s.map .string
  | .array items => (itemValues? items).map .array
  | .object members => (fieldValues? [] members).map .object

/-- The values of items, if all have one. -/
def itemValues? : List Tree → Option (List Value)
  | [] => some []
  | t :: rest => do
    let v ← toValue? t
    let vs ← itemValues? rest
    some (v :: vs)

/-- The fields so far and those of the members, if all keys and values have a value. -/
def fieldValues? (fields : List (String × Value)) :
    List (Option String × Tree) → Option (List (String × Value))
  | [] => some fields
  | (none, _) :: _ => none
  | (some k, t) :: rest => do
    let v ← toValue? t
    fieldValues? (putField k v fields) rest

end

end Tree

namespace Value

mutual

/-- The tree of a value. -/
def toTree : Value → Tree
  | .null => .null
  | .bool b => .bool b
  | .number n => .number (some n)
  | .string s => .string (some s)
  | .array items => .array (itemTrees items)
  | .object fields => .object (fieldTrees fields)

/-- The trees of items. -/
def itemTrees : List Value → List Tree
  | [] => []
  | v :: rest => toTree v :: itemTrees rest

/-- The trees of fields under their keys. -/
def fieldTrees : List (String × Value) → List (Option String × Tree)
  | [] => []
  | (k, v) :: rest => (some k, toTree v) :: fieldTrees rest

end

/-- The value that a text spells. -/
def parse? (text : String) : Option Value := (Tree.parse? text).bind Tree.toValue?

end Value

end LinkedCharts.Json
