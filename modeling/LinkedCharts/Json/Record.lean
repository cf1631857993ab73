import LinkedCharts.Json.Tree

/-!
# Reading records from JSON

A record is read from an object by its keys or from an array by the order of its fields. Keys that
the record does not have are passed over, whatever their values; a key that it has may stand only
once. An array may end early but holds no more items than the record has fields. What a missing
field means is up to the record. These are the rules of the derived readers of all records here.

Results:
* `Tree.fields?`: the fields of a record, each with its tree if it is there.
* `Tree.variant?`: the name of a variant, with its content if it has one.
* `Tree.real?`, `Tree.nat?`, `Tree.string?`, `Tree.bool?`, `Tree.items?`: the plain contents.
-/

namespace LinkedCharts.Json.Tree

/-! ## Plain contents -/

/-- Any number as a floating-point number. -/
def real? : Tree → Option Binary64
  | .number (some n) => some n.toBinary64
  | _ => none

/-- A whole number from zero up to but not including `limit`. -/
def nat? (limit : Nat) : Tree → Option Nat
  | .number (some (.whole i)) => if 0 ≤ i ∧ i < limit then some i.toNat else none
  | _ => none

/-- A string that has characters. -/
def string? : Tree → Option String
  | .string s => s
  | _ => none

/-- A truth value. -/
def bool? : Tree → Option Bool
  | .bool b => some b
  | _ => none

/-- The items of an array. -/
def items? : Tree → Option (List Tree)
  | .array items => some items
  | _ => none

/-! ## Records and variants -/

/-- The tree under a key that may stand at most once; `none` if it is repeated. -/
def member? (members : List (Option String × Tree)) (name : String) : Option (Option Tree) :=
  match members.filter (fun m => m.1 = some name) with
  | [] => some none
  | [(_, t)] => some (some t)
  | _ => none

/-- The fields of a record in the order of `names`, each with its tree if it is there. -/
def fields? (names : List String) : Tree → Option (List (Option Tree))
  | .array items =>
    if items.length ≤ names.length then
      some (items.map some ++ List.replicate (names.length - items.length) none)
    else none
  | .object members =>
    if members.all (fun m => m.1.isSome) then names.mapM (member? members) else none
  | _ => none

/-- The name of a variant: a string alone, or the only key of an object, which has a content. -/
def variant? : Tree → Option (String × Option Tree)
  | .string (some s) => some (s, none)
  | .object [(some k, t)] => some (k, some t)
  | _ => none

/-- The name of a variant without content, where `null` also counts as none. -/
def unitVariant? (t : Tree) : Option String :=
  match t.variant? with
  | some (name, none) | some (name, some .null) => some name
  | _ => none

/-- A field that has to be there. -/
def required {α : Type} (read : Tree → Option α) (field : Option Tree) : Option α :=
  field.bind read

/-- A field that has a value of its own when it is missing. -/
def optional {α : Type} (default : α) (read : Tree → Option α) : Option Tree → Option α
  | none => some default
  | some t => read t

/-- A content that may be `null`. -/
def nullable {α : Type} (read : Tree → Option α) : Tree → Option (Option α)
  | .null => some none
  | t => (read t).map some

end LinkedCharts.Json.Tree
