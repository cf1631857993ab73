import LinkedCharts.Fault
import LinkedCharts.Json.Record

/-!
# Names of chart groups

A group and its history entries go by a name that is not empty. Reading a name from JSON takes any
string; only `GroupId.make?` checks it.

Models of `IdentityToken`: `GroupId.make?` is its constructor, `GroupId.ofTree?` its derived reader,
which is transparent.
-/

namespace LinkedCharts

/-- The name of a chart group. -/
structure GroupId where
  text : String
deriving DecidableEq, Inhabited

namespace GroupId

/-- The name is not empty. -/
def WellFormed (id : GroupId) : Prop := id.text ≠ ""

instance (id : GroupId) : Decidable id.WellFormed := inferInstanceAs (Decidable (_ ≠ _))

/-- A name from a text that is not empty. Models `IdentityToken.new`. -/
def make? (text : String) : Except Fault GroupId :=
  if (GroupId.mk text).WellFormed then .ok ⟨text⟩ else .error (.invalidData .emptyGroupId)

/-- The order of names, character by character. -/
def compare (a b : GroupId) : Ordering :=
  if a.text < b.text then .lt else if a.text = b.text then .eq else .gt

open Json

/-- The name as a string. -/
def toJson (id : GroupId) : Value := .string id.text

/-- A name from any string, the empty one included. -/
def ofTree? (t : Tree) : Option GroupId := t.string?.map GroupId.mk

end GroupId

end LinkedCharts
