import LinkedCharts.Proofs.History.Trail

/-!
# What a history state must be to hold an entry

The history of a page holds states of any kind, and a state that is taken for an entry moves charts.
An entry is read from an object with its three keys, whatever else that object has, or from the
array of the three fields in order. The numbers are rounded before their order is looked at. Writing
an entry always gives the object with just these keys.

Results:
* `Entry.Spells`: the values that spell the three fields.
* `Entry.make?_eq_some_iff`: which fields make an entry.
* `Entry.ofState?_eq_some_iff`: reading accepts just the values that spell the fields of an entry.
* `Entry.ofState?_toState_iff`: the entries that survive their states.
* `Entry.codec_exact`: what is read, and that it is read again from the state that is written.
* `Entry.codec_empty_name`: an entry with the empty name is written, and not read again.
-/

namespace LinkedCharts

open Json

theorem toOption_eq_some_iff {α : Type} {x : Except Fault α} {a : α} :
    x.toOption = some a ↔ x = .ok a := by
  cases x with
  | error f => exact ⟨nofun, nofun⟩
  | ok b => exact ⟨fun h => congrArg _ (Option.some.inj h), fun h => congrArg _ (Except.ok.inj h)⟩

theorem GroupId.make?_eq_ok_iff {text : String} {id : GroupId} :
    GroupId.make? text = .ok id ↔ id = ⟨text⟩ ∧ id.WellFormed := by
  unfold GroupId.make?
  split
  · rename_i h
    exact ⟨fun he => (Except.ok.inj he) ▸ ⟨rfl, h⟩, fun he => congrArg _ he.1.symm⟩
  · rename_i h
    refine ⟨nofun, ?_⟩
    rintro ⟨rfl, hid⟩
    exact absurd hid h

namespace Entry

variable {id : String} {lo hi : Number} {v : Value} {e : Entry}

/-! ## Spelling -/

/-- The value spells a name and two numbers. An object has them under its keys, and may have other
    keys as well; an array has them in order, and nothing else. -/
inductive Spells (id : String) (lo hi : Number) : Value → Prop
  | object (fields : List (String × Value))
      (hid : Value.lookup "id" fields = some (.string id))
      (hlo : Value.lookup "from" fields = some (.number lo))
      (hhi : Value.lookup "to" fields = some (.number hi)) : Spells id lo hi (.object fields)
  | array : Spells id lo hi (.array [.string id, .number lo, .number hi])

/-- Fields make the entry that has them, if that is well formed. -/
theorem make?_eq_some_iff {a b : Binary64} :
    make? id a b = some e ↔ e = ⟨⟨id⟩, ⟨a, b⟩⟩ ∧ e.WellFormed := by
  constructor
  · intro h
    refine ⟨?_, make?_wellFormed h⟩
    obtain ⟨group, hgroup, h⟩ := Option.bind_eq_some_iff.1 h
    obtain ⟨window, hwindow, h⟩ := Option.bind_eq_some_iff.1 h
    cases h
    rw [toOption_eq_some_iff] at hgroup hwindow
    rw [(GroupId.make?_eq_ok_iff.1 hgroup).1, (Window.make?_eq_ok_iff.1 hwindow).1]
  · rintro ⟨rfl, he⟩
    exact make?_of_wellFormed he

/-! ## Reading -/

/-- Reading makes an entry of the fields that a value spells. -/
theorem ofState?_eq_some_iff_spells :
    ofState? v = some e ↔
      ∃ id lo hi, Spells id lo hi v ∧ make? id lo.toBinary64 hi.toBinary64 = some e := by
  constructor
  · intro h
    unfold ofState? at h
    split at h
    · split at h
      · exact ⟨_, _, _, .object _ (by assumption) (by assumption) (by assumption), h⟩
      · cases h
    · exact ⟨_, _, _, .array, h⟩
    · cases h
  · rintro ⟨id, lo, hi, hspells, hmake⟩
    cases hspells with
    | object fields hid hlo hhi =>
      unfold ofState?
      dsimp only
      rw [hid, hlo, hhi]
      exact hmake
    | array => exact hmake

/-- Reading accepts just the values that spell a name that is not empty and two numbers that are
    finite and in order once they are rounded; the entry has that name and those numbers. -/
theorem ofState?_eq_some_iff :
    ofState? v = some e ↔ ∃ id lo hi, Spells id lo hi v ∧ id ≠ "" ∧
      lo.toBinary64.isFinite = true ∧ hi.toBinary64.isFinite = true ∧
      lo.toBinary64 ≤ hi.toBinary64 ∧ e = ⟨⟨id⟩, ⟨lo.toBinary64, hi.toBinary64⟩⟩ := by
  rw [ofState?_eq_some_iff_spells]
  constructor
  · rintro ⟨id, lo, hi, hspells, hmake⟩
    obtain ⟨rfl, hid, hlo, hhi, hle⟩ := make?_eq_some_iff.1 hmake
    exact ⟨id, lo, hi, hspells, hid, hlo, hhi, hle, rfl⟩
  · rintro ⟨id, lo, hi, hspells, hid, hlo, hhi, hle, rfl⟩
    exact ⟨id, lo, hi, hspells, make?_eq_some_iff.2 ⟨rfl, hid, hlo, hhi, hle⟩⟩

/-! ## Writing -/

/-- A well-formed entry is written as the object with its three fields. -/
theorem WellFormed.toState_eq (h : e.WellFormed) :
    e.toState = .object [("id", .string e.group.text), ("from", .number (.real e.window.lo)),
      ("to", .number (.real e.window.hi))] := by
  unfold toState
  rw [real_of_isFinite h.window.1, real_of_isFinite h.window.2.1]

/-- The entries that are read from their own states are the well-formed ones. -/
theorem ofState?_toState_iff : ofState? e.toState = some e ↔ e.WellFormed :=
  ⟨ofState?_wellFormed, ofState?_toState⟩

/-- Reading is exact in both directions. It accepts a value just if that spells the fields of an
    entry, and returns the entry with those fields. An entry is read back from its state just if its
    name passes the check of names and its window is finite and in order. What was read from any
    value is written as the object with its three fields, and is read from that again. -/
theorem codec_exact (v : Value) (e : Entry) :
    (ofState? v = some e ↔ ∃ id lo hi, Spells id lo hi v ∧ id ≠ "" ∧
      lo.toBinary64.isFinite = true ∧ hi.toBinary64.isFinite = true ∧
      lo.toBinary64 ≤ hi.toBinary64 ∧ e = ⟨⟨id⟩, ⟨lo.toBinary64, hi.toBinary64⟩⟩) ∧
    (ofState? e.toState = some e ↔ GroupId.make? e.group.text = .ok e.group ∧
      e.window.lo.isFinite = true ∧ e.window.hi.isFinite = true ∧ e.window.lo ≤ e.window.hi) ∧
    (ofState? v = some e →
      e.toState = .object [("id", .string e.group.text), ("from", .number (.real e.window.lo)),
        ("to", .number (.real e.window.hi))] ∧
      ofState? e.toState = some e) := by
  refine ⟨ofState?_eq_some_iff, ?_, ?_⟩
  · rw [ofState?_toState_iff, GroupId.make?_eq_ok_iff]
    exact ⟨fun h => ⟨⟨rfl, h.group⟩, h.window⟩, fun h => ⟨h.1.2, h.2⟩⟩
  · intro h
    have he := ofState?_wellFormed h
    exact ⟨he.toState_eq, ofState?_toState he⟩

/-- A finite and ordered window is not enough for an entry to be read back. The empty name, which
    the reader of names lets through, is refused when it comes back in a state. -/
theorem codec_empty_name :
    (Tree.parse? "\"\"").bind GroupId.ofTree? = some ⟨""⟩ ∧
      (⟨0, 100⟩ : Window).WellFormed ∧
      ofState? (⟨⟨""⟩, ⟨0, 100⟩⟩ : Entry).toState = none := by
  refine ⟨?_, ?_, ?_⟩ <;> decide +kernel

/-- Two whole numbers that are out of order, but round to the same number. -/
example : (ofState? (.array [.string "cpu", .number (.whole 9007199254740993),
    .number (.whole 9007199254740992)])).isSome = true := by decide +kernel

end Entry

end LinkedCharts
