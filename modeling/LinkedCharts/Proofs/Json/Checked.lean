import LinkedCharts.Proofs.Axis
import LinkedCharts.Proofs.History.Codec
import LinkedCharts.Proofs.Json.Record
import LinkedCharts.Proofs.Series.Built

/-!
# Reading and the checked constructors

Whatever a text spells, a window, an axis, an entry of the history or a series that is read from it
could have been made by the checks of its own constructor. Windows and entries are read through that
constructor. A series is not: its samples are sorted, but nobody asks whether they are finite; they
are because no number of a text is beyond the finite ones.

A name is the exception. It is read as any string, and the check of `GroupId.make?` is passed over,
so that one text is read as a name that cannot be made. An entry with that name is refused all the
same.

Results:
* `Sample.listOfTree?_isFinite`, `Series.ofTree?_wellFormed`: series of a finite tree.
* `Axis.ofTree?_wellFormed`, `Entry.ofTree?_wellFormed`: axes and entries.
* `GroupId.ofTree?_eq_some_iff`: which names are read.
* `reading_wellFormed`: what is read from a text is well formed, but for the empty name.
* `reading_empty_name`: the empty name is read.
-/

namespace LinkedCharts

open Json

/-! ## Series -/

namespace Sample

variable {t : Tree}

theorem ofTree?_isFinite (ht : t.Finite) {x : Sample} (h : ofTree? t = some x) : x.IsFinite := by
  unfold ofTree? at h
  split at h
  · rename_i time value hitems
    simp only [Option.bind_eq_bind, Option.bind_eq_some_iff, Option.some.injEq] at h
    obtain ⟨a, ha, b, hb, rfl⟩ := h
    have hfinite := Tree.items?_finite ht hitems
    exact ⟨Tree.real?_isFinite (hfinite time (by simp)) ha,
      Tree.real?_isFinite (hfinite value (by simp)) hb⟩
  · cases h

theorem listOfTree?_isFinite (ht : t.Finite) {xs : List Sample} (h : listOfTree? t = some xs) :
    ∀ x ∈ xs, x.IsFinite := by
  obtain ⟨items, hitems, h⟩ := Option.bind_eq_some_iff.1 h
  intro x hx
  obtain ⟨u, hu, hux⟩ := exists_of_mem_mapM h hx
  exact ofTree?_isFinite (Tree.items?_finite ht hitems u hu) hux

end Sample

/-- The samples that are read are sorted by the reader, and finite because the tree is. -/
theorem Series.ofTree?_wellFormed {t : Tree} (ht : t.Finite) {s : Series}
    (h : ofTree? t = some s) : s.WellFormed := by
  refine ⟨?_, ofTree?_sorted h⟩
  unfold ofTree? at h
  split at h
  · rename_i name kind url data hfields
    have hfinite := Tree.fields?_finite ht hfields
    simp only [Option.bind_eq_bind, Option.bind_eq_some_iff, Option.some.injEq] at h
    obtain ⟨_, -, _, -, _, -, xs, hxs, rfl⟩ := h
    intro x hx
    have hmem : x ∈ xs := mem_sorted.1 (List.mem_toArray.1 hx)
    cases data with
    | none =>
      obtain rfl := Option.some.inj hxs
      cases hmem
    | some u => exact Sample.listOfTree?_isFinite (hfinite (some u) (by simp) u rfl) hxs x hmem
  · cases h

/-! ## Axes and entries -/

theorem Axis.ofTree?_wellFormed {t : Tree} {a : Axis} (h : ofTree? t = some a) :
    a.WellFormed := by
  unfold ofTree? at h
  split at h
  · simp only [Option.bind_eq_bind, Option.bind_eq_some_iff, Tree.required_eq_some_iff,
      Option.some.injEq] at h
    obtain ⟨full, ⟨_, -, hfull⟩, visible, ⟨_, -, hvisible⟩, rfl⟩ := h
    exact ⟨Window.ofTree?_wellFormed hfull, Window.ofTree?_wellFormed hvisible⟩
  · cases h

theorem Entry.ofTree?_wellFormed {t : Tree} {e : Entry} (h : ofTree? t = some e) :
    e.WellFormed := by
  unfold ofTree? at h
  split at h
  · simp only [Option.bind_eq_bind, Option.bind_eq_some_iff] at h
    obtain ⟨_, -, _, -, _, -, h⟩ := h
    exact make?_wellFormed h
  · cases h

/-! ## Names -/

/-- A name is read from its string, without a check. -/
theorem GroupId.ofTree?_eq_some_iff {t : Tree} {id : GroupId} :
    ofTree? t = some id ↔ t = .string (some id.text) := by
  unfold ofTree?
  rw [Option.map_eq_some_iff]
  constructor
  · rintro ⟨text, htext, rfl⟩
    unfold Tree.string? at htext
    split at htext
    · rw [htext]
    · cases htext
  · rintro rfl
    exact ⟨id.text, rfl, rfl⟩

/-- Whatever a text spells, a window that is read from it is finite and in order, an axis has two
    such windows, an entry such a window and a name that is not empty, and a series finite samples
    in the order of their times, which setting them once more would accept and leave alone. A name
    is not empty unless the text spells the empty string. -/
theorem reading_wellFormed (text : String) :
    (∀ w, (Tree.parse? text).bind Window.ofTree? = some w → w.WellFormed) ∧
    (∀ a, (Tree.parse? text).bind Axis.ofTree? = some a →
      a.full.WellFormed ∧ a.visible.WellFormed) ∧
    (∀ e, (Tree.parse? text).bind Entry.ofTree? = some e →
      e.group.WellFormed ∧ e.window.WellFormed) ∧
    (∀ s, (Tree.parse? text).bind Series.ofTree? = some s →
      s.WellFormed ∧ s.setSamples s.samples.toList = .ok s) ∧
    (∀ id, (Tree.parse? text).bind GroupId.ofTree? = some id →
      (id.WellFormed ↔ Tree.parse? text ≠ some (.string (some "")))) := by
  refine ⟨fun w h => ?_, fun a h => ?_, fun e h => ?_, fun s h => ?_, fun id h => ?_⟩
  all_goals obtain ⟨t, ht, h⟩ := Option.bind_eq_some_iff.1 h
  · exact Window.ofTree?_wellFormed h
  · have ha := Axis.ofTree?_wellFormed h
    exact ⟨ha.full, ha.visible⟩
  · have he := Entry.ofTree?_wellFormed h
    exact ⟨he.group, he.window⟩
  · have hs := Series.ofTree?_wellFormed (Tree.parse?_finite ht) h
    exact ⟨hs, Series.setSamples_self_iff.2 hs⟩
  · rw [GroupId.ofTree?_eq_some_iff] at h
    rw [ht, h]
    simp [GroupId.WellFormed]

/-- Two samples out of order, one of them at a whole number that is rounded. -/
theorem reading_wellFormed_unsorted :
    ∃ s, (Tree.parse? "[\"cpu\",\"line\",null,[[18446744073709551615,-0],[2e3,1.5]]]").bind
        Series.ofTree? = some s ∧
      s.WellFormed ∧ s.setSamples s.samples.toList = .ok s := by
  have hread : ((Tree.parse? "[\"cpu\",\"line\",null,[[18446744073709551615,-0],[2e3,1.5]]]").bind
      Series.ofTree?).isSome = true := by decide +kernel
  obtain ⟨s, hs⟩ := Option.isSome_iff_exists.1 hread
  exact ⟨s, hs, (reading_wellFormed _).2.2.2.1 s hs⟩

/-- Not all that is read is well formed: the text of the empty string is read as a name that cannot
    be made. -/
theorem reading_empty_name : ¬ ∀ text id, (Tree.parse? text).bind GroupId.ofTree? = some id →
    GroupId.make? id.text = .ok id := by
  intro h
  have hread : (Tree.parse? "\"\"").bind GroupId.ofTree? = some ⟨""⟩ := by decide +kernel
  have hmake := h "\"\"" ⟨""⟩ hread
  exact absurd hmake (by decide)

end LinkedCharts
