import LinkedCharts.Poll.Poller
import LinkedCharts.Proofs.Json.Checked

/-!
# Writing and reading back

A value that was checked, or counted within 64 bits, is read back from what is written of it. The
writer and the reader are not mirror images: a missing address is left out and read as missing, and
the samples of a series are sorted once more when they are read, which changes nothing because they
are written in order. What was read is always such a value, so that writing and reading it once more
ends at the same value and the same text.

The statements are about the tree of what is written: that a text which is written is read as the
tree of its value is up to the text.

Results:
* `Survives`: a value is read back from what is written of it.
* `Survives.text`, `Survives.write_eq`: through any text that is read as its tree, and so that it is
  written the same once more.
* `Series.survives`, `Window.survives`, `Axis.survives`, `ChartSettings.survives`,
  `PollSettings.survives`: the values that a program makes.
* `Stable`: whatever is read from a text survives.
* `writing_reads_back`: both, for all types that are written and read.
-/

namespace LinkedCharts

open Json

/-- The value is read back from what is written of it. -/
def Survives {α : Type} (write : α → Value) (read : Tree → Option α) (x : α) : Prop :=
  read (write x).toTree = some x

/-- Whatever is read from a text is read back from what is written of it. -/
def Stable {α : Type} (write : α → Value) (read : Tree → Option α) : Prop :=
  ∀ text x, (Tree.parse? text).bind read = some x → Survives write read x

/-- A value that survives is written the same after it has been read back. -/
theorem Survives.write_eq {α : Type} {write : α → Value} {read : Tree → Option α} {x : α}
    (h : Survives write read x) : (read (write x).toTree).map write = some (write x) := by
  rw [show read (write x).toTree = some x from h]
  rfl

/-- Whatever text lies between, if it is read as the tree of what is written. -/
theorem Survives.text {α : Type} {write : α → Value} {read : Tree → Option α} {x : α}
    (h : Survives write read x) {text : String} (htext : Tree.parse? text = some (write x).toTree) :
    (Tree.parse? text).bind read = some x := by
  rw [htext]
  exact h

/-- It is enough that all that is read from a finite tree survives. -/
theorem stable_of_finite {α : Type} {write : α → Value} {read : Tree → Option α}
    (h : ∀ t x, t.Finite → read t = some x → Survives write read x) : Stable write read := by
  intro text x hx
  obtain ⟨t, ht, hread⟩ := Option.bind_eq_some_iff.1 hx
  exact h t x (Tree.parse?_finite ht) hread

/-! ## Variants -/

theorem SeriesKind.survives (k : SeriesKind) : Survives toJson ofTree? k := by
  cases k <;> rfl

theorem Preset.survives (p : Preset) : Survives toJson ofTree? p := by
  cases p <;> rfl

theorem Stop.survives (s : Stop) : Survives toJson ofTree? s := by
  cases s <;> rfl

theorem GroupId.survives (id : GroupId) : Survives toJson ofTree? id := rfl

theorem SeriesKind.stable : Stable toJson ofTree? := fun _ k _ => k.survives

theorem Preset.stable : Stable toJson ofTree? := fun _ p _ => p.survives

theorem Stop.stable : Stable toJson ofTree? := fun _ s _ => s.survives

/-- Also the empty name is read back. -/
theorem GroupId.stable : Stable toJson ofTree? := fun _ id _ => id.survives

/-! ## Windows, axes and entries -/

theorem Window.survives {w : Window} (h : w.WellFormed) : Survives toJson ofTree? w := by
  have hmake : make? w.lo w.hi = .ok w := make?_eq_ok_iff.2 ⟨rfl, h⟩
  unfold Survives ofTree? toJson
  rw [Tree.fields?_toTree (by simp)]
  simp [Tree.real?_toTree h.1, Tree.real?_toTree h.2.1, hmake, Except.toOption]

theorem Axis.survives {a : Axis} (h : a.WellFormed) : Survives toJson ofTree? a := by
  have hfull : Window.ofTree? a.full.toJson.toTree = some a.full := Window.survives h.full
  have hvisible : Window.ofTree? a.visible.toJson.toTree = some a.visible :=
    Window.survives h.visible
  unfold Survives ofTree? toJson
  rw [Tree.fields?_toTree (by simp)]
  simp [hfull, hvisible]

theorem Entry.survives {e : Entry} (h : e.WellFormed) : Survives toState ofTree? e := by
  unfold Survives ofTree? toState
  rw [Tree.fields?_toTree (by simp)]
  simp [Tree.real?_toTree h.window.1, Tree.real?_toTree h.window.2.1, make?_of_wellFormed h]

theorem Window.stable : Stable toJson ofTree? :=
  stable_of_finite fun _ _ _ h => Window.survives (ofTree?_wellFormed h)

theorem Axis.stable : Stable toJson ofTree? :=
  stable_of_finite fun _ _ _ h => Axis.survives (ofTree?_wellFormed h)

theorem Entry.stable : Stable toState ofTree? :=
  stable_of_finite fun _ _ _ h => Entry.survives (ofTree?_wellFormed h)

/-! ## Series -/

theorem Sample.survives {x : Sample} (h : x.IsFinite) : Survives toJson ofTree? x := by
  unfold Survives ofTree? toJson
  rw [Tree.items?_toTree]
  simp [Tree.real?_toTree h.1, Tree.real?_toTree h.2]

theorem Sample.listOfTree?_toTree {xs : List Sample} (h : ∀ x ∈ xs, x.IsFinite) :
    listOfTree? (Value.array (xs.map toJson)).toTree = some xs := by
  unfold listOfTree?
  rw [Tree.items?_toTree, List.map_map]
  show (xs.map (Value.toTree ∘ toJson)).mapM ofTree? = some xs
  rw [mapM_eq_some_iff, List.forall₂_map_left_iff, List.forall₂_same]
  exact fun x hx => Sample.survives (h x hx)

/-- The reader sorts samples that are in order already. -/
theorem Series.survives {s : Series} (h : s.WellFormed) : Survives toJson ofTree? s := by
  have hkind : SeriesKind.ofTree? s.kind.toJson.toTree = some s.kind := SeriesKind.survives s.kind
  have hfinite : ∀ x ∈ s.samples.toList, x.IsFinite := fun x hx =>
    h.finite x (Array.mem_toList_iff.1 hx)
  have hdata := Sample.listOfTree?_toTree hfinite
  have hsorted := h.sorted.sorted_eq
  obtain ⟨name, kind, url, samples⟩ := s
  unfold Survives ofTree? toJson
  rw [Tree.fields?_toTree (by cases url <;> simp)]
  cases url with
  | none => simp [hkind, hdata, hsorted]
  | some url => simp [hkind, hdata, hsorted]

theorem Sample.stable : Stable toJson ofTree? :=
  stable_of_finite fun _ _ ht h => Sample.survives (ofTree?_isFinite ht h)

theorem Series.stable : Stable toJson ofTree? :=
  stable_of_finite fun _ _ ht h => Series.survives (ofTree?_wellFormed ht h)

/-! ## Settings -/

theorem PixelSize.survives {s : PixelSize} (hwidth : s.width < bound) (hheight : s.height < bound) :
    Survives toJson ofTree? s := by
  unfold Survives ofTree? toJson
  rw [Tree.fields?_toTree (by simp)]
  simp [Tree.nat?_toTree hwidth, Tree.nat?_toTree hheight]

theorem ChartSettings.survives {s : ChartSettings} (hwidth : s.size.width < PixelSize.bound)
    (hheight : s.size.height < PixelSize.bound) (hminimum : s.minimumSpan.isFinite = true) :
    Survives toJson ofTree? s := by
  have hsize : PixelSize.ofTree? s.size.toJson.toTree = some s.size :=
    PixelSize.survives hwidth hheight
  have hpreset : Preset.ofTree? s.preset.toJson.toTree = some s.preset := Preset.survives s.preset
  unfold Survives ofTree? toJson
  rw [Tree.fields?_toTree (by simp)]
  simp [hsize, hpreset, Tree.real?_toTree hminimum]

theorem PollSettings.survives {s : PollSettings} (hinterval : s.interval < bound)
    (htimeout : s.timeout < bound) : Survives toJson ofTree? s := by
  unfold Survives ofTree? toJson
  rw [Tree.fields?_toTree (by simp)]
  simp [Tree.nat?_toTree hinterval, Tree.nat?_toTree htimeout]

theorem PixelSize.ofTree?_lt {t : Tree} {s : PixelSize} (h : ofTree? t = some s) :
    s.width < bound ∧ s.height < bound := by
  unfold ofTree? at h
  split at h
  · simp only [Option.bind_eq_bind, Option.bind_eq_some_iff, Option.some.injEq] at h
    obtain ⟨width, hwidth, height, hheight, rfl⟩ := h
    exact ⟨Tree.required_nat?_lt hwidth, Tree.required_nat?_lt hheight⟩
  · cases h

theorem PixelSize.stable : Stable toJson ofTree? :=
  stable_of_finite fun _ _ _ h => PixelSize.survives (ofTree?_lt h).1 (ofTree?_lt h).2

/-- Settings that are read have a size within bounds and a finite minimum, also where they take the
    standard ones. -/
theorem ChartSettings.survives_of_read {t : Tree} (ht : t.Finite) {s : ChartSettings}
    (h : ofTree? t = some s) : Survives toJson ofTree? s := by
  unfold ofTree? at h
  split at h
  · rename_i title size minimum preset hfields
    have hfinite := Tree.fields?_finite ht hfields
    simp only [Option.bind_eq_bind, Option.bind_eq_some_iff, Option.some.injEq] at h
    obtain ⟨_, -, readSize, hsize, readMinimum, hminimum, _, -, rfl⟩ := h
    have hbounds : readSize.width < PixelSize.bound ∧ readSize.height < PixelSize.bound := by
      cases size with
      | none =>
        obtain rfl := Option.some.inj hsize
        decide
      | some u => exact PixelSize.ofTree?_lt hsize
    have hminimum : readMinimum.isFinite = true := by
      cases minimum with
      | none =>
        obtain rfl := Option.some.inj hminimum
        decide +kernel
      | some u => exact Tree.real?_isFinite (hfinite (some u) (by simp) u rfl) hminimum
    exact ChartSettings.survives hbounds.1 hbounds.2 hminimum
  · cases h

theorem ChartSettings.stable : Stable toJson ofTree? :=
  stable_of_finite fun _ _ ht h => ChartSettings.survives_of_read ht h

theorem PollSettings.survives_of_read {t : Tree} {s : PollSettings} (h : ofTree? t = some s) :
    Survives toJson ofTree? s := by
  unfold ofTree? at h
  split at h
  · simp only [Option.bind_eq_bind, Option.bind_eq_some_iff, Option.some.injEq] at h
    obtain ⟨interval, hinterval, timeout, htimeout, rfl⟩ := h
    exact PollSettings.survives (Tree.optional_nat?_lt (by decide) hinterval)
      (Tree.optional_nat?_lt (by decide) htimeout)
  · cases h

theorem PollSettings.stable : Stable toJson ofTree? :=
  stable_of_finite fun _ _ _ => PollSettings.survives_of_read

/-! ## Counters and reports -/

theorem Slot.survives_of_read {t : Tree} {s : Slot} (h : ofTree? t = some s) :
    Survives toJson ofTree? s := by
  unfold ofTree? at h
  dsimp only at h
  split at h
  · simp only [Option.bind_eq_bind, Option.bind_eq_some_iff, Option.some.injEq] at h
    obtain ⟨chart, hchart, series, hseries, rfl⟩ := h
    unfold Survives ofTree? toJson
    rw [Tree.fields?_toTree (by simp)]
    simp [Tree.nat?_toTree_of_required hchart, Tree.nat?_toTree_of_required hseries]
  · cases h

theorem Stats.survives_of_read {t : Tree} {s : Stats} (h : ofTree? t = some s) :
    Survives toJson ofTree? s := by
  unfold ofTree? at h
  dsimp only at h
  split at h
  · simp only [Option.bind_eq_bind, Option.bind_eq_some_iff, Option.some.injEq] at h
    obtain ⟨pushes, hpushes, echoes, hechoes, navigations, hnavigations, passes, hpasses, rfl⟩ := h
    unfold Survives ofTree? toJson
    dsimp only
    rw [Tree.fields?_toTree (by simp)]
    simp [Tree.nat?_toTree_of_required hpushes, Tree.nat?_toTree_of_required hechoes,
      Tree.nat?_toTree_of_required hnavigations, Tree.nat?_toTree_of_required hpasses]
  · cases h

theorem TickReport.survives_of_read {t : Tree} {r : TickReport} (h : ofTree? t = some r) :
    Survives toJson ofTree? r := by
  unfold ofTree? at h
  dsimp only at h
  split at h
  · simp only [Option.bind_eq_bind, Option.bind_eq_some_iff, Option.some.injEq] at h
    obtain ⟨issued, hissued, completed, hcompleted, failed, hfailed, appended, happended,
      timedOut, -, rfl⟩ := h
    unfold Survives ofTree? toJson
    dsimp only
    rw [Tree.fields?_toTree (by simp)]
    simp [Tree.nat?_toTree_of_required hissued, Tree.nat?_toTree_of_required hcompleted,
      Tree.nat?_toTree_of_required hfailed, Tree.nat?_toTree_of_required happended]
  · cases h

theorem Outcome.survives_broadcast {moved : Nat} (h : moved < Stats.bound) :
    Survives toJson ofTree? (.broadcast moved) := by
  have hfields : (Value.object [("propagated", .ofNat moved)]).toTree.fields? ["propagated"] =
      some [some (Value.ofNat moved).toTree] := by
    rw [Tree.fields?_toTree (by simp)]
    simp
  have hvariant : (toJson (.broadcast moved)).toTree.variant? =
      some ("Broadcast", some (Value.object [("propagated", .ofNat moved)]).toTree) := rfl
  unfold Survives ofTree?
  rw [hvariant]
  simp [hfields, Tree.nat?_toTree h]

theorem Outcome.survives_of_read {t : Tree} {o : Outcome} (h : ofTree? t = some o) :
    Survives toJson ofTree? o := by
  unfold ofTree? at h
  split at h
  · split at h
    · obtain ⟨moved, hmoved, rfl⟩ := Option.map_eq_some_iff.1 h
      exact survives_broadcast (Tree.required_nat?_lt hmoved)
    · cases h
  · obtain rfl := Option.some.inj h
    rfl
  · obtain rfl := Option.some.inj h
    rfl
  · cases h

theorem Slot.stable : Stable toJson ofTree? := stable_of_finite fun _ _ _ => survives_of_read

theorem Stats.stable : Stable toJson ofTree? := stable_of_finite fun _ _ _ => survives_of_read

theorem TickReport.stable : Stable toJson ofTree? := stable_of_finite fun _ _ _ => survives_of_read

theorem Outcome.stable : Stable toJson ofTree? := stable_of_finite fun _ _ _ => survives_of_read

/-! ## All types -/

/-- Writing and reading back. A series that was built by its operations, well-formed windows and
    axes, chart settings that pass their check and all poll settings are read back as they were, a
    series with its samples in their order. And whatever is read from a text is read back from what
    is written of it, so that it is written the same once more; names that were read without a check
    are no exception. -/
theorem writing_reads_back :
    ((∀ s : Series, s.Built → Survives Series.toJson Series.ofTree? s) ∧
      (∀ w : Window, w.WellFormed → Survives Window.toJson Window.ofTree? w) ∧
      (∀ a : Axis, a.full.WellFormed → a.visible.WellFormed →
        Survives Axis.toJson Axis.ofTree? a) ∧
      (∀ s : ChartSettings, s.check = .ok s → s.size.width < PixelSize.bound →
        s.size.height < PixelSize.bound → Survives ChartSettings.toJson ChartSettings.ofTree? s) ∧
      (∀ s : PollSettings, s.interval < PollSettings.bound → s.timeout < PollSettings.bound →
        Survives PollSettings.toJson PollSettings.ofTree? s)) ∧
    (Stable Series.toJson Series.ofTree? ∧ Stable Sample.toJson Sample.ofTree? ∧
      Stable SeriesKind.toJson SeriesKind.ofTree? ∧ Stable Window.toJson Window.ofTree? ∧
      Stable Axis.toJson Axis.ofTree? ∧ Stable Preset.toJson Preset.ofTree? ∧
      Stable PixelSize.toJson PixelSize.ofTree? ∧
      Stable ChartSettings.toJson ChartSettings.ofTree? ∧
      Stable GroupId.toJson GroupId.ofTree? ∧ Stable Entry.toState Entry.ofTree? ∧
      Stable PollSettings.toJson PollSettings.ofTree? ∧ Stable Stats.toJson Stats.ofTree? ∧
      Stable Outcome.toJson Outcome.ofTree? ∧ Stable Slot.toJson Slot.ofTree? ∧
      Stable TickReport.toJson TickReport.ofTree? ∧ Stable Stop.toJson Stop.ofTree?) := by
  refine ⟨⟨?_, ?_, ?_, ?_, ?_⟩, ?_⟩
  · exact fun s h => Series.survives h.wellFormed
  · exact fun w h => Window.survives h
  · exact fun a hfull hvisible => Axis.survives ⟨hfull, hvisible⟩
  · intro s hcheck hwidth hheight
    exact ChartSettings.survives hwidth hheight (Chart.check_eq_ok hcheck).2.1
  · exact fun s hinterval htimeout => PollSettings.survives hinterval htimeout
  · exact ⟨Series.stable, Sample.stable, SeriesKind.stable, Window.stable, Axis.stable,
      Preset.stable, PixelSize.stable, ChartSettings.stable, GroupId.stable, Entry.stable,
      PollSettings.stable, Stats.stable, Outcome.stable, Slot.stable, TickReport.stable,
      Stop.stable⟩

/-- A series with an address and a sample, and the settings that an empty array is read as. -/
theorem writing_reads_back_appended :
    (({ Series.empty "cpu" .line none with url := some "/m" } : Series).append ⟨1, 2⟩).samples =
        #[⟨1, 2⟩] ∧
      Survives Series.toJson Series.ofTree?
        (({ Series.empty "cpu" .line none with url := some "/m" } : Series).append ⟨1, 2⟩) ∧
      Survives Window.toJson Window.ofTree? ⟨1, 2⟩ ∧
      Survives ChartSettings.toJson ChartSettings.ofTree? .standard := by
  refine ⟨by decide +kernel, ?_, ?_, ?_⟩
  · exact writing_reads_back.1.1 _ (.append _ _ (.withUrl _ "/m" (.empty "cpu" .line)))
  · exact writing_reads_back.1.2.1 ⟨1, 2⟩ (by decide +kernel)
  · exact writing_reads_back.2.2.2.2.2.2.2.2.1 "[]" .standard (by decide +kernel)

end LinkedCharts
