import LinkedCharts.Board
import LinkedCharts.Proofs.Chart
import LinkedCharts.Proofs.Group.Frame
import Mathlib.Data.List.Forall2
import Mathlib.Data.List.Nodup

/-!
# Runs of a board

A board is asked to add groups, to pass on what users choose, to step through its history and to
deliver states, in any order and whatever it answers. No call renames a group or removes one, so
that the name under which a group is found stays its own name, and no name is taken twice.

Results:
* `Board.Call`, `Board.run`: what is asked of a board, and a run of it.
* `Board.Named`: groups are stored under their own names, which are distinct, behind sound locks.
* `Board.act_groups`: a call moves charts of the groups there are, or adds a group behind them.
* `Board.run_named`, `Board.run_plain`: what holds of every board that is reached.
-/

namespace LinkedCharts

open Json

/-! ## Lookup -/

section Lookup

variable {α β : Type} [DecidableEq α]

theorem mem_of_lookup {l : List (α × β)} {k : α} {v : β} (h : l.lookup k = some v) :
    (k, v) ∈ l := by
  obtain ⟨before, after, rfl, -⟩ := List.lookup_eq_some_iff.1 h
  exact List.mem_append_right _ List.mem_cons_self

theorem lookup_eq_none_iff_not_mem {l : List (α × β)} {k : α} :
    l.lookup k = none ↔ k ∉ l.map Prod.fst := by
  rw [List.lookup_eq_none_iff, List.mem_map]
  constructor
  · rintro h ⟨p, hp, rfl⟩
    simpa using h p hp
  · intro h p hp
    simp only [bne_iff_ne]
    exact fun he => h ⟨p, hp, he.symm⟩

/-- With distinct keys every pair of the list is found. -/
theorem lookup_of_mem {l : List (α × β)} (hl : (l.map Prod.fst).Nodup) {k : α} {v : β}
    (h : (k, v) ∈ l) : l.lookup k = some v := by
  induction l with
  | nil => cases h
  | cons p rest ih =>
    obtain ⟨hp, hrest⟩ := List.nodup_cons.1 hl
    rcases List.mem_cons.1 h with rfl | hmem
    · exact List.lookup_cons_self
    · have hne : k ≠ p.1 := by
        rintro rfl
        exact hp (List.mem_map.2 ⟨_, hmem, rfl⟩)
      rw [List.lookup_cons, beq_false_of_ne hne]
      exact ih hrest hmem

theorem lookup_map {γ : Type} (f : β → γ) (l : List (α × β)) (k : α) :
    (l.map fun p => (p.1, f p.2)).lookup k = (l.lookup k).map f := by
  induction l with
  | nil => rfl
  | cons p rest ih =>
    rw [List.map_cons, List.lookup_cons, List.lookup_cons, ih]
    cases k == p.1 with
    | false => rfl
    | true => rfl

/-- Lists with the same distinct keys are equal if all keys have the same values. -/
theorem eq_of_lookup {l m : List (α × β)} (hkeys : l.map Prod.fst = m.map Prod.fst)
    (hl : (l.map Prod.fst).Nodup) (h : ∀ k ∈ l.map Prod.fst, l.lookup k = m.lookup k) : l = m := by
  have hlength : l.length = m.length := by
    rw [← List.length_map Prod.fst, hkeys, List.length_map]
  refine List.ext_getElem hlength fun i hi hi' => ?_
  have hkey : l[i].1 = m[i].1 := by
    have := congrArg (·[i]?) hkeys
    simpa [hi, hi'] using this
  have hleft : l.lookup l[i].1 = some l[i].2 := lookup_of_mem hl (List.getElem_mem hi)
  have hright : m.lookup m[i].1 = some m[i].2 := lookup_of_mem (hkeys ▸ hl) (List.getElem_mem hi')
  have hvalue := h l[i].1 (List.mem_map_of_mem (List.getElem_mem hi))
  rw [hleft, hkey, hright] at hvalue
  exact Prod.ext hkey (Option.some.inj hvalue)

end Lookup

/-- A group behind a lock after some of its charts have moved. -/
structure Shared.Moved (s t : Shared) : Prop where
  id : t.group.id = s.group.id
  poisoned : t.poisoned = s.poisoned
  plain : (∀ c ∈ s.group.charts, c.Plain) → ∀ c ∈ t.group.charts, c.Plain

theorem Shared.Moved.refl (s : Shared) : s.Moved s := ⟨rfl, rfl, fun h => h⟩

namespace Board

variable {b : Board}

/-! ## Calls -/

/-- What is asked of a board. -/
inductive Call
  | add (g : Group)
  | userSet (id : GroupId) (origin : Nat) (w : Window)
  | select (id : GroupId) (origin : Nat) (p : Preset)
  | back
  | forward
  | dispatch (state : Value)

/-- The board after a call, whatever it answered. -/
def act (b : Board) : Call → Board
  | .add g => (b.add g).1
  | .userSet id origin w => (b.userSet id origin w).1
  | .select id origin p => (b.select id origin p).1
  | .back => b.back.1
  | .forward => b.forward.1
  | .dispatch state => (b.dispatch state).1

/-- The board after calls in order. -/
def run (b : Board) (calls : List Call) : Board := calls.foldl act b

/-- The names under which groups are stored. -/
def names (b : Board) : List GroupId := b.groups.map Prod.fst

/-- Every group is stored under its own name and behind a sound lock, and the names are distinct. -/
structure Named (b : Board) : Prop where
  own : ∀ p ∈ b.groups, p.2.group.id = p.1
  sound : ∀ p ∈ b.groups, p.2.poisoned = false
  nodup : b.names.Nodup

/-- No chart of any group refuses its moves. -/
def AllPlain (b : Board) : Prop := ∀ p ∈ b.groups, ∀ c ∈ p.2.group.charts, c.Plain

instance (b : Board) : Decidable b.AllPlain :=
  inferInstanceAs (Decidable (∀ p ∈ b.groups, ∀ c ∈ p.2.group.charts, _))

theorem empty_named (j : Journal) : (empty j).Named := by
  refine ⟨?_, ?_, List.nodup_nil⟩
  · rintro p ⟨⟩
  · rintro p ⟨⟩

/-! ## One group -/

theorem onGroup_of_none {α : Type} {id : GroupId} (h : b.groups.lookup id = none)
    (act : Group → Journal → Group × Journal × Except Fault α) :
    b.onGroup id act = (b, .error (.unknownGroup id.text)) := by
  unfold onGroup group?
  rw [h]

/-- A group behind a sound lock acts with the journal of the board. -/
theorem onGroup_of_lookup {α : Type} {id : GroupId} {s : Shared}
    (h : b.groups.lookup id = some s) (hsound : s.poisoned = false)
    (act : Group → Journal → Group × Journal × Except Fault α) :
    b.onGroup id act =
      ({ b.put id { s with group := (act s.group b.journal).1 } with
        journal := (act s.group b.journal).2.1 }, (act s.group b.journal).2.2) := by
  unfold onGroup group?
  rw [h]
  simp only [Shared.useWith, hsound, Bool.false_eq_true, if_false]

/-- Another state under one name leaves those under the others. -/
theorem lookup_put (b : Board) (id : GroupId) (s : Shared) (t : GroupId) :
    (b.put id s).groups.lookup t =
      (b.groups.lookup t).map fun old => if t = id then s else old := by
  unfold put
  dsimp only
  induction b.groups with
  | nil => rfl
  | cons p rest ih =>
    rw [List.map_cons, List.lookup_cons, List.lookup_cons, ih]
    by_cases ht : t = p.1
    · subst ht
      rw [beq_self_eq_true]
      rfl
    · rw [beq_false_of_ne ht]

/-- Groups in the place of others after some of their charts have moved. -/
def GroupsMoved (before after : List (GroupId × Shared)) : Prop :=
  List.Forall₂ (fun p q => q.1 = p.1 ∧ p.2.Moved q.2) before after

theorem GroupsMoved.refl (groups : List (GroupId × Shared)) : GroupsMoved groups groups :=
  List.forall₂_same.2 fun p _ => ⟨rfl, .refl p.2⟩

theorem GroupsMoved.names {before after : List (GroupId × Shared)} (h : GroupsMoved before after) :
    after.map Prod.fst = before.map Prod.fst := by
  induction h with
  | nil => rfl
  | cons hp _ ih => rw [List.map_cons, List.map_cons, hp.1, ih]

theorem GroupsMoved.mem {before after : List (GroupId × Shared)} (h : GroupsMoved before after)
    {q : GroupId × Shared} (hq : q ∈ after) : ∃ p ∈ before, q.1 = p.1 ∧ p.2.Moved q.2 := by
  induction h with
  | nil => cases hq
  | cons hp _ ih =>
    rcases List.mem_cons.1 hq with rfl | hq
    · exact ⟨_, List.mem_cons_self, hp⟩
    · obtain ⟨p, hmem, hmoved⟩ := ih hq
      exact ⟨p, List.mem_cons_of_mem _ hmem, hmoved⟩

/-- Groups that have moved are stored as before. -/
theorem GroupsMoved.named {after : Board} (hb : b.Named) (h : GroupsMoved b.groups after.groups) :
    after.Named := by
  refine ⟨?_, ?_, ?_⟩
  · intro q hq
    obtain ⟨p, hp, hname, hm⟩ := h.mem hq
    rw [hm.id, hname]
    exact hb.own p hp
  · intro q hq
    obtain ⟨p, hp, -, hm⟩ := h.mem hq
    rw [hm.poisoned]
    exact hb.sound p hp
  · unfold Board.names
    rw [h.names]
    exact hb.nodup

theorem GroupsMoved.plain {after : Board} (hp : b.AllPlain)
    (h : GroupsMoved b.groups after.groups) : after.AllPlain := by
  intro q hq
  obtain ⟨p, hmem, -, hm⟩ := h.mem hq
  exact hm.plain (hp p hmem)

/-- Another state of a group that is stored under a name. -/
theorem Named.put (hb : b.Named) {id : GroupId} {s t : Shared} (hs : b.groups.lookup id = some s)
    (ht : s.Moved t) : GroupsMoved b.groups (b.put id t).groups := by
  unfold Board.put GroupsMoved
  rw [List.forall₂_map_right_iff, List.forall₂_same]
  rintro ⟨k, old⟩ hmem
  refine ⟨rfl, ?_⟩
  dsimp only
  split
  · rename_i hk
    have hold := lookup_of_mem hb.nodup hmem
    rw [hk, hs] at hold
    cases hold
    exact ht
  · exact .refl old

/-- What a group does to its charts by moving them, a board does to its groups. -/
theorem Named.onGroup (hb : b.Named) {α : Type} (id : GroupId)
    {act : Group → Journal → Group × Journal × Except Fault α}
    (hact : ∀ g j, (act g j).1.id = g.id ∧
      ((∀ c ∈ g.charts, c.Plain) → ∀ c ∈ (act g j).1.charts, c.Plain)) :
    GroupsMoved b.groups (b.onGroup id act).1.groups := by
  cases hs : b.groups.lookup id with
  | none =>
    rw [onGroup_of_none hs]
    exact .refl b.groups
  | some s =>
    obtain ⟨hid, hplain⟩ := hact s.group b.journal
    rw [onGroup_of_lookup hs (hb.sound _ (mem_of_lookup hs))]
    exact hb.put hs ⟨hid, rfl, hplain⟩

/-! ## All groups -/

theorem moveTo_plain {c : Chart} (h : c.Plain) (w : Window) : (View.moveTo c w).1.Plain := by
  rw [View.moveTo_chart, Chart.moveTo_of_plain h]
  exact Chart.shown_plain h w

theorem use_moved (s : Shared) (state : Value) : s.Moved (s.use (·.navigated state)).1 := by
  unfold Shared.use
  split
  · exact .refl s
  · exact ⟨s.group.navigated_id state, rfl,
      Group.navigated_forall fun e _ c hc => moveTo_plain hc e.window⟩

/-- Delivering a state moves charts of the groups it gets to. -/
theorem deliver_moved (state : Value) (found : Option GroupId) (groups : List (GroupId × Shared)) :
    GroupsMoved groups (deliver state found groups).1 := by
  induction groups generalizing found with
  | nil => exact .nil
  | cons p rest ih =>
    obtain ⟨id, s⟩ := p
    have hs := use_moved s state
    unfold deliver
    rcases huse : s.use (·.navigated state) with ⟨t, f | took⟩
    · rw [huse] at hs
      exact .cons ⟨rfl, hs⟩ (GroupsMoved.refl rest)
    · rw [huse] at hs
      exact .cons ⟨rfl, hs⟩ (ih _)

theorem dispatch_moved (b : Board) (state : Value) :
    GroupsMoved b.groups (b.dispatch state).1.groups := deliver_moved state none b.groups

theorem navigate_moved (b : Board) (move : Trail → Trail × Option Value) :
    GroupsMoved b.groups (b.navigate move).1.groups := by
  unfold navigate
  split
  · exact .refl b.groups
  · exact deliver_moved _ none b.groups

/-! ## Steps and runs -/

/-- A call moves charts of the groups there are, or adds a group of another name behind them. -/
theorem act_groups (hb : b.Named) (c : Call) :
    GroupsMoved b.groups (b.act c).groups ∨
      ∃ g, c = .add g ∧ b.groups.lookup g.id = none ∧
        (b.act c).groups = b.groups ++ [(g.id, .ofGroup g)] := by
  cases c with
  | add g =>
    show GroupsMoved b.groups (b.add g).1.groups ∨ _
    cases hg : b.groups.lookup g.id with
    | some s =>
      left
      unfold add
      rw [hg]
      exact .refl b.groups
    | none =>
      rcases hanchor : g.anchor b.journal with ⟨j, f | written⟩
      · left
        unfold add
        rw [hg, hanchor]
        exact .refl b.groups
      · refine Or.inr ⟨g, rfl, hg, ?_⟩
        show (b.add g).1.groups = _
        unfold add
        rw [hg, hanchor]
  | userSet id origin w =>
    exact Or.inl (hb.onGroup id fun g j => ⟨g.userSet_id j origin w,
      fun hplain => Group.userSet_forall (fun c hc => moveTo_plain hc _) hplain j origin⟩)
  | select id origin p =>
    exact Or.inl (hb.onGroup id fun g j => ⟨g.select_id j origin p,
      fun hplain => Group.select_forall (fun _ _ c hc => moveTo_plain hc _) hplain j⟩)
  | back => exact Or.inl (b.navigate_moved _)
  | forward => exact Or.inl (b.navigate_moved _)
  | dispatch state => exact Or.inl (b.dispatch_moved state)

theorem act_named (hb : b.Named) (c : Call) : (b.act c).Named := by
  rcases act_groups hb c with hmoved | ⟨g, -, hnew, hgroups⟩
  · exact hmoved.named hb
  · refine ⟨?_, ?_, ?_⟩
    · rw [hgroups]
      intro q hq
      rcases List.mem_append.1 hq with hq | hq
      · exact hb.own q hq
      · rw [List.mem_singleton.1 hq]
        rfl
    · rw [hgroups]
      intro q hq
      rcases List.mem_append.1 hq with hq | hq
      · exact hb.sound q hq
      · rw [List.mem_singleton.1 hq]
        rfl
    · unfold names
      rw [hgroups, List.map_append, List.map_singleton, List.nodup_append]
      refine ⟨hb.nodup, List.nodup_singleton _, ?_⟩
      intro k hk k' hk' heq
      rw [heq, List.mem_singleton.1 hk'] at hk
      exact lookup_eq_none_iff_not_mem.1 hnew hk

theorem run_named (j : Journal) (calls : List Call) : ((empty j).run calls).Named := by
  suffices hrun : ∀ b : Board, b.Named → (b.run calls).Named from hrun _ (empty_named j)
  induction calls with
  | nil => exact fun b hb => hb
  | cons c rest ih => exact fun b hb => ih _ (act_named hb c)

/-- The charts of a group that the call adds refuse no moves. -/
def Call.AddsPlain : Call → Prop
  | .add g => ∀ c ∈ g.charts, c.Plain
  | .userSet .. | .select .. | .back | .forward | .dispatch _ => True

instance : DecidablePred Call.AddsPlain := fun c =>
  match c with
  | .add g => inferInstanceAs (Decidable (∀ c ∈ g.charts, c.Plain))
  | .userSet .. | .select .. | .back | .forward | .dispatch _ => inferInstanceAs (Decidable True)

theorem act_plain (hb : b.Named) (hp : b.AllPlain) {c : Call} (hc : c.AddsPlain) :
    (b.act c).AllPlain := by
  rcases act_groups hb c with hmoved | ⟨g, rfl, -, hgroups⟩
  · exact hmoved.plain hp
  · unfold AllPlain
    rw [hgroups]
    intro q hq
    rcases List.mem_append.1 hq with hq | hq
    · exact hp q hq
    · rw [List.mem_singleton.1 hq]
      exact hc

theorem run_plain (j : Journal) {calls : List Call} (hcalls : ∀ c ∈ calls, c.AddsPlain) :
    ((empty j).run calls).AllPlain := by
  suffices hrun : ∀ b : Board, b.Named → b.AllPlain → (b.run calls).AllPlain from
    hrun _ (empty_named j) (by rintro p ⟨⟩)
  induction calls with
  | nil => exact fun b _ hp => hp
  | cons c rest ih =>
    intro b hb hp
    exact ih (fun d hd => hcalls d (List.mem_cons_of_mem c hd)) _ (act_named hb c)
      (act_plain hb hp (hcalls c List.mem_cons_self))

end Board

end LinkedCharts
