import LinkedCharts.Proofs.Board.Routing
import LinkedCharts.Proofs.Group.Alike

/-!
# Groups do not interfere

The groups of a board write to one history and hear of the same states. A group cannot tell the
history from one of its own, since it never reads it, and it ignores the states of others. So among
groups that nothing refuses, each goes through just the states that it would go through alone, and
gives the same answers. The order of what concerns different groups makes no difference.

Results:
* `Board.Step`, `Board.perform`: what a host does with a board and with the handles of its groups.
* `Board.Step.toward`, `Board.Reply.heardBy`: what of this concerns one group.
* `Board.Isolated`, `Board.step_isolated`: one step is to a group what its own part of it is.
* `Board.Open`, `Board.run_open`: boards that refuse nothing, and how they come about.
* `Board.perform_isolates`: whole runs, and any other order of them.
-/

namespace LinkedCharts

open Json

namespace Board

variable {b : Board}

/-! ## Steps -/

/-- What a host does with a board and with the handles of its groups. -/
inductive Step
  | userSet (id : GroupId) (origin : Nat) (w : Window)
  | select (id : GroupId) (origin : Nat) (p : Preset)
  | dispatch (state : Value)
  /-- a call to a group of which the host holds a handle -/
  | handle (id : GroupId) (a : Action)

/-- What the host hears of a step. -/
inductive Reply
  | answered (id : GroupId) (answer : Except Fault CallResult)
  | dispatched (state : Value) (answer : Except Fault (Option GroupId))

/-- The board after a step, and the reply. -/
def step (b : Board) : Step → Board × Reply
  | .userSet id origin w =>
    let (b, answer) := b.userSet id origin w
    (b, .answered id (answer.map .outcome))
  | .select id origin p =>
    let (b, answer) := b.select id origin p
    (b, .answered id (answer.map .outcome))
  | .dispatch state =>
    let (b, answer) := b.dispatch state
    (b, .dispatched state answer)
  | .handle id a =>
    let (b, answer) := b.onGroup id fun g j => g.act j a
    (b, .answered id answer)

/-- The board after steps in order, whatever the replies are, and the replies. -/
def perform (b : Board) : List Step → Board × List Reply
  | [] => (b, [])
  | x :: rest =>
    let (b, reply) := b.step x
    let (b, replies) := b.perform rest
    (b, reply :: replies)

/-! ## What concerns one group -/

/-- The step as a call to the group of a name, if it concerns that group: it is addressed to it, or
    delivers an entry of that name. -/
def Step.toward (t : GroupId) : Step → Option Action
  | .userSet id origin w => if id = t then some (.userSet origin w) else none
  | .select id origin p => if id = t then some (.select origin p) else none
  | .dispatch state => if owner? state = some t then some (.navigated state) else none
  | .handle id a => if id = t then some a else none

/-- The reply as the result of a call to the group of a name, if it concerns that group. -/
def Reply.heardBy (t : GroupId) : Reply → Option (Except Fault CallResult)
  | .answered id answer => if id = t then some answer else none
  | .dispatched state answer =>
    if owner? state = some t then some (answer.map fun taker => .restored (taker = some t))
    else none

/-- Steps next to each other of which one does not concern the group can change places. -/
theorem toward_swap {t : GroupId} {x y : Step} (h : x.toward t = none ∨ y.toward t = none)
    (rest : List Step) :
    (y :: x :: rest).filterMap (Step.toward t) = (x :: y :: rest).filterMap (Step.toward t) := by
  rcases h with hx | hy
  · simp only [List.filterMap_cons, hx]
  · simp only [List.filterMap_cons, hy]

/-- Nothing on the board refuses anything: no lock, no chart and not the journal. -/
structure Open (b : Board) : Prop where
  named : b.Named
  plain : b.AllPlain
  accepts : b.journal.Accepts

/-- To the group of a name, what led to this board and these replies is what the calls are to the
    group alone, with a history of its own. -/
structure Isolated (t : GroupId) (s : Shared) (own : Trail) (calls : List Action) (after : Board)
    (replies : List Reply) : Prop where
  group : after.groups.lookup t = some { s with group := (s.group.run own calls).group }
  answers : replies.filterMap (Reply.heardBy t) = (s.group.run own calls).results

variable {t : GroupId} {s : Shared} {own : Trail}

/-- A part that does not concern the group. -/
theorem Isolated.of_foreign {after : Board} {x : Step} {reply : Reply}
    (hs : after.groups.lookup t = some s) (hx : x.toward t = none)
    (hreply : reply.heardBy t = none) :
    Isolated t s own ([x].filterMap (Step.toward t)) after [reply] := by
  rw [List.filterMap_cons_none hx]
  refine ⟨hs, ?_⟩
  rw [List.filterMap_cons_none hreply]
  rfl

/-- A part that is one call to the group. -/
theorem Isolated.of_call {after : Board} {x : Step} {reply : Reply} {a : Action}
    (hx : x.toward t = some a)
    (hgroup : after.groups.lookup t = some { s with group := (s.group.act own a).1 })
    (hreply : reply.heardBy t = some (s.group.act own a).2.2) :
    Isolated t s own ([x].filterMap (Step.toward t)) after [reply] := by
  rw [List.filterMap_cons_some hx]
  refine ⟨hgroup, ?_⟩
  rw [List.filterMap_cons_some hreply]
  rfl

/-- One part after the other. -/
theorem Isolated.trans {between after : Board} {before later : List Action}
    {replies more : List Reply} (h : Isolated t s own before between replies)
    (hmore : Isolated t { s with group := (s.group.run own before).group }
      (s.group.run own before).history later after more) :
    Isolated t s own (before ++ later) after (replies ++ more) := by
  refine ⟨?_, ?_⟩
  · rw [hmore.group, Group.run_append]
  · rw [List.filterMap_append, h.answers, hmore.answers, Group.run_append]

/-! ## One step -/

/-- A step that is a call to one group, up to how its answer is told. -/
theorem step_handle_eq (hb : b.Named) {α : Type} (id : GroupId) {a : Action}
    (act : Group → Journal → Group × Journal × Except Fault α) {tell : α → CallResult}
    (hact : ∀ g j, g.act j a = ((act g j).1, (act g j).2.1, (act g j).2.2.map tell)) :
    b.step (.handle id a) =
      ((b.onGroup id act).1, .answered id ((b.onGroup id act).2.map tell)) := by
  unfold step
  dsimp only
  cases hs : b.groups.lookup id with
  | none =>
    rw [onGroup_of_none hs, onGroup_of_none hs]
    rfl
  | some s =>
    have hsound := hb.sound _ (mem_of_lookup hs)
    rw [onGroup_of_lookup hs hsound, onGroup_of_lookup hs hsound, hact]

/-- Every step but a delivery is a call to one group. -/
theorem step_cases (hb : b.Named) (x : Step) :
    (∃ state, x = .dispatch state) ∨
    ∃ id a, b.step x = b.step (.handle id a) ∧ ∀ t, x.toward t = (Step.handle id a).toward t := by
  cases x with
  | userSet id origin w =>
    refine Or.inr ⟨id, .userSet origin w, ?_, fun _ => rfl⟩
    rw [step_handle_eq hb id (fun g j => g.userSet j origin w) fun _ _ => rfl]
    rfl
  | select id origin p =>
    refine Or.inr ⟨id, .select origin p, ?_, fun _ => rfl⟩
    rw [step_handle_eq hb id (fun g j => g.select j origin p) fun _ _ => rfl]
    rfl
  | dispatch state => exact Or.inl ⟨state, rfl⟩
  | handle id a => exact Or.inr ⟨id, a, rfl, fun _ => rfl⟩

/-- A call through a handle reaches the group of that name, and no other. -/
theorem handle_isolated (hb : b.Open) (hs : b.groups.lookup t = some s) (own : Trail) (id : GroupId)
    (a : Action) :
    Isolated t s own ([Step.handle id a].filterMap (Step.toward t)) (b.step (.handle id a)).1
      [(b.step (.handle id a)).2] := by
  unfold step
  dsimp only
  by_cases hid : id = t
  · subst hid
    obtain ⟨hgroup, hanswer, -⟩ :=
      Group.act_alike Journal.accepts_alike (k := own) hb.accepts s.group a
    rw [onGroup_of_lookup hs (hb.named.sound _ (mem_of_lookup hs)), hgroup, hanswer]
    refine .of_call (if_pos rfl) ?_ (if_pos rfl)
    dsimp only
    rw [lookup_put, hs, Option.map_some, if_pos rfl]
  · refine .of_foreign ?_ (if_neg hid) (if_neg hid)
    cases hother : b.groups.lookup id with
    | none =>
      rw [onGroup_of_none hother]
      exact hs
    | some s' =>
      rw [onGroup_of_lookup hother (hb.named.sound _ (mem_of_lookup hother))]
      dsimp only
      rw [lookup_put, hs, Option.map_some, if_neg (Ne.symm hid)]

/-- A state that is delivered reaches the group that it belongs to, and no other. -/
theorem dispatch_isolated (hb : b.Open) (hs : b.groups.lookup t = some s) (own : Trail)
    (state : Value) :
    Isolated t s own ([Step.dispatch state].filterMap (Step.toward t)) (b.step (.dispatch state)).1
      [(b.step (.dispatch state)).2] := by
  have hpair := mem_of_lookup hs
  have hid : s.group.id = t := hb.named.own _ hpair
  have hlookup : (b.groups.map fun p => (p.1, offered state p.2)).lookup t =
      some (offered state s) := by
    rw [lookup_map, hs, Option.map_some]
  unfold step
  dsimp only
  rw [dispatch_eq hb.named hb.plain]
  by_cases howner : owner? state = some t
  · have hfound : (owner? state).filter (· ∈ b.names) = some t := by
      have hmem : t ∈ b.names := List.mem_map_of_mem hpair
      rw [howner, Option.filter_some, if_pos (decide_eq_true hmem)]
    have hanswer := navigated_answer (hb.plain _ hpair) state
    rw [hid, decide_eq_true howner] at hanswer
    refine .of_call (a := .navigated state) (if_pos howner) hlookup ?_
    show (if owner? state = some t then _ else _) =
      some ((s.group.navigated state).2.map CallResult.restored)
    rw [if_pos howner, hfound, hanswer]
    simp [Except.map]
  · refine .of_foreign ?_ (if_neg howner) (if_neg howner)
    rw [hlookup, offered_of_foreign (hid ▸ howner)]

/-- To each group, a step is what its own part of it is. -/
theorem step_isolated (hb : b.Open) (hs : b.groups.lookup t = some s) (own : Trail) (x : Step) :
    Isolated t s own ([x].filterMap (Step.toward t)) (b.step x).1 [(b.step x).2] := by
  rcases step_cases hb.named x with ⟨state, rfl⟩ | ⟨id, a, hstep, htoward⟩
  · exact dispatch_isolated hb hs own state
  · have hcalls : [x].filterMap (Step.toward t) = [Step.handle id a].filterMap (Step.toward t) := by
      simp only [List.filterMap_cons, htoward]
    rw [hstep, hcalls]
    exact handle_isolated hb hs own id a

/-! ## Boards that refuse nothing -/

/-- A step moves charts of the groups there are. -/
theorem Open.step_moved (hb : b.Open) (x : Step) : GroupsMoved b.groups (b.step x).1.groups := by
  rcases step_cases hb.named x with ⟨state, rfl⟩ | ⟨id, a, hstep, -⟩
  · exact b.dispatch_moved state
  · rw [hstep]
    refine hb.named.onGroup id fun g j => ⟨g.act_id j a, fun hplain => ?_⟩
    exact Group.act_forall (P := Chart.Plain) (fun w c hc => moveTo_plain hc w)
      (fun index x c hc => Chart.append_plain hc index x) (fun c hc => Chart.redraw_plain hc)
      hplain j a

theorem Open.step_accepts (hb : b.Open) (x : Step) : (b.step x).1.journal.Accepts := by
  rcases step_cases hb.named x with ⟨state, rfl⟩ | ⟨id, a, hstep, -⟩
  · exact hb.accepts
  · rw [hstep]
    show (b.onGroup id fun g j => g.act j a).1.journal.Accepts
    cases hs : b.groups.lookup id with
    | none =>
      rw [onGroup_of_none hs]
      exact hb.accepts
    | some s =>
      have hagree :=
        Group.act_alike Journal.accepts_alike (k := b.journal.trail) hb.accepts s.group a
      rw [onGroup_of_lookup hs (hb.named.sound _ (mem_of_lookup hs))]
      exact hagree.histories

/-- After a step there is still nothing that refuses. -/
theorem Open.step (hb : b.Open) (x : Step) : (b.step x).1.Open :=
  ⟨(hb.step_moved x).named hb.named, (hb.step_moved x).plain hb.plain, hb.step_accepts x⟩

theorem Open.perform (hb : b.Open) (steps : List Step) : (b.perform steps).1.Open := by
  induction steps generalizing b with
  | nil => exact hb
  | cons x rest ih => exact ih (hb.step x)

theorem navigate_accepts (hj : b.journal.Accepts) (move : Trail → Trail × Option Value) :
    (b.navigate move).1.journal.Accepts := by
  unfold navigate
  split
  · exact hj
  · exact hj

theorem add_accepts (hj : b.journal.Accepts) (g : Group) : (b.add g).1.journal.Accepts := by
  have hanchor := (Group.anchor_alike Journal.accepts_alike (k := b.journal.trail) hj g).2
  unfold add
  split
  · exact hj
  · split
    · rename_i heq
      rw [heq] at hanchor
      exact hanchor
    · rename_i heq
      rw [heq] at hanchor
      exact hanchor

/-- A call whose charts refuse nothing leaves nothing that refuses. -/
theorem act_open (hb : b.Open) {c : Call} (hc : c.AddsPlain) : (b.act c).Open := by
  refine ⟨act_named hb.named c, act_plain hb.named hb.plain hc, ?_⟩
  cases c with
  | add g => exact add_accepts hb.accepts g
  | userSet id origin w => exact (hb.step (.userSet id origin w)).accepts
  | select id origin p => exact (hb.step (.select id origin p)).accepts
  | back => exact navigate_accepts hb.accepts _
  | forward => exact navigate_accepts hb.accepts _
  | dispatch state => exact hb.accepts

/-- Boards to which groups of plain charts were added refuse nothing, unless their journal does. -/
theorem run_open {calls : List Call} (hcalls : ∀ c ∈ calls, c.AddsPlain) :
    ((empty (Journal.start [])).run calls).Open := by
  suffices hrun : ∀ b : Board, b.Open → (b.run calls).Open from
    hrun _ ⟨empty_named _, by rintro p ⟨⟩, rfl⟩
  induction calls with
  | nil => exact fun b hb => hb
  | cons c rest ih =>
    obtain ⟨hc, hrest⟩ := List.forall_mem_cons.1 hcalls
    exact fun b hb => ih hrest _ (act_open hb hc)

/-! ## Runs -/

/-- To each group, a run is what its own part of it is. -/
theorem perform_isolated (hb : b.Open) (hs : b.groups.lookup t = some s) (own : Trail)
    (steps : List Step) :
    Isolated t s own (steps.filterMap (Step.toward t)) (b.perform steps).1 (b.perform steps).2 := by
  induction steps generalizing b s own with
  | nil => exact ⟨hs, rfl⟩
  | cons x rest ih =>
    have hone := step_isolated hb hs own x
    have hrest := hone.trans (ih (hb.step x) hone.group _)
    rwa [← List.filterMap_append] at hrest

theorem perform_names (hb : b.Open) (steps : List Step) : (b.perform steps).1.names = b.names := by
  induction steps generalizing b with
  | nil => rfl
  | cons x rest ih => exact (ih (hb.step x)).trans (hb.step_moved x).names

/-- In any run of a board that refuses nothing, every group comes to the state that it would come to
    alone, with a history of its own, by the calls that are addressed to it and the states that
    belong to it; and these are answered as they would be alone. Names stay as they are. So any
    other run that has the same in store for every group, in whatever order, leads to the same
    groups and the same answers. -/
theorem perform_isolates (hb : b.Open) (steps : List Step) :
    (∀ t s, b.groups.lookup t = some s → ∀ own : Trail,
      let alone := s.group.run own (steps.filterMap (Step.toward t))
      (b.perform steps).1.groups.lookup t = some { s with group := alone.group } ∧
      (b.perform steps).2.filterMap (Reply.heardBy t) = alone.results) ∧
    (b.perform steps).1.names = b.names ∧
    ∀ others, (∀ t ∈ b.names, others.filterMap (Step.toward t) = steps.filterMap (Step.toward t)) →
      (b.perform others).1.groups = (b.perform steps).1.groups ∧
      ∀ t ∈ b.names, (b.perform others).2.filterMap (Reply.heardBy t) =
        (b.perform steps).2.filterMap (Reply.heardBy t) := by
  refine ⟨?_, perform_names hb steps, ?_⟩
  · intro t s hs own
    obtain ⟨hgroup, hanswers⟩ := perform_isolated hb hs own steps
    exact ⟨hgroup, hanswers⟩
  · intro others hsame
    have heach : ∀ t ∈ b.names,
        (b.perform others).1.groups.lookup t = (b.perform steps).1.groups.lookup t ∧
        (b.perform others).2.filterMap (Reply.heardBy t) =
          (b.perform steps).2.filterMap (Reply.heardBy t) := by
      intro t ht
      obtain ⟨s, hs⟩ := Option.ne_none_iff_exists'.1 fun hnone =>
        lookup_eq_none_iff_not_mem.1 hnone ht
      obtain ⟨hgroup, hanswers⟩ := perform_isolated hb hs Trail.start steps
      obtain ⟨hgroup', hanswers'⟩ := perform_isolated hb hs Trail.start others
      rw [hsame t ht] at hgroup' hanswers'
      exact ⟨hgroup'.trans hgroup.symm, hanswers'.trans hanswers.symm⟩
    refine ⟨?_, fun t ht => (heach t ht).2⟩
    have hnames : (b.perform others).1.names = (b.perform steps).1.names :=
      (perform_names hb others).trans (perform_names hb steps).symm
    refine eq_of_lookup hnames (hb.perform others).named.nodup fun t ht => (heach t ?_).1
    rwa [← perform_names hb others]

/-- A board with two groups. -/
def twoGroups : Board :=
  (empty (Journal.start [])).run
    [.add Group.mixedGroup, .add { Group.mixedGroup with id := ⟨"cpu"⟩ }]

/-- A window for the one group. -/
def cpuStep : Step := .userSet ⟨"cpu"⟩ 0 ⟨1, 9⟩

/-- A window for the other group, on a chart that it does not have. -/
def loadStep : Step := .userSet ⟨"load"⟩ 4 ⟨1, 9⟩

/-- A state of each group, a preset for the one and a drawing of the other. -/
def laterSteps : List Step :=
  [.dispatch (Entry.toState ⟨⟨"cpu"⟩, ⟨2, 8⟩⟩), .select ⟨"load"⟩ 1 .second,
    .dispatch (Entry.toState ⟨⟨"load"⟩, ⟨2, 8⟩⟩), .handle ⟨"cpu"⟩ .redraw]

theorem perform_isolates_in_turn :
    (twoGroups.perform (cpuStep :: loadStep :: laterSteps)).2.filterMap (Reply.heardBy ⟨"load"⟩) =
      [.error (.unknownChart "load" 4 4), .ok (.outcome (.broadcast 2)), .ok (.restored true)] ∧
    (twoGroups.perform (loadStep :: cpuStep :: laterSteps)).1.groups =
      (twoGroups.perform (cpuStep :: loadStep :: laterSteps)).1.groups := by
  have hopen : twoGroups.Open := run_open (by decide +kernel)
  obtain ⟨halone, -, hreordered⟩ := perform_isolates hopen (cpuStep :: loadStep :: laterSteps)
  constructor
  · obtain ⟨-, hanswers⟩ := halone ⟨"load"⟩ (.ofGroup Group.mixedGroup) (by decide +kernel) .start
    exact hanswers.trans (by decide +kernel)
  · refine (hreordered _ fun t _ => toward_swap ?_ laterSteps).1
    by_cases ht : (⟨"cpu"⟩ : GroupId) = t
    · subst ht
      exact Or.inr rfl
    · exact Or.inl (if_neg ht)

end Board

end LinkedCharts
