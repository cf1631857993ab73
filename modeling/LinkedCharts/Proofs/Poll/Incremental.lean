import LinkedCharts.Poll.Round
import LinkedCharts.Proofs.Group.Data
import Mathlib.Logic.Function.Basic
import Mathlib.Logic.Relation

/-!
# Polling neither loses nor repeats samples

Between planning a round and applying its answers the group is free, so that any number of rounds
can be on their way at once: planned from the same or an older newest sample, answered from
different states of the log, and applied in any order or not at all.

Every request that is out was made when its series held some beginning of the log, and every answer
is an excerpt of the log that leaves no gap behind what the series held then. Series only grow, so
that both stay true, and an excerpt without a gap extends what is held (`Series.appendAll_excerpt`).

Results:
* `Feed`, `Feed.Step`: a group, the logs of its series, and what is on its way.
* `Feed.Good`: the invariant.
* `Feed.step_good`: every step keeps it.
* `Feed.steps_keep_beginnings`: every series always holds the beginning of its log, and whatever is
  applied arrives.
* `Feed.finishRound_steps`: the second half of a round is a run of such steps.
-/

namespace LinkedCharts

/-! ## Steps -/

/-- A group whose series follow logs. -/
structure Feed (H : Type) where
  group : Group
  history : H
  /-- the log of the series in a slot -/
  logs : Slot → List Sample
  /-- requests that were sent and not answered yet -/
  waiting : List Request
  /-- answers that came in and were not applied yet -/
  settled : List (Request × List Sample)

/-- What a backend answers: the whole log, or what it has from the time of a sample on. Whether that
    sample is in the answer is left to the backend. -/
def Answers (log : List Sample) (since : Option Binary64) (answer : List Sample) : Prop :=
  match since with
  | none => answer = log
  | some t => answer = log.filter (fun x => t ≤ x.time) ∨ answer = log.filter (fun x => t < x.time)

namespace Feed

variable {H : Type}

/-- One thing that happens, at any time. -/
inductive Step [Recorder H] : Feed H → Feed H → Prop
  /-- a log gets newer samples -/
  | grow (f : Feed H) (slot : Slot) (newer : List Sample) (h : IsLog (f.logs slot ++ newer)) :
    Step f { f with logs := Function.update f.logs slot (f.logs slot ++ newer) }
  /-- a round is planned, and its requests are sent -/
  | plan (f : Feed H) : Step f { f with waiting := f.waiting ++ f.group.plan }
  /-- a request is answered from the log as it is now -/
  | settle (f : Feed H) (r : Request) (answer : List Sample) (hr : r ∈ f.waiting)
      (h : Answers (f.logs r.slot) r.since answer) :
    Step f { f with waiting := f.waiting.erase r, settled := (r, answer) :: f.settled }
  /-- a request fails, or its round is cut off -/
  | lose (f : Feed H) (r : Request) : Step f { f with waiting := f.waiting.erase r }
  /-- an answer comes too late for its round -/
  | discard (f : Feed H) (a : Request × List Sample) :
    Step f { f with settled := f.settled.erase a }
  /-- an answer is applied -/
  | apply (f : Feed H) (a : Request × List Sample) (ha : a ∈ f.settled) :
    Step f { f with
      group := (f.group.apply a.1.slot a.2).1
      settled := f.settled.erase a }
  /-- the host calls the group: windows change, the history navigates, charts are drawn -/
  | act (f : Feed H) (a : Action) (ha : Group.LeavesData a) :
    Step f { f with
      group := (f.group.act f.history a).1
      history := (f.group.act f.history a).2.1 }

/-! ## The invariant -/

/-- Every series that takes live data holds the beginning of its log. -/
def Holds (f : Feed H) : Prop :=
  ∀ slot s, f.group.series? slot = some s → s.IsPollable → s.samples.toList <+: f.logs slot

/-- The series in a slot takes live data and holds at least so many samples. -/
def Reaches (f : Feed H) (slot : Slot) (k : Nat) : Prop :=
  ∃ s, f.group.series? slot = some s ∧ s.IsPollable ∧ k ≤ s.samples.size

/-- The request was made when its series held the first `k` samples of the log, for some `k`. -/
def Asked (f : Feed H) (r : Request) : Prop :=
  ∃ k, f.Reaches r.slot k ∧ r.since = ((f.logs r.slot).take k).getLast?.map (·.time)

/-- The answer is an excerpt of the log that begins at what its series holds, or before its end. -/
def Fits (f : Feed H) (a : Request × List Sample) : Prop :=
  ∃ d m, f.Reaches a.1.slot d ∧ m ≤ (f.logs a.1.slot).length ∧
    a.2 = ((f.logs a.1.slot).take m).drop d

/-- What holds at any time of logs, series, requests and answers. -/
structure Good (f : Feed H) : Prop where
  logs : ∀ slot, IsLog (f.logs slot)
  held : f.Holds
  waiting : ∀ r ∈ f.waiting, f.Asked r
  settled : ∀ a ∈ f.settled, f.Fits a

/-- Logs and series have only grown. -/
structure Grown (f f' : Feed H) : Prop where
  logs : ∀ slot, f.logs slot <+: f'.logs slot
  reaches : ∀ slot k, f.Reaches slot k → f'.Reaches slot k

theorem take_of_extends {l l' : List Sample} (h : l <+: l') {k : Nat} (hk : k ≤ l.length) :
    l'.take k = l.take k := by
  obtain ⟨t, rfl⟩ := h
  exact List.take_append_of_le_length hk

theorem Good.size_le {f : Feed H} (h : f.Good) {slot : Slot} {k : Nat} (hk : f.Reaches slot k) :
    k ≤ (f.logs slot).length := by
  obtain ⟨s, hs, hpollable, hle⟩ := hk
  have := (h.held slot s hs hpollable).length_le
  rw [Array.length_toList] at this
  omega

theorem Good.asked_mono {f f' : Feed H} (h : f.Good) (hgrown : f.Grown f') {r : Request}
    (hr : f.Asked r) : f'.Asked r := by
  obtain ⟨k, hk, hsince⟩ := hr
  refine ⟨k, hgrown.reaches r.slot k hk, ?_⟩
  rw [take_of_extends (hgrown.logs r.slot) (h.size_le hk)]
  exact hsince

theorem Fits.mono {f f' : Feed H} (hgrown : f.Grown f') {a : Request × List Sample}
    (ha : f.Fits a) : f'.Fits a := by
  obtain ⟨d, m, hd, hm, hanswer⟩ := ha
  have hlen := (hgrown.logs a.1.slot).length_le
  refine ⟨d, m, hgrown.reaches a.1.slot d hd, Nat.le_trans hm hlen, ?_⟩
  rw [take_of_extends (hgrown.logs a.1.slot) hm]
  exact hanswer

/-- A step after which logs and series have only grown keeps the invariant, if the series still hold
    beginnings and what is new on its way is in order. -/
theorem Good.of_grown {f f' : Feed H} (h : f.Good) (hgrown : f.Grown f')
    (hlogs : ∀ slot, IsLog (f'.logs slot)) (hheld : f'.Holds)
    (hwaiting : ∀ r ∈ f'.waiting, r ∈ f.waiting ∨ f'.Asked r)
    (hsettled : ∀ a ∈ f'.settled, a ∈ f.settled ∨ f'.Fits a) : f'.Good where
  logs := hlogs
  held := hheld
  waiting := by
    intro r hr
    rcases hwaiting r hr with hold | hnew
    · exact h.asked_mono hgrown (h.waiting r hold)
    · exact hnew
  settled := by
    intro a ha
    rcases hsettled a ha with hold | hnew
    · exact (h.settled a hold).mono hgrown
    · exact hnew

/-! ## One step -/

theorem Grown.of_same {f f' : Feed H} (hgroup : f'.group = f.group) (hlogs : f'.logs = f.logs) :
    f.Grown f' := by
  refine ⟨fun slot => ?_, fun slot k hk => ?_⟩
  · exact ⟨[], by rw [List.append_nil, hlogs]⟩
  · unfold Reaches
    rw [hgroup]
    exact hk

/-- Dropping requests and answers keeps the invariant. -/
theorem Good.of_dropped {f : Feed H} (h : f.Good) {waiting : List Request}
    {settled : List (Request × List Sample)} (hwaiting : ∀ r ∈ waiting, r ∈ f.waiting)
    (hsettled : ∀ a ∈ settled, a ∈ f.settled) : Good { f with waiting, settled } :=
  h.of_grown (.of_same rfl rfl) h.logs h.held (fun r hr => Or.inl (hwaiting r hr))
    fun a ha => Or.inl (hsettled a ha)

theorem Good.grow {f : Feed H} (h : f.Good) {slot : Slot} {newer : List Sample}
    (hlog : IsLog (f.logs slot ++ newer)) :
    Good { f with logs := Function.update f.logs slot (f.logs slot ++ newer) } := by
  have hextends : ∀ other,
      f.logs other <+: Function.update f.logs slot (f.logs slot ++ newer) other := by
    intro other
    by_cases heq : other = slot
    · subst heq
      rw [Function.update_self]
      exact List.prefix_append _ _
    · exact ⟨[], by rw [List.append_nil, Function.update_of_ne heq]⟩
  have hlogs : ∀ other, IsLog (Function.update f.logs slot (f.logs slot ++ newer) other) := by
    intro other
    by_cases heq : other = slot
    · subst heq
      rw [Function.update_self]
      exact hlog
    · rw [Function.update_of_ne heq]
      exact h.logs other
  exact h.of_grown ⟨hextends, fun _ _ hk => hk⟩ hlogs
    (fun other s hs hpollable => (h.held other s hs hpollable).trans (hextends other))
    (fun _ hr => Or.inl hr) fun _ ha => Or.inl ha

theorem Good.plan {f : Feed H} (h : f.Good) :
    Good { f with waiting := f.waiting ++ f.group.plan } := by
  refine h.of_grown (.of_same rfl rfl) h.logs h.held ?_ fun _ ha => Or.inl ha
  intro r hr
  rcases List.mem_append.1 hr with hold | hnew
  · exact Or.inl hold
  · obtain ⟨s, hs, hpollable, hsince⟩ := Group.mem_plan hnew
    have hheld := List.prefix_iff_eq_take.1 (h.held r.slot s hs hpollable)
    rw [Array.length_toList] at hheld
    refine Or.inr ⟨s.samples.size, ⟨s, hs, hpollable, Nat.le_refl _⟩, ?_⟩
    rw [hsince, Series.lastTime?_eq, hheld]

/-- An answer to a request that was asked fits, whether it repeats the newest sample held or not. -/
theorem Good.fits_of_answers {f : Feed H} (h : f.Good) {r : Request} (hr : f.Asked r)
    {answer : List Sample} (ha : Answers (f.logs r.slot) r.since answer) : f.Fits (r, answer) := by
  obtain ⟨k, ⟨s, hs, hpollable, hk⟩, hsince⟩ := hr
  have hlen := h.size_le ⟨s, hs, hpollable, hk⟩
  -- any suffix of the log that begins at `d` is an excerpt that ends where the log ends
  have hfits : ∀ d, d ≤ k → answer = (f.logs r.slot).drop d → f.Fits (r, answer) := by
    intro d hd hanswer
    refine ⟨d, (f.logs r.slot).length, ⟨s, hs, hpollable, Nat.le_trans hd hk⟩, Nat.le_refl _, ?_⟩
    rw [List.take_length]
    exact hanswer
  unfold Answers at ha
  cases k with
  | zero =>
    rw [hsince] at ha
    exact hfits 0 (Nat.le_refl 0) ha
  | succ j =>
    rw [List.getLast?_take, if_neg (by omega), Nat.add_sub_cancel,
      List.getElem?_eq_getElem hlen] at hsince
    rw [hsince] at ha
    rcases ha with hfrom | hafter
    · exact hfits j (by omega) (hfrom.trans ((h.logs r.slot).filter_from hlen))
    · exact hfits (j + 1) (Nat.le_refl _) (hafter.trans ((h.logs r.slot).filter_after hlen))

/-- What an answer that fits does to its series: what is held goes as far as before, or as far as
    the answer goes. -/
theorem Good.applied {f : Feed H} (h : f.Good) {a : Request × List Sample} (ha : f.Fits a) :
    ∃ s m, f.group.series? a.1.slot = some s ∧ s.IsPollable ∧
      s.samples.size ≤ m ∧ m ≤ (f.logs a.1.slot).length ∧
      (s.appendAll a.2).samples.toList = (f.logs a.1.slot).take m ∧
      ∀ x ∈ a.2, x ∈ (f.logs a.1.slot).take m := by
  obtain ⟨d, m, ⟨s, hs, hpollable, hd⟩, hm, hanswer⟩ := ha
  have hn := h.size_le ⟨s, hs, hpollable, Nat.le_refl _⟩
  have hheld := List.prefix_iff_eq_take.1 (h.held a.1.slot s hs hpollable)
  rw [Array.length_toList] at hheld
  refine ⟨s, max s.samples.size m, hs, hpollable, Nat.le_max_left _ _, by omega, ?_, ?_⟩
  · rw [hanswer]
    exact Series.appendAll_excerpt (h.logs a.1.slot) hn hheld hd hm
  · intro x hx
    rw [hanswer] at hx
    exact (List.take_subset_take_left _ (Nat.le_max_right _ _)) (List.mem_of_mem_drop hx)

theorem Good.apply {f : Feed H} (h : f.Good) {a : Request × List Sample} (ha : a ∈ f.settled) :
    Good { f with
      group := (f.group.apply a.1.slot a.2).1
      settled := f.settled.erase a } := by
  obtain ⟨s, m, hs, hpollable, hsize, hm, hsamples, -⟩ := h.applied (h.settled a ha)
  obtain ⟨-, hseries⟩ := Group.apply_of_series? hs a.2
  have hlength : (s.appendAll a.2).samples.size = m := by
    rw [← Array.length_toList, hsamples, List.length_take, Nat.min_eq_left hm]
  refine h.of_grown ⟨fun slot => List.prefix_refl _, ?_⟩ h.logs ?_ (fun _ hr => Or.inl hr)
    fun _ hmem => Or.inl (List.mem_of_mem_erase hmem)
  · rintro slot k ⟨s', hs', hpollable', hk⟩
    by_cases heq : slot = a.1.slot
    · subst heq
      cases hs.symm.trans hs'
      refine ⟨s.appendAll a.2, ?_, (s.appendAll_isPollable a.2).2 hpollable, by omega⟩
      rw [hseries, if_pos rfl]
    · refine ⟨s', ?_, hpollable', hk⟩
      rw [hseries, if_neg heq]
      exact hs'
  · intro slot s' hs' hpollable'
    rw [hseries] at hs'
    by_cases heq : slot = a.1.slot
    · subst heq
      rw [if_pos rfl] at hs'
      cases hs'
      rw [hsamples]
      exact List.take_prefix _ _
    · rw [if_neg heq] at hs'
      exact h.held slot s' hs' hpollable'

theorem Good.act [Recorder H] {f : Feed H} (h : f.Good) {a : Action} (ha : Group.LeavesData a) :
    Good { f with
      group := (f.group.act f.history a).1
      history := (f.group.act f.history a).2.1 } := by
  have hseries := Group.series?_of_data (Group.act_data f.group f.history ha)
  refine h.of_grown ⟨fun slot => List.prefix_refl _, ?_⟩ h.logs ?_ (fun _ hr => Or.inl hr)
    fun _ hmem => Or.inl hmem
  · rintro slot k ⟨s, hs, hpollable, hk⟩
    exact ⟨s, (hseries slot).trans hs, hpollable, hk⟩
  · intro slot s hs hpollable
    exact h.held slot s ((hseries slot).symm.trans hs) hpollable

/-- Every step keeps the invariant. -/
theorem step_good [Recorder H] {f f' : Feed H} (h : f.Good) (hstep : Step f f') : f'.Good := by
  cases hstep with
  | grow slot newer hlog => exact h.grow hlog
  | plan => exact h.plan
  | settle r answer hr ha =>
    refine h.of_grown (.of_same rfl rfl) h.logs h.held
      (fun r' hr' => Or.inl (List.mem_of_mem_erase hr')) ?_
    intro a hmem
    rcases List.mem_cons.1 hmem with rfl | hold
    · exact Or.inr (h.fits_of_answers (h.waiting r hr) ha)
    · exact Or.inl hold
  | lose r => exact h.of_dropped (fun _ => List.mem_of_mem_erase) fun _ hmem => hmem
  | discard a => exact h.of_dropped (fun _ hmem => hmem) fun _ => List.mem_of_mem_erase
  | apply a ha => exact h.apply ha
  | act a ha => exact h.act ha

/-! ## Runs -/

/-- Any number of steps in any order. -/
abbrev Steps [Recorder H] : Feed H → Feed H → Prop := Relation.ReflTransGen Step

theorem steps_good [Recorder H] {f f' : Feed H} (h : f.Good) (hsteps : Steps f f') : f'.Good := by
  induction hsteps with
  | refl => exact h
  | tail _ hstep ih => exact step_good ih hstep

/-- Polling neither loses nor repeats samples, whatever is on its way and in whatever order it
    arrives. From series that hold beginnings of their logs on, with nothing on its way yet, every
    series always holds the beginning of its log, and an answer that is applied is taken: its series
    then holds everything that was in it. -/
theorem steps_keep_beginnings [Recorder H] {start f : Feed H}
    (hlogs : ∀ slot, IsLog (start.logs slot)) (hheld : start.Holds) (hwaiting : start.waiting = [])
    (hsettled : start.settled = []) (hsteps : Steps start f) :
    f.Holds ∧
    ∀ a ∈ f.settled,
      (∃ kept, (f.group.apply a.1.slot a.2).2 = .ok kept) ∧
      ∃ s, (f.group.apply a.1.slot a.2).1.series? a.1.slot = some s ∧ s.IsPollable ∧
        s.samples.toList <+: f.logs a.1.slot ∧ ∀ x ∈ a.2, x ∈ s.samples := by
  have hstart : start.Good := by
    refine ⟨hlogs, hheld, ?_, ?_⟩
    · rw [hwaiting]
      rintro r ⟨⟩
    · rw [hsettled]
      rintro a ⟨⟩
  have hgood := steps_good hstart hsteps
  refine ⟨hgood.held, ?_⟩
  intro a ha
  obtain ⟨s, m, hs, hpollable, -, -, hsamples, hall⟩ := hgood.applied (hgood.settled a ha)
  obtain ⟨hkept, hseries⟩ := Group.apply_of_series? hs a.2
  refine ⟨hkept, s.appendAll a.2, ?_, (s.appendAll_isPollable a.2).2 hpollable, ?_, ?_⟩
  · rw [hseries, if_pos rfl]
  · rw [hsamples]
    exact List.take_prefix _ _
  · intro x hx
    rw [← Array.mem_toList_iff, hsamples]
    exact hall x hx

/-- A group with one empty series, whose log has one sample so far. -/
def emptyFeed : Feed Trail where
  group :=
    ⟨⟨"load"⟩, [{ Chart.showing ⟨0, 10⟩ [] with series := [.empty "cpu" .line (some "/cpu")] }],
      false, 1, .none⟩
  history := .start
  logs := fun _ => [⟨1, 5⟩]
  waiting := []
  settled := []

/-- Two rounds are planned from the same empty series. The first is answered, the log grows, the
    second is answered and applied, and the answer of the first comes late. -/
theorem steps_keep_beginnings_overlapping :
    ∃ f, Steps emptyFeed f ∧ f.settled = [(⟨⟨0, 0⟩, "/cpu", none⟩, [⟨1, 5⟩])] ∧
      (f.group.series? ⟨0, 0⟩).map (·.samples.toList) = some [⟨1, 5⟩, ⟨2, 6⟩] ∧ f.Holds ∧
      ∃ s, (f.group.apply ⟨0, 0⟩ [⟨1, 5⟩]).1.series? ⟨0, 0⟩ = some s ∧
        s.samples.toList <+: f.logs ⟨0, 0⟩ ∧ ⟨1, 5⟩ ∈ s.samples := by
  have hheld : emptyFeed.Holds := by
    intro slot s hs _
    obtain ⟨c, hc, hseries⟩ := Group.series?_eq_some_iff.1 hs
    obtain rfl := List.mem_singleton.1 (List.mem_of_getElem? hc)
    obtain rfl := List.mem_singleton.1 (List.mem_of_getElem? hseries)
    exact List.nil_prefix
  have h₁ := Step.plan emptyFeed
  have h₂ := Step.plan { emptyFeed with waiting := emptyFeed.group.plan }
  have h₃ := Step.settle
    { emptyFeed with waiting := emptyFeed.group.plan ++ emptyFeed.group.plan }
    ⟨⟨0, 0⟩, "/cpu", none⟩ [⟨1, 5⟩] (by decide +kernel) rfl
  have h₄ := Step.grow
    { emptyFeed with
      waiting := emptyFeed.group.plan
      settled := [(⟨⟨0, 0⟩, "/cpu", none⟩, [⟨1, 5⟩])] }
    ⟨0, 0⟩ [⟨2, 6⟩] (by decide +kernel)
  have h₅ := Step.settle
    { emptyFeed with
      logs := Function.update emptyFeed.logs ⟨0, 0⟩ [⟨1, 5⟩, ⟨2, 6⟩]
      waiting := emptyFeed.group.plan
      settled := [(⟨⟨0, 0⟩, "/cpu", none⟩, [⟨1, 5⟩])] }
    ⟨⟨0, 0⟩, "/cpu", none⟩ [⟨1, 5⟩, ⟨2, 6⟩] (by decide +kernel) rfl
  have h₆ := Step.apply
    { emptyFeed with
      logs := Function.update emptyFeed.logs ⟨0, 0⟩ [⟨1, 5⟩, ⟨2, 6⟩]
      settled := [(⟨⟨0, 0⟩, "/cpu", none⟩, [⟨1, 5⟩, ⟨2, 6⟩]),
        (⟨⟨0, 0⟩, "/cpu", none⟩, [⟨1, 5⟩])] }
    (⟨⟨0, 0⟩, "/cpu", none⟩, [⟨1, 5⟩, ⟨2, 6⟩]) List.mem_cons_self
  have hsteps := (((((Relation.ReflTransGen.single h₁).tail h₂).tail h₃).tail h₄).tail h₅).tail h₆
  have hlog : IsLog [⟨1, 5⟩] := by decide +kernel
  obtain ⟨hholds, happlied⟩ := steps_keep_beginnings (fun _ => hlog) hheld rfl rfl hsteps
  obtain ⟨-, s, hs, -, hbeginning, hall⟩ :=
    happlied (⟨⟨0, 0⟩, "/cpu", none⟩, [⟨1, 5⟩]) (by decide +kernel)
  exact ⟨_, hsteps, by decide +kernel, by decide +kernel, hholds, s, hs, hbeginning,
    hall _ List.mem_cons_self⟩

/-! ## Rounds -/

/-- The answers of a round that are no failures. -/
def arrived (answers : List Settled) : List (Request × List Sample) :=
  answers.filterMap fun (request, result) => result.toOption.map fun samples => (request, samples)

theorem settleAll_steps [Recorder H] (f : Feed H) (answers : List Settled) (report : TickReport)
    (others : List (Request × List Sample)) (h : f.settled.Perm (arrived answers ++ others)) :
    ∃ f', Steps f f' ∧ f'.group = (settleAll f.group report answers).1 := by
  induction answers generalizing f report with
  | nil => exact ⟨f, .refl, rfl⟩
  | cons head rest ih =>
    obtain ⟨request, result⟩ := head
    cases result with
    | error e => exact ih f _ h
    | ok samples =>
      have hmem : (request, samples) ∈ f.settled := h.mem_iff.2 List.mem_cons_self
      have hstep := Step.apply f (request, samples) hmem
      have hrest : (f.settled.erase (request, samples)).Perm (arrived rest ++ others) := by
        have herase := h.erase (request, samples)
        change (f.settled.erase (request, samples)).Perm
          (((request, samples) :: (arrived rest ++ others)).erase (request, samples)) at herase
        rwa [List.erase_cons_head] at herase
      unfold settleAll
      dsimp only
      rcases happly : f.group.apply request.slot samples with ⟨g, e | kept⟩
      · refine ⟨_, .single hstep, ?_⟩
        show (f.group.apply request.slot samples).1 = g
        rw [happly]
      · obtain ⟨f', hsteps, hgroup⟩ := ih { f with
            group := (f.group.apply request.slot samples).1
            settled := f.settled.erase (request, samples) }
          { report with completed := report.completed + 1, appended := report.appended + kept }
          hrest
        refine ⟨f', .head hstep hsteps, ?_⟩
        rw [hgroup]
        dsimp only
        rw [happly]

/-- The second half of a round, from the group that it finds to the group that it leaves, is a run
    of steps: its answers are applied, and the charts are drawn. -/
theorem finishRound_steps [Recorder H] (f : Feed H) (answers : List Settled) (issued : Nat)
    (timedOut : Bool) (others : List (Request × List Sample))
    (h : f.settled.Perm (arrived answers ++ others)) :
    ∃ f', Steps f f' ∧ f'.group = (f.group.finishRound issued timedOut answers).1 := by
  obtain ⟨f₁, hsteps, hgroup⟩ := settleAll_steps f answers ⟨issued, 0, 0, 0, timedOut⟩ others h
  unfold Group.finishRound
  rcases hsettle : settleAll f.group ⟨issued, 0, 0, 0, timedOut⟩ answers with ⟨g, e | report⟩
  · exact ⟨f₁, hsteps, by rw [hgroup, hsettle]⟩
  · have hg : f₁.group = g := by rw [hgroup, hsettle]
    refine ⟨_, hsteps.tail (Step.act f₁ .redraw trivial), ?_⟩
    show f₁.group.redraw.1 = _
    rw [hg]
    dsimp only
    rcases g.redraw with ⟨g', e | ⟨⟩⟩
    · rfl
    · rfl

end Feed

end LinkedCharts
