import LinkedCharts.Poll.Poller
import LinkedCharts.Proofs.Group.Data
import Mathlib.Data.List.Nodup
import Mathlib.Data.List.Perm.Subperm

/-!
# The answers of a round

The requests of a round are answered whenever their fetches are done, and the answers are applied in
that order. No two of them are for the same series, samples change no series but their own, and the
axes follow the data only in the drawing at the end: so it makes no difference which answer comes
first. That holds whatever the answers are, and whatever happens to the group while the round waits.

Results:
* `Group.settleAll_eq`: what the answers of a round do to the group and to the report.
* `Group.finishRound_eq`, `Group.finishRound_perm`: what the second half of a round does, and that
  it does the same for answers in another order.
* `Site.launch_isFor`: what is known of the answers when a round stops waiting.
* `Site.completion_order_is_invisible`: rounds that get the same answers in different orders leave
  the same group and the same report.
-/

namespace LinkedCharts

/-! ## Applying answers -/

namespace Group

/-- The group with the samples of an answer in their series. A failure brings none. -/
def absorb (g : Group) (a : Settled) : Group :=
  match a.2 with
  | .error _ => g
  | .ok samples => g.modifySeries a.1.slot (·.appendAll samples)

/-- How many samples of an answer its series accepts. -/
def gain (g : Group) (a : Settled) : Nat :=
  match a.2 with
  | .error _ => 0
  | .ok samples => ((g.series? a.1.slot).map (·.accepted samples)).getD 0

theorem gain_of_series? {g : Group} {r : Request} {s : Series} (hs : g.series? r.slot = some s)
    (samples : List Sample) : g.gain (r, .ok samples) = s.accepted samples := by
  unfold gain
  dsimp only
  rw [hs]
  rfl

/-- A report with some answers added to it. -/
def tally (g : Group) (report : TickReport) (settled : List Settled) : TickReport :=
  { report with
    completed := report.completed + settled.length
    failed := report.failed + settled.countP fun a => !a.2.isOk
    appended := report.appended + (settled.map g.gain).sum }

/-- The answers are for different series, all of which are there. -/
structure Expects (g : Group) (settled : List Settled) : Prop where
  there : ∀ a ∈ settled, ∃ s, g.series? a.1.slot = some s
  distinct : (settled.map fun a => a.1.slot).Nodup

variable {g : Group} {a : Settled} {rest settled : List Settled}

/-- An answer leaves all series alone that others are for. -/
theorem series?_absorb (g : Group) (a : Settled) {slot : Slot} (h : slot ≠ a.1.slot) :
    (g.absorb a).series? slot = g.series? slot := by
  unfold absorb
  split
  · rfl
  · rw [series?_modifySeries, if_neg h]

theorem Expects.slot_ne (h : g.Expects (a :: rest)) {b : Settled} (hb : b ∈ rest) :
    b.1.slot ≠ a.1.slot := by
  have hdistinct := h.distinct
  rw [List.map_cons, List.nodup_cons] at hdistinct
  exact fun heq => hdistinct.1 (List.mem_map.2 ⟨b, hb, heq⟩)

theorem Expects.tail (h : g.Expects (a :: rest)) : (g.absorb a).Expects rest where
  there := by
    intro b hb
    rw [series?_absorb g a (h.slot_ne hb)]
    exact h.there b (List.mem_cons_of_mem a hb)
  distinct := (List.nodup_cons.1 h.distinct).2

/-- What the other answers bring is not changed by one of them. -/
theorem Expects.gain_tail (h : g.Expects (a :: rest)) :
    rest.map (g.absorb a).gain = rest.map g.gain := by
  refine List.map_congr_left fun b hb => ?_
  unfold gain
  rw [series?_absorb g a (h.slot_ne hb)]

theorem Expects.tally_cons (h : g.Expects (a :: rest)) (report : TickReport) :
    g.tally report (a :: rest) = (g.absorb a).tally { report with
      completed := report.completed + 1
      failed := report.failed + (!a.2.isOk).toNat
      appended := report.appended + g.gain a } rest := by
  unfold tally
  rw [h.gain_tail, List.length_cons, countP_cons_toNat, List.map_cons, List.sum_cons]
  simp only [Nat.add_assoc, Nat.add_comm rest.length]

/-- What the answers of a round do: all samples reach their series, and the report counts the
    answers, the failures and what the series accept. -/
theorem settleAll_eq (h : g.Expects settled) (report : TickReport) :
    settleAll g report settled = (settled.foldl absorb g, .ok (g.tally report settled)) := by
  induction settled generalizing g report with
  | nil => rfl
  | cons a rest ih =>
    rw [h.tally_cons report]
    have hrest := ih h.tail
    obtain ⟨request, result⟩ := a
    cases result with
    | error f => exact hrest _
    | ok samples =>
      obtain ⟨s, hs⟩ := h.there _ List.mem_cons_self
      have happly : g.apply request.slot samples =
          (g.modifySeries request.slot (·.appendAll samples), .ok (s.accepted samples)) :=
        Prod.ext (g.apply_fst request.slot samples) (apply_snd hs samples)
      unfold settleAll
      dsimp only
      rw [happly, gain_of_series? hs]
      exact hrest _

/-- The second half of a round: the answers reach their series, and then the group is drawn once. -/
theorem finishRound_eq (h : g.Expects settled) (issued : Nat) (timedOut : Bool) :
    g.finishRound issued timedOut settled =
      ((settled.foldl absorb g).redraw.1, (settled.foldl absorb g).redraw.2.map fun _ =>
        g.tally ⟨issued, 0, 0, 0, timedOut⟩ settled) := by
  unfold finishRound
  rw [settleAll_eq h]
  dsimp only
  rcases (settled.foldl absorb g).redraw with ⟨g', f | ⟨⟩⟩
  · rfl
  · rfl

/-! ## Another order -/

theorem Expects.perm {first second : List Settled} (h : g.Expects first)
    (horder : first.Perm second) : g.Expects second where
  there := fun a ha => h.there a (horder.mem_iff.2 ha)
  distinct := (horder.map _).nodup_iff.1 h.distinct

/-- Answers for different series can be applied in either order. -/
theorem absorb_comm (g : Group) {a b : Settled} (hab : a.1.slot ≠ b.1.slot) :
    (g.absorb a).absorb b = (g.absorb b).absorb a := by
  obtain ⟨r, result⟩ := a
  obtain ⟨r', result'⟩ := b
  cases result with
  | error f => rfl
  | ok samples =>
    cases result' with
    | error f => rfl
    | ok samples' => exact g.modifySeries_comm hab _ _

theorem tally_perm (g : Group) (report : TickReport) {first second : List Settled}
    (horder : first.Perm second) : g.tally report first = g.tally report second := by
  unfold tally
  rw [horder.length_eq, horder.countP_eq, (horder.map g.gain).sum_nat]

/-- The second half of a round does the same for the same answers in another order. -/
theorem finishRound_perm {first second : List Settled} (h : g.Expects first)
    (horder : first.Perm second) (issued : Nat) (timedOut : Bool) :
    g.finishRound issued timedOut first = g.finishRound issued timedOut second := by
  have hgroup : first.foldl absorb g = second.foldl absorb g := by
    refine horder.foldl_eq' (fun a ha b hb g' => ?_) g
    by_cases heq : a.1.slot = b.1.slot
    · rw [List.inj_on_of_nodup_map h.distinct ha hb heq]
    · exact g'.absorb_comm heq
  rw [finishRound_eq h, finishRound_eq (h.perm horder), hgroup, g.tally_perm _ horder]

end Group

/-! ## Answers that are in -/

/-- What a reply brings before the timeout. -/
def Reply.within (timeout : Nat) (reply : Reply) : Option Fetched :=
  if reply.delay ≤ timeout then reply.outcome else none

theorem Source.askAll_requests (s : Source) (time : Nat) (plan : List Request) :
    (s.askAll time plan).2.map Prod.fst = plan := by
  induction plan generalizing s with
  | nil => rfl
  | cons r rest ih => exact congrArg (r :: ·) (ih _)

/-- The answers that come in before the timeout, request by request. -/
def answersWithin (timeout : Nat) (replies : List (Request × Reply)) : List Settled :=
  replies.filterMap fun r => (r.2.within timeout).map fun result => (r.1, result)

/-- They come in another order. -/
theorem settledWithin_perm (timeout : Nat) (replies : List (Request × Reply)) :
    (settledWithin timeout replies).Perm (answersWithin timeout replies) := by
  have hsorted := (List.mergeSort_perm (replies.filter fun r => r.2.delay ≤ timeout)
    fun a b => a.2.delay ≤ b.2.delay).filterMap fun r => r.2.outcome.map fun result => (r.1, result)
  refine hsorted.trans (.of_eq ?_)
  unfold answersWithin
  rw [List.filterMap_filter]
  congr 1
  funext r
  unfold Reply.within
  by_cases h : r.2.delay ≤ timeout
  · simp [h]
  · simp [h]

/-- Every request has at most one answer. -/
theorem settledWithin_requests (timeout : Nat) (replies : List (Request × Reply)) :
    ((settledWithin timeout replies).map Prod.fst).Subperm (replies.map Prod.fst) := by
  have hanswered := (settledWithin_perm timeout replies).map Prod.fst
  have hkept : (answersWithin timeout replies).map Prod.fst =
      (replies.filter fun r => (r.2.within timeout).isSome).map Prod.fst := by
    unfold answersWithin
    rw [List.map_filterMap, ← List.filterMap_eq_map, List.filterMap_filter]
    congr 1
    funext r
    cases r.2.within timeout with
    | none => rfl
    | some result => rfl
  rw [hkept] at hanswered
  exact ⟨_, hanswered.symm, List.filter_sublist.map Prod.fst⟩

/-- A round has the answers of all its requests just if they all come in time. -/
theorem allInTime_iff {timeout : Nat} {replies : List (Request × Reply)} :
    AllInTime timeout replies ↔ (settledWithin timeout replies).length = replies.length := by
  rw [(settledWithin_perm timeout replies).length_eq]
  unfold answersWithin AllInTime Reply.within
  rw [List.length_filterMap_eq_countP, List.countP_eq_length]
  refine forall₂_congr fun r _ => ?_
  by_cases h : r.2.delay ≤ timeout
  · simp [h]
  · simp [h]

/-- What is known of a round for a plan when it stops waiting: requests were made for all of the
    plan, each was answered at most once, and the timeout has passed if there are fewer answers than
    requests. -/
structure Flight.IsFor (f : Flight) (plan : List Request) : Prop where
  issued : f.issued = plan.length
  answered : (f.settled.map Prod.fst).Subperm plan
  timedOut : f.timedOut = decide (f.settled.length < plan.length)

/-- Whatever the group is used for while a round waits, it still has the series that the answers are
    for. -/
theorem Flight.IsFor.expects {H : Type} [Recorder H] {f : Flight} {g : Group}
    (hf : f.IsFor g.plan) (h : H) (between : List Action) :
    (g.run h between).group.Expects f.settled where
  there := by
    intro a ha
    obtain ⟨s, hs, -, -⟩ := Group.mem_plan (hf.answered.subset (List.mem_map_of_mem ha))
    obtain ⟨xs, hlater⟩ := Group.run_series? hs h between
    exact ⟨_, hlater⟩
  distinct := by
    obtain ⟨kept, hperm, hsub⟩ := hf.answered
    have hslots := (hperm.map Request.slot).nodup_iff.1
      (g.plan_slots_nodup.sublist (hsub.map Request.slot))
    rwa [List.map_map] at hslots

namespace Site

/-- A round that is launched now can stop waiting like this: with what its source brings by then, in
    any order. -/
def StopsWith (s : Site) (timeout : Nat) (f : Flight) : Prop :=
  ∃ s' launched, s.launch timeout = .ok (s', launched) ∧ f.settled.Perm launched.settled ∧
    f = { launched with settled := f.settled }

theorem launch_of_open {s : Site} (hopen : s.shared.poisoned = false) (timeout : Nat) :
    s.launch timeout = .ok ({ s with source := (s.source.askAll s.clock s.shared.group.plan).1 },
      ⟨s.shared.group.plan.length,
        settledWithin timeout (s.source.askAll s.clock s.shared.group.plan).2,
        ¬ AllInTime timeout (s.source.askAll s.clock s.shared.group.plan).2,
        s.clock + waitingTime timeout (s.source.askAll s.clock s.shared.group.plan).2⟩) := by
  unfold launch Shared.read?
  rw [hopen]
  rfl

/-- A round is launched only if the lock is sound. -/
theorem open_of_launch {s s' : Site} {timeout : Nat} {f : Flight}
    (h : s.launch timeout = .ok (s', f)) : s.shared.poisoned = false := by
  unfold launch Shared.read? at h
  cases hpoisoned : s.shared.poisoned with
  | false => rfl
  | true =>
    rw [hpoisoned] at h
    cases h

/-- When a round stops waiting, it is known of the answers how many are missing, and that none is
    there twice. -/
theorem launch_isFor {s s' : Site} {timeout : Nat} {f : Flight}
    (h : s.launch timeout = .ok (s', f)) : f.IsFor s.shared.group.plan := by
  rw [launch_of_open (open_of_launch h)] at h
  obtain ⟨-, rfl⟩ := Prod.mk.inj (Except.ok.inj h)
  have hrequests := s.source.askAll_requests s.clock s.shared.group.plan
  have hlength := congrArg List.length hrequests
  have hanswered := settledWithin_requests timeout (s.source.askAll s.clock s.shared.group.plan).2
  have hfew := hanswered.length_le
  rw [hrequests] at hanswered
  simp only [List.length_map] at hlength hfew
  refine ⟨rfl, hanswered, ?_⟩
  dsimp only
  rw [decide_eq_decide, allInTime_iff]
  omega

/-- The answers of a source can be in in any order. -/
theorem stopsWith_of_perm {s : Site} (hopen : s.shared.poisoned = false) {timeout : Nat}
    {settled : List Settled}
    (h : settled.Perm (answersWithin timeout (s.source.askAll s.clock s.shared.group.plan).2)) :
    s.StopsWith timeout ⟨s.shared.group.plan.length, settled,
      ¬ AllInTime timeout (s.source.askAll s.clock s.shared.group.plan).2,
      s.clock + waitingTime timeout (s.source.askAll s.clock s.shared.group.plan).2⟩ :=
  ⟨_, _, launch_of_open hopen timeout, h.trans (settledWithin_perm timeout _).symm, rfl⟩

theorem StopsWith.isFor {s : Site} {timeout : Nat} {f : Flight} (h : s.StopsWith timeout f) :
    f.IsFor s.shared.group.plan := by
  obtain ⟨s', launched, hlaunch, horder, hf⟩ := h
  have hlaunched := launch_isFor hlaunch
  rw [hf]
  refine ⟨hlaunched.issued, ?_, ?_⟩
  · exact (horder.map Prod.fst).subperm.trans hlaunched.answered
  · dsimp only
    rw [horder.length_eq]
    exact hlaunched.timedOut

/-- What landing does while the lock is sound. -/
theorem land_of_open {s : Site} {f : Flight} (hopen : s.shared.poisoned = false)
    (h : s.shared.group.Expects f.settled) :
    (s.land f).1.shared.group = (f.settled.foldl Group.absorb s.shared.group).redraw.1 ∧
    (s.land f).2 = (f.settled.foldl Group.absorb s.shared.group).redraw.2.map fun _ =>
      s.shared.group.tally ⟨f.issued, 0, 0, 0, f.timedOut⟩ f.settled := by
  unfold land Shared.use
  rw [hopen]
  dsimp only
  rw [Group.finishRound_eq h]
  exact ⟨rfl, rfl⟩

/-- Of the answers, landing sees only what they do to the group. -/
theorem land_congr {s s' : Site} {f f' : Flight} (hshared : s.shared = s'.shared)
    (h : s.shared.group.finishRound f.issued f.timedOut f.settled =
      s.shared.group.finishRound f'.issued f'.timedOut f'.settled) :
    (s.land f).1.shared = (s'.land f').1.shared ∧ (s.land f).2 = (s'.land f').2 := by
  unfold land Shared.use
  dsimp only
  rw [← hshared, h]
  exact ⟨rfl, rfl⟩

/-- Rounds that get the same answers in different orders come to the same. Two rounds are launched
    for the same group, with sources and timeouts of any kind, and by the time when they stop
    waiting the same answers are in, whatever these are. Then, whatever the group was used for in
    the meantime, both leave the same group behind the same lock, and both return the same report or
    the same fault. And what they come to is what the answers say: the group with all samples
    offered to their series, drawn once, and a report that counts them. -/
theorem completion_order_is_invisible {H : Type} [Recorder H] {s₁ s₂ : Site}
    {timeout₁ timeout₂ : Nat} {f₁ f₂ : Flight} (hgroup : s₁.shared.group = s₂.shared.group)
    (h₁ : s₁.StopsWith timeout₁ f₁) (h₂ : s₂.StopsWith timeout₂ f₂)
    (hanswers : f₁.settled.Perm f₂.settled) (h : H) (between : List Action) {later₁ later₂ : Site}
    (hlater : later₁.shared = later₂.shared)
    (hbetween : later₁.shared.group = (s₁.shared.group.run h between).group) :
    (later₁.land f₁).1.shared = (later₂.land f₂).1.shared ∧
    (later₁.land f₁).2 = (later₂.land f₂).2 ∧
    (later₁.shared.poisoned = false →
      let fetched := f₁.settled.foldl Group.absorb later₁.shared.group
      (later₁.land f₁).1.shared.group = fetched.redraw.1 ∧
      (later₁.land f₁).2 = fetched.redraw.2.map fun _ =>
        later₁.shared.group.tally ⟨f₁.issued, 0, 0, 0, f₁.timedOut⟩ f₁.settled) := by
  have hfor₁ := h₁.isFor
  have hfor₂ := h₂.isFor
  rw [← hgroup] at hfor₂
  have hissued : f₁.issued = f₂.issued := hfor₁.issued.trans hfor₂.issued.symm
  have htimedOut : f₁.timedOut = f₂.timedOut := by
    rw [hfor₁.timedOut, hfor₂.timedOut, hanswers.length_eq]
  have hexpects := hfor₁.expects h between
  rw [← hbetween] at hexpects
  have hfinish : later₁.shared.group.finishRound f₁.issued f₁.timedOut f₁.settled =
      later₁.shared.group.finishRound f₂.issued f₂.timedOut f₂.settled := by
    rw [hissued, htimedOut]
    exact Group.finishRound_perm hexpects hanswers f₂.issued f₂.timedOut
  obtain ⟨hshared, hreport⟩ := land_congr hlater hfinish
  exact ⟨hshared, hreport, fun hopen => land_of_open hopen hexpects⟩

/-- A chart of three series without samples, and a source that has samples for the first, a failure
    for the second and samples for the third, some of which are no use. The numbers say how long it
    takes for each. -/
def threeLines (delays : Nat × Nat × Nat) : Site where
  shared := .ofGroup ⟨⟨"load"⟩, [{ Chart.showing ⟨0, 10⟩ [] with
    series := [.empty "cpu" .line (some "/cpu"), .empty "mem" .line (some "/mem"),
      .empty "net" .line (some "/net")] }], false, 1, .none⟩
  source := .ofScript [
    ("/cpu", [⟨delays.1, some (.ok [⟨2, 1⟩, ⟨1, 1⟩, ⟨2, 5⟩])⟩]),
    ("/mem", [⟨delays.2.1, some (.error .payload)⟩]),
    ("/net", [⟨delays.2.2, some (.ok [⟨.nan, 1⟩, ⟨3, 1⟩, ⟨4, 1⟩])⟩])]
  clock := 0

/-- The answers of the source, request by request. -/
def threeAnswers : List Settled :=
  [(⟨⟨0, 0⟩, "/cpu", none⟩, .ok [⟨2, 1⟩, ⟨1, 1⟩, ⟨2, 5⟩]),
    (⟨⟨0, 1⟩, "/mem", none⟩, .error .payload),
    (⟨⟨0, 2⟩, "/net", none⟩, .ok [⟨.nan, 1⟩, ⟨3, 1⟩, ⟨4, 1⟩])]

/-- The site when its round stops waiting. Meanwhile a sample was offered to the first series. -/
def threeLinesLater : Site :=
  { threeLines ⟨1, 2, 3⟩ with
    shared := .ofGroup ((threeLines ⟨1, 2, 3⟩).shared.group.run Trail.start
      [.append 0 0 ⟨1, 9⟩]).group }

/-- One source answers in the order of the series, and one in the opposite order. -/
theorem completion_order_is_invisible_reversed :
    ∃ f₁ f₂, (threeLines ⟨1, 2, 3⟩).StopsWith 10 f₁ ∧ (threeLines ⟨3, 2, 1⟩).StopsWith 10 f₂ ∧
      f₁.settled = threeAnswers ∧ f₂.settled = threeAnswers.reverse ∧
      (threeLinesLater.land f₁).2 = .ok ⟨3, 3, 1, 3, false⟩ ∧
      (threeLinesLater.land f₁).1.shared = (threeLinesLater.land f₂).1.shared ∧
      (threeLinesLater.land f₁).2 = (threeLinesLater.land f₂).2 := by
  have hin₁ : threeAnswers = answersWithin 10 ((threeLines ⟨1, 2, 3⟩).source.askAll 0
      (threeLines ⟨1, 2, 3⟩).shared.group.plan).2 := by decide +kernel
  have hin₂ : threeAnswers = answersWithin 10 ((threeLines ⟨3, 2, 1⟩).source.askAll 0
      (threeLines ⟨3, 2, 1⟩).shared.group.plan).2 := by decide +kernel
  have h₁ := stopsWith_of_perm (s := threeLines ⟨1, 2, 3⟩) rfl (.of_eq hin₁)
  have h₂ := stopsWith_of_perm (s := threeLines ⟨3, 2, 1⟩) rfl
    ((List.reverse_perm threeAnswers).trans (.of_eq hin₂))
  have hgroup : (threeLines ⟨1, 2, 3⟩).shared.group = (threeLines ⟨3, 2, 1⟩).shared.group := rfl
  have hbetween : threeLinesLater.shared.group =
      ((threeLines ⟨1, 2, 3⟩).shared.group.run Trail.start [.append 0 0 ⟨1, 9⟩]).group := by
    unfold threeLinesLater Shared.ofGroup
    dsimp only
  have hanswers : threeAnswers.Perm threeAnswers.reverse := (List.reverse_perm _).symm
  have hlater : threeLinesLater.shared = threeLinesLater.shared := rfl
  obtain ⟨hshared, hreport, -⟩ := completion_order_is_invisible hgroup h₁ h₂ hanswers Trail.start
    [.append 0 0 ⟨1, 9⟩] hlater hbetween
  exact ⟨_, _, h₁, h₂, rfl, rfl, by decide +kernel, hshared, hreport⟩

end Site

end LinkedCharts