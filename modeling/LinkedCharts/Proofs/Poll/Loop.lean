import LinkedCharts.Proofs.Poll.Settling

/-!
# What a polling loop does

The loop runs in any world that can wait, answer and tick, and its deeds can be written down without
changing it (`World.logged`). A round either lets the loop go on (`World.Passes`) or ends it
(`World.Ends`), and which of the two it is depends on that round alone.

Results:
* `World.passes_or_ends`: every round does one or the other.
* `World.exists_run`: the loop is a run of rounds that it passes, and then an end.
* `Running.world_driven`: a poller on the clock asks nobody but its own predicate.
* `World.Driven.loop_obeys_predicate`: before every round the loop asks exactly once, it stops at
  the first no and at the first round that finds the lock poisoned, and at nothing else.
* `Running.rounds_of_most`: the number of rounds that a started poller may make at most never ends
  it.
-/

namespace LinkedCharts

/-! ## Deeds -/

/-- What a polling loop does. -/
inductive Deed
  | asked (answer : Bool)
  /-- a round, with `none` if the loop was ended from outside during it -/
  | ticked (outcome : Option (Except Fault TickReport))
deriving DecidableEq

namespace Deed

/-- The answer to a question. -/
def answer? : Deed → Option Bool
  | asked answer => some answer
  | ticked _ => none

/-- The deed is a round. -/
def isTick : Deed → Bool
  | asked _ => false
  | ticked _ => true

/-- A round that was done, and the question before it. -/
def ofRound (outcome : Except Fault TickReport) : List Deed := [asked true, ticked (some outcome)]

theorem answers_ofRounds (outcomes : List (Except Fault TickReport)) :
    (outcomes.flatMap ofRound).filterMap answer? = List.replicate outcomes.length true := by
  induction outcomes with
  | nil => rfl
  | cons outcome rest ih => exact congrArg (true :: ·) ih

theorem ticks_ofRounds (outcomes : List (Except Fault TickReport)) :
    (outcomes.flatMap ofRound).countP isTick = outcomes.length := by
  induction outcomes with
  | nil => rfl
  | cons outcome rest ih => simp [ofRound, isTick, List.countP_cons, ← ih]

theorem questions_ofRounds (outcomes : List (Except Fault TickReport)) :
    (outcomes.flatMap ofRound).count (asked true) = outcomes.length := by
  induction outcomes with
  | nil => rfl
  | cons outcome rest ih => simpa [ofRound] using ih

theorem no_notMem_ofRounds (outcomes : List (Except Fault TickReport)) :
    asked false ∉ outcomes.flatMap ofRound := by
  simp [ofRound]

theorem ticked_mem_ofRounds {outcome : Except Fault TickReport}
    {outcomes : List (Except Fault TickReport)} :
    ticked (some outcome) ∈ outcomes.flatMap ofRound ↔ outcome ∈ outcomes := by
  simp [ofRound]

end Deed

namespace World

variable {σ : Type}

/-- The same world, which writes down every question and every round. -/
def logged (w : World σ) : World (σ × List Deed) where
  wait := fun (s, log) => (((w.wait s).1, log), (w.wait s).2)
  ask := fun (s, log) => (((w.ask s).1, log ++ [.asked (w.ask s).2]), (w.ask s).2)
  tick := fun (s, log) => (((w.tick s).1, log ++ [.ticked (w.tick s).2]), (w.tick s).2)

/-! ## Rounds -/

/-- A round that lets the loop go on: the predicate says yes, and the lock is not found poisoned. -/
inductive Passes (w : World σ) : σ → Except Fault TickReport → σ → Prop
  | intro {s a b t : σ} {outcome : Except Fault TickReport} (waited : w.wait s = (a, some ()))
      (yes : w.ask a = (b, true)) (ticked : w.tick b = (t, some outcome))
      (sound : outcome ≠ .error .poisoned) : Passes w s outcome t

/-- Rounds that the loop passes, one after the other. -/
inductive Run (w : World σ) : σ → List (Except Fault TickReport) → σ → Prop
  | nil (s : σ) : Run w s [] s
  | cons {s t u : σ} {outcome : Except Fault TickReport} {outcomes : List (Except Fault TickReport)}
      (first : w.Passes s outcome t) (rest : Run w t outcomes u) : Run w s (outcome :: outcomes) u

/-- How the loop ends when so many rounds are left: for which cause, with which last deeds and in
    which state. -/
inductive Ends (w : World σ) : ℕ → σ → Option Stop → List Deed → σ → Prop
  /-- there is no round left -/
  | spent (s : σ) : Ends w 0 s none [] s
  /-- the loop is ended from outside while it waits -/
  | waiting {left : ℕ} {s t : σ} (waited : w.wait s = (t, none)) : Ends w (left + 1) s none [] t
  /-- the predicate says no -/
  | refused {left : ℕ} {s a t : σ} (waited : w.wait s = (a, some ())) (no : w.ask a = (t, false)) :
      Ends w (left + 1) s (some .predicate) [.asked false] t
  /-- the loop is ended from outside during a round -/
  | ticking {left : ℕ} {s a b t : σ} (waited : w.wait s = (a, some ())) (yes : w.ask a = (b, true))
      (ticked : w.tick b = (t, none)) : Ends w (left + 1) s none [.asked true, .ticked none] t
  /-- the lock is found poisoned -/
  | poisoned {left : ℕ} {s a b t : σ} (waited : w.wait s = (a, some ())) (yes : w.ask a = (b, true))
      (ticked : w.tick b = (t, some (.error .poisoned))) :
      Ends w (left + 1) s (some .poisoned) (Deed.ofRound (.error .poisoned)) t

variable {w : World σ} {s t u : σ} {outcome : Except Fault TickReport}
  {outcomes : List (Except Fault TickReport)} {left n : ℕ} {stop : Option Stop} {ending : List Deed}

/-- Every round lets the loop go on or ends it. -/
theorem passes_or_ends (w : World σ) (s : σ) :
    (∃ outcome t, w.Passes s outcome t) ∨
      ∃ stop ending t, ∀ left, w.Ends (left + 1) s stop ending t := by
  rcases hwait : w.wait s with ⟨a, _ | ⟨⟩⟩
  · exact .inr ⟨_, _, _, fun _ => .waiting hwait⟩
  · rcases hask : w.ask a with ⟨b, _ | _⟩
    · exact .inr ⟨_, _, _, fun _ => .refused hwait hask⟩
    · rcases htick : w.tick b with ⟨t, _ | outcome⟩
      · exact .inr ⟨_, _, _, fun _ => .ticking hwait hask htick⟩
      · by_cases hpoisoned : outcome = .error .poisoned
        · rw [hpoisoned] at htick
          exact .inr ⟨_, _, _, fun _ => .poisoned hwait hask htick⟩
        · exact .inl ⟨_, _, hwait, hask, htick, hpoisoned⟩

theorem Passes.rounds_succ (h : w.Passes s outcome t) (n : ℕ) :
    rounds w (n + 1) s = rounds w n t := by
  obtain ⟨waited, yes, ticked, sound⟩ := h
  simp only [rounds, waited, yes, ticked]

theorem Ends.rounds_eq (h : w.Ends left s stop ending t) : rounds w left s = (t, stop) := by
  cases h with
  | spent => rfl
  | waiting waited => simp only [rounds, waited]
  | refused waited no => simp only [rounds, waited, no]
  | ticking waited yes ticked => simp only [rounds, waited, yes, ticked]
  | poisoned waited yes ticked => simp only [rounds, waited, yes, ticked]

theorem Run.rounds_add (h : w.Run s outcomes u) (left : ℕ) :
    rounds w (outcomes.length + left) s = rounds w left u := by
  induction h with
  | nil s => rw [List.length_nil, Nat.zero_add]
  | cons first rest ih =>
    rw [List.length_cons, Nat.add_right_comm, first.rounds_succ]
    exact ih

/-- The loop passes some rounds and then ends. -/
theorem exists_run (w : World σ) (n : ℕ) (s : σ) :
    ∃ outcomes left u stop ending t, outcomes.length + left = n ∧ w.Run s outcomes u ∧
      w.Ends left u stop ending t := by
  induction n generalizing s with
  | zero => exact ⟨[], 0, s, _, _, s, rfl, .nil s, .spent s⟩
  | succ n ih =>
    rcases w.passes_or_ends s with ⟨outcome, t, hpasses⟩ | ⟨stop, ending, t, hends⟩
    · obtain ⟨outcomes, left, u, stop, ending, v, hlength, hrun, hends⟩ := ih t
      refine ⟨outcome :: outcomes, left, u, stop, ending, v, ?_, .cons hpasses hrun, hends⟩
      rw [List.length_cons]
      omega
    · exact ⟨[], n + 1, s, stop, ending, t, Nat.zero_add _, .nil s, hends n⟩

/-! ## Writing down -/

theorem logged_wait {answer : Option Unit} (h : w.wait s = (t, answer)) (log : List Deed) :
    w.logged.wait (s, log) = ((t, log), answer) := by
  simp only [logged, h]

theorem logged_ask {answer : Bool} (h : w.ask s = (t, answer)) (log : List Deed) :
    w.logged.ask (s, log) = ((t, log ++ [.asked answer]), answer) := by
  simp only [logged, h]

theorem logged_tick {answer : Option (Except Fault TickReport)} (h : w.tick s = (t, answer))
    (log : List Deed) :
    w.logged.tick (s, log ++ [.asked true]) =
      ((t, log ++ [.asked true, .ticked answer]), answer) := by
  simp [logged, h]

theorem Passes.logged (h : w.Passes s outcome t) (log : List Deed) :
    w.logged.Passes (s, log) outcome (t, log ++ Deed.ofRound outcome) := by
  obtain ⟨waited, yes, ticked, sound⟩ := h
  exact .intro (logged_wait waited log) (logged_ask yes log) (logged_tick ticked log) sound

theorem Run.logged (h : w.Run s outcomes u) (log : List Deed) :
    w.logged.Run (s, log) outcomes (u, log ++ outcomes.flatMap Deed.ofRound) := by
  induction h generalizing log with
  | nil s => simpa using Run.nil (s, log)
  | cons first rest ih =>
    rw [List.flatMap_cons, ← List.append_assoc]
    exact .cons (first.logged log) (ih _)

theorem Ends.logged (h : w.Ends left s stop ending t) (log : List Deed) :
    w.logged.Ends left (s, log) stop ending (t, log ++ ending) := by
  cases h with
  | spent => simpa using Ends.spent (s, log)
  | waiting waited => simpa using Ends.waiting (logged_wait waited log)
  | refused waited no => exact .refused (logged_wait waited log) (logged_ask no log)
  | ticking waited yes ticked =>
    exact .ticking (logged_wait waited log) (logged_ask yes log) (logged_tick ticked log)
  | poisoned waited yes ticked =>
    exact .poisoned (logged_wait waited log) (logged_ask yes log) (logged_tick ticked log)

end World

/-! ## Who is asked -/

namespace LiveOptions

/-- The answer to the question after the next `k`. -/
def answer (o : LiveOptions) (k : ℕ) : Bool :=
  match o.running with
  | none => true
  | some p => p.answer (p.asked + k)

/-- The options after `k` questions. -/
def after (o : LiveOptions) (k : ℕ) : LiveOptions :=
  { o with running := o.running.map fun p => { p with asked := p.asked + k } }

theorem ask_eq (o : LiveOptions) : o.ask = (o.after 1, o.answer 0) := by
  obtain ⟨live, _ | p⟩ := o
  · rfl
  · rfl

@[simp] theorem after_zero (o : LiveOptions) : o.after 0 = o := by
  obtain ⟨live, _ | p⟩ := o
  · rfl
  · rfl

theorem after_after (o : LiveOptions) (j k : ℕ) : (o.after j).after k = o.after (j + k) := by
  obtain ⟨live, _ | p⟩ := o
  · rfl
  · simp [after, Nat.add_assoc]

theorem answer_after (o : LiveOptions) (j k : ℕ) : (o.after j).answer k = o.answer (j + k) := by
  obtain ⟨live, _ | p⟩ := o
  · rfl
  · simp [after, answer, Nat.add_assoc]

/-- Without a predicate the answer is always yes. -/
theorem answer_of_none {o : LiveOptions} (h : o.running = none) (k : ℕ) : o.answer k = true := by
  simp only [answer, h]

theorem map_answer_of_yes {o : LiveOptions} {m : ℕ} (h : ∀ k < m, o.answer k = true) :
    (List.range m).map o.answer = List.replicate m true := by
  rw [List.eq_replicate_iff]
  simpa using h

end LiveOptions

namespace World

variable {σ : Type} {w : World σ} {options : σ → LiveOptions} {sent : σ → List Asked} {s t u : σ}
  {outcome : Except Fault TickReport} {outcomes : List (Except Fault TickReport)} {left : ℕ}
  {stop : Option Stop} {ending : List Deed}

/-- Polling is driven by what the world's options say: only a question asks them, and requests are
    sent in a round only. -/
structure Driven (w : World σ) (options : σ → LiveOptions) (sent : σ → List Asked) : Prop where
  asks : ∀ s, options (w.ask s).1 = (options s).ask.1 ∧ (w.ask s).2 = (options s).ask.2
  wait_options : ∀ s, options (w.wait s).1 = options s
  tick_options : ∀ s, options (w.tick s).1 = options s
  wait_sent : ∀ s, sent (w.wait s).1 = sent s
  ask_sent : ∀ s, sent (w.ask s).1 = sent s

namespace Driven

/-- After waiting, a question gets the next answer and takes it away. -/
theorem asked (hw : w.Driven options sent) {a : σ} {waited : Option Unit} {answer : Bool}
    (hwait : w.wait s = (a, waited)) (hask : w.ask a = (t, answer)) :
    options t = (options s).after 1 ∧ answer = (options s).answer 0 := by
  have hsame := hw.wait_options s
  have hasked := hw.asks a
  rw [hwait] at hsame
  rw [hask, hsame, LiveOptions.ask_eq] at hasked
  exact hasked

theorem ticked (hw : w.Driven options sent) {r : Option (Except Fault TickReport)}
    (htick : w.tick s = (t, r)) : options t = options s := by
  have hsame := hw.tick_options s
  rwa [htick] at hsame

theorem passes (hw : w.Driven options sent) (h : w.Passes s outcome t) :
    options t = (options s).after 1 ∧ (options s).answer 0 = true := by
  obtain ⟨waited, yes, ticked, -⟩ := h
  obtain ⟨hoptions, hanswer⟩ := hw.asked waited yes
  exact ⟨(hw.ticked ticked).trans hoptions, hanswer.symm⟩

/-- Before every round that the loop passed there was one question, and a yes. -/
theorem run (hw : w.Driven options sent) (h : w.Run s outcomes u) :
    options u = (options s).after outcomes.length ∧
      ∀ k < outcomes.length, (options s).answer k = true := by
  induction h with
  | nil s => exact ⟨(LiveOptions.after_zero _).symm, fun k hk => absurd hk k.not_lt_zero⟩
  | cons first rest ih =>
    obtain ⟨hfirst, hyes⟩ := hw.passes first
    rw [hfirst, LiveOptions.after_after] at ih
    refine ⟨ih.1.trans (by rw [List.length_cons, Nat.add_comm]), fun k hk => ?_⟩
    cases k with
    | zero => exact hyes
    | succ k =>
      have hlater := ih.2 k (Nat.lt_of_succ_lt_succ hk)
      rwa [LiveOptions.answer_after, Nat.add_comm] at hlater

/-- In the end there was one more question, or none. -/
theorem ends (hw : w.Driven options sent) (h : w.Ends left u stop ending t) :
    options t = (options u).after (ending.filterMap Deed.answer?).length ∧
      ending.filterMap Deed.answer? =
        (List.range (ending.filterMap Deed.answer?).length).map (options u).answer := by
  cases h with
  | spent => exact ⟨(LiveOptions.after_zero _).symm, rfl⟩
  | waiting waited =>
    have hsame := hw.wait_options u
    rw [waited] at hsame
    exact ⟨hsame.trans (LiveOptions.after_zero _).symm, rfl⟩
  | refused waited no =>
    obtain ⟨hoptions, hanswer⟩ := hw.asked waited no
    exact ⟨hoptions, congrArg ([·]) hanswer⟩
  | ticking waited yes ticked =>
    obtain ⟨hoptions, hanswer⟩ := hw.asked waited yes
    exact ⟨(hw.ticked ticked).trans hoptions, congrArg ([·]) hanswer⟩
  | poisoned waited yes ticked =>
    obtain ⟨hoptions, hanswer⟩ := hw.asked waited yes
    exact ⟨(hw.ticked ticked).trans hoptions, congrArg ([·]) hanswer⟩

/-- The answers that a run and its end got are those that the options give, in order, and as many
    questions were taken from them. -/
theorem answers_eq (hw : w.Driven options sent) (hrun : w.Run s outcomes u)
    (hends : w.Ends left u stop ending t) :
    let answers := (outcomes.flatMap Deed.ofRound ++ ending).filterMap Deed.answer?
    answers = (List.range answers.length).map (options s).answer ∧
      options t = (options s).after answers.length := by
  intro answers
  obtain ⟨hrunOptions, hyes⟩ := hw.run hrun
  obtain ⟨hendOptions, hanswers⟩ := hw.ends hends
  have hsplit : answers =
      List.replicate outcomes.length true ++ ending.filterMap Deed.answer? := by
    rw [← Deed.answers_ofRounds, ← List.filterMap_append]
  have hcount : answers.length = outcomes.length + (ending.filterMap Deed.answer?).length := by
    rw [hsplit, List.length_append, List.length_replicate]
  constructor
  · rw [hcount, List.range_add, List.map_append, LiveOptions.map_answer_of_yes hyes, List.map_map,
      hsplit, hanswers, hrunOptions]
    simp [Function.comp_def, LiveOptions.answer_after]
  · rw [hendOptions, hrunOptions, LiveOptions.after_after, hcount]

end Driven

/-! ## The ends -/

/-- After a no, nothing was sent. -/
theorem Ends.sent_eq (h : w.Ends left u (some .predicate) ending t)
    (hw : w.Driven options sent) : sent t = sent u := by
  cases h with
  | @refused _ _ a _ waited no =>
    have hwait := hw.wait_sent u
    rw [waited] at hwait
    have hask := hw.ask_sent a
    rw [no] at hask
    exact hask.trans hwait

theorem Ends.refused_iff (h : w.Ends left u stop ending t) :
    stop = some .predicate ↔ .asked false ∈ ending := by
  cases h with
  | spent => simp
  | waiting => simp
  | refused => simp
  | ticking => simp
  | poisoned => simp [Deed.ofRound]

theorem Ends.poisoned_iff (h : w.Ends left u stop ending t) :
    stop = some .poisoned ↔ .ticked (some (.error .poisoned)) ∈ ending := by
  cases h with
  | spent => simp
  | waiting => simp
  | refused => simp
  | ticking => simp
  | poisoned => simp [Deed.ofRound]

/-- At the end, too, a round follows every yes. -/
theorem Ends.ticks (h : w.Ends left u stop ending t) :
    ending.countP Deed.isTick = ending.count (.asked true) := by
  cases h with
  | spent => rfl
  | waiting => rfl
  | refused => rfl
  | ticking => rfl
  | poisoned => rfl

theorem Run.sound (h : w.Run s outcomes u) : ∀ outcome ∈ outcomes, outcome ≠ .error .poisoned := by
  induction h with
  | nil s => simp
  | cons first rest ih =>
    obtain ⟨-, -, -, sound⟩ := first
    exact List.forall_mem_cons.2 ⟨sound, ih⟩

/-- What a polling loop does in any world, for any answers and any outcomes of the rounds. It passes
    some rounds and then ends. Its deeds are, for every round that it passed, a question that was
    answered yes and then the round, and last the deeds of the end. The answers are those that the
    options give, in order and none left out, and as many questions were taken from them. There are
    as many rounds as there were yeses. The loop stops for its predicate just if there was a no, and
    then nothing was sent since the round before; it stops for the lock just if a round found it
    poisoned; and without a predicate it does not stop for one. -/
theorem Driven.loop_obeys_predicate (hw : w.Driven options sent) (n : ℕ) (s : σ) :
    ∃ outcomes left u stop ending t,
      let log := outcomes.flatMap Deed.ofRound ++ ending
      let answers := log.filterMap Deed.answer?
      rounds w n s = (t, stop) ∧ rounds w.logged n (s, []) = ((t, log), stop) ∧
      outcomes.length + left = n ∧ w.Run s outcomes u ∧ w.Ends left u stop ending t ∧
      answers = (List.range answers.length).map (options s).answer ∧
      options t = (options s).after answers.length ∧
      log.countP Deed.isTick = log.count (.asked true) ∧
      (stop = some .predicate ↔ .asked false ∈ log) ∧
      (stop = some .predicate → sent t = sent u) ∧
      (stop = some .poisoned ↔ .ticked (some (.error .poisoned)) ∈ log) ∧
      ((options s).running = none → stop ≠ some .predicate) := by
  obtain ⟨outcomes, left, u, stop, ending, t, hlength, hrun, hends⟩ := w.exists_run n s
  refine ⟨outcomes, left, u, stop, ending, t, ?_⟩
  intro log answers
  have hgiven : answers = (List.range answers.length).map (options s).answer :=
    (hw.answers_eq hrun hends).1
  have htaken : options t = (options s).after answers.length := (hw.answers_eq hrun hends).2
  refine ⟨?_, ?_, hlength, hrun, hends, hgiven, htaken, ?_, ?_, ?_, ?_, ?_⟩
  · rw [← hlength, hrun.rounds_add, hends.rounds_eq]
  · rw [← hlength, (hrun.logged []).rounds_add, (hends.logged _).rounds_eq, List.nil_append]
  · rw [List.countP_append, List.count_append, Deed.ticks_ofRounds, Deed.questions_ofRounds,
      hends.ticks]
  · rw [hends.refused_iff, List.mem_append, or_iff_right (Deed.no_notMem_ofRounds outcomes)]
  · rintro rfl
    exact hends.sent_eq hw
  · have hsound : .error .poisoned ∉ outcomes := fun h => hrun.sound _ h rfl
    rw [hends.poisoned_iff, List.mem_append, Deed.ticked_mem_ofRounds, or_iff_right hsound]
  · intro hnone hstop
    have hno : false ∈ answers :=
      List.mem_filterMap.2 ⟨_, List.mem_append_right _ (hends.refused_iff.1 hstop), rfl⟩
    rw [hgiven] at hno
    obtain ⟨k, -, hk⟩ := List.mem_map.1 hno
    rw [LiveOptions.answer_of_none hnone] at hk
    exact absurd hk (by decide)

end World

/-! ## Pollers on the clock -/

namespace Running

variable {settings : PollSettings} {deadline : ℕ} {r r' : Running}

theorem wait_same (interval deadline : ℕ) (r : Running) :
    (r.wait interval deadline).1.options = r.options ∧
      (r.wait interval deadline).1.site.source = r.site.source := by
  unfold wait
  dsimp only
  split
  · exact ⟨rfl, rfl⟩
  · exact ⟨rfl, rfl⟩

theorem tick_same (timeout deadline : ℕ) (r : Running) :
    (r.tick timeout deadline).1.options = r.options ∧ (r.tick timeout deadline).1.due = r.due := by
  unfold tick
  split
  · exact ⟨rfl, rfl⟩
  · split
    · exact ⟨rfl, rfl⟩
    · exact ⟨rfl, rfl⟩

/-- A poller on the clock asks nobody but its own predicate, and its requests are what its source
    was asked. -/
theorem world_driven (settings : PollSettings) (deadline : ℕ) :
    (world settings deadline).Driven Running.options fun r => r.site.source.log where
  asks := fun _ => ⟨rfl, rfl⟩
  wait_options := fun r => (wait_same settings.interval deadline r).1
  tick_options := fun r => (tick_same settings.timeout deadline r).1
  wait_sent := fun r => congrArg Source.log (wait_same settings.interval deadline r).2
  ask_sent := fun _ => rfl

/-- A poller whose first drawing is refused, and whose predicate says yes twice. -/
def stumbling : Running where
  site := { Site.threeLines ⟨1, 2, 3⟩ with
    shared := .ofGroup ⟨⟨"load"⟩, [{ Chart.showing ⟨0, 10⟩ [] with
      series := [.empty "cpu" .line (some "/cpu")], canvas := .blank [1] }], false, 1, .none⟩ }
  due := 3000
  options := ⟨true, some (.yesTimes 2)⟩

/-- It goes on after the refused drawing, and stops at the first no without another request. -/
theorem loop_obeys_predicate_stumbling :
    let w := world .standard 100000
    w.Driven Running.options (fun r => r.site.source.log) ∧
    ∃ outcomes left u stop ending t,
      outcomes.flatMap Deed.ofRound ++ ending =
        [.asked true, .ticked (some (.error (.invalidData (.drawRefused 1)))),
          .asked true, .ticked (some (.ok ⟨1, 1, 0, 0, false⟩)), .asked false] ∧
      outcomes.length + left = 9 ∧ w.Run stumbling outcomes u ∧ w.Ends left u stop ending t ∧
      stop = some .predicate ∧ t.site.source.log = u.site.source.log := by
  intro w
  have hdriven := world_driven .standard 100000
  obtain ⟨outcomes, left, u, stop, ending, t, -, hlogged, hlength, hrun, hends, -, -, -, hstop,
    hsent, -, -⟩ := hdriven.loop_obeys_predicate 9 stumbling
  have hlog : (rounds (world .standard 100000).logged 9 (stumbling, [])).1.2 =
      [.asked true, .ticked (some (.error (.invalidData (.drawRefused 1)))),
        .asked true, .ticked (some (.ok ⟨1, 1, 0, 0, false⟩)), .asked false] := by decide +kernel
  rw [hlogged] at hlog
  dsimp only at hlog
  have hpredicate := hstop.2 (by rw [hlog]; decide)
  exact ⟨hdriven, outcomes, left, u, stop, ending, t, hlog, hlength, hrun, hends, hpredicate,
    hsent hpredicate⟩

/-- From one round to the next it is at least one interval. -/
theorem due_le_of_passes {outcome : Except Fault TickReport}
    (h : (world settings deadline).Passes r outcome r') : r.due + settings.interval ≤ r'.due := by
  obtain ⟨waited, yes, ticked, -⟩ := h
  rename_i a b
  have htick : r'.due = b.due := by
    have hsame := (tick_same settings.timeout deadline b).2
    rwa [show b.tick settings.timeout deadline = _ from ticked] at hsame
  have hask : b.due = a.due := (congrArg (fun x => x.1.due) yes).symm
  rw [htick, hask]
  unfold world wait at waited
  dsimp only at waited
  split at waited
  · cases waited
  · obtain rfl := (Prod.mk.inj waited).1
    dsimp only
    split <;> omega

/-- Rounds that are not due before the deadline are not made. -/
theorem rounds_of_due {n : ℕ} (h : deadline ≤ r.due + n * settings.interval) (k : ℕ) :
    rounds (world settings deadline) (n + 1 + k) r =
      rounds (world settings deadline) (n + 1) r := by
  induction n generalizing r with
  | zero =>
    have hwait : (world settings deadline).wait r =
        ({ r with site := { r.site with clock := deadline } }, none) := by
      refine if_pos ?_
      omega
    rw [Nat.add_right_comm, (World.Ends.waiting hwait).rounds_eq,
      (World.Ends.waiting hwait).rounds_eq]
  | succ n ih =>
    rcases (world settings deadline).passes_or_ends r with
      ⟨outcome, r', hpasses⟩ | ⟨stop, ending, r', hends⟩
    · have hdue := due_le_of_passes hpasses
      rw [Nat.add_mul, Nat.one_mul] at h
      rw [Nat.add_right_comm, hpasses.rounds_succ, hpasses.rounds_succ]
      exact ih (r := r') (by omega)
    · rw [Nat.add_right_comm, (hends _).rounds_eq, (hends _).rounds_eq]

/-- A started poller may make a number of rounds at most, and that number never ends it. -/
theorem rounds_of_most (hinterval : 0 < settings.interval) (s : Site) (options : LiveOptions)
    (duration k : ℕ) :
    let w := world settings (s.clock + duration)
    let most := duration / settings.interval + 1
    rounds w (most + k) ⟨s, s.clock + settings.interval, options⟩ =
      rounds w most ⟨s, s.clock + settings.interval, options⟩ := by
  refine rounds_of_due ?_ k
  have := Nat.lt_div_mul_add hinterval (a := duration)
  dsimp only
  omega

end Running

end LinkedCharts
