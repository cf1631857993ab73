import LinkedCharts.Poll.Round
import LinkedCharts.Poll.Settings
import LinkedCharts.Poll.Source

/-!
# Polling on a clock

The clock counts milliseconds and moves only while everything waits. A poller asks its predicate
before every round and goes on until that says no or the lock of the group is poisoned; any other
failure of a round is passed over. The next round is due one interval after the last one was, or one
interval after it began if it began late.

Models of `LivePointFeeder` and `FeederStop`.

Results:
* `Stop`: why a poller stopped of itself.
* `rounds`: the loop of a poller, over any world that can wait, answer and tick.
* `Site.launch`, `Site.land`: the two halves of a round.
* `Poller.tick`: one round by hand.
* `Site.start`: a poller that runs for some time.
-/

namespace LinkedCharts

/-! ## The loop -/

/-- Why a poller stopped of itself. -/
inductive Stop
  | predicate
  | poisoned
deriving DecidableEq, Inhabited

namespace Stop

/-- The name of a cause in JSON. -/
def name : Stop → String
  | .predicate => "PredicateFalse"
  | .poisoned => "TargetPoisoned"

open Json

/-- The cause as a variant. -/
def toJson (s : Stop) : Value := .string s.name

/-- A cause from a variant. -/
def ofTree? (t : Tree) : Option Stop :=
  match t.unitVariant? with
  | some "PredicateFalse" => some .predicate
  | some "TargetPoisoned" => some .poisoned
  | _ => none

end Stop

/-- What a polling loop needs of the world around it. -/
structure World (σ : Type) where
  /-- waits for the next round; `none` if the loop is ended from outside before that -/
  wait : σ → σ × Option Unit
  /-- asks whether polling goes on -/
  ask : σ → σ × Bool
  /-- runs a round; `none` if the loop is ended from outside during it -/
  tick : σ → σ × Option (Except Fault TickReport)

/-- At most `n` rounds of polling: wait, ask, tick. Returns why the loop stopped of itself, if it
    did. Models the loop of `run`. -/
def rounds {σ : Type} (w : World σ) : Nat → σ → σ × Option Stop
  | 0, s => (s, none)
  | n + 1, s =>
    match w.wait s with
    | (s, none) => (s, none)
    | (s, some ()) =>
      match w.ask s with
      | (s, false) => (s, some .predicate)
      | (s, true) =>
        match w.tick s with
        | (s, none) => (s, none)
        | (s, some (.error .poisoned)) => (s, some .poisoned)
        | (s, some _) => rounds w n s

/-! ## Rounds on the clock -/

/-- A group that is polled, the source of its data, and the clock. -/
structure Site where
  shared : Shared
  source : Source
  clock : Nat

/-- The answers that come in before the timeout, the quickest first. Models what is in `settled`
    when the `timeout` of `tick` ends. -/
def settledWithin (timeout : Nat) (replies : List (Request × Reply)) : List Settled :=
  let inTime := replies.filter fun (_, reply) => reply.delay ≤ timeout
  (inTime.mergeSort fun a b => a.2.delay ≤ b.2.delay).filterMap fun (request, reply) =>
    reply.outcome.map fun result => (request, result)

/-- All answers come in before the timeout. -/
def AllInTime (timeout : Nat) (replies : List (Request × Reply)) : Prop :=
  ∀ r ∈ replies, r.2.outcome.isSome ∧ r.2.delay ≤ timeout

instance (timeout : Nat) (replies : List (Request × Reply)) :
    Decidable (AllInTime timeout replies) :=
  inferInstanceAs (Decidable (∀ r ∈ replies, _))

/-- A round waits for all answers, or until the timeout has passed. -/
def waitingTime (timeout : Nat) (replies : List (Request × Reply)) : Nat :=
  if AllInTime timeout replies then (replies.map fun r => r.2.delay).foldl max 0 else timeout

/-- A round whose requests are out. -/
structure Flight where
  issued : Nat
  /-- the answers that will be in when the round stops waiting -/
  settled : List Settled
  timedOut : Bool
  /-- when the round stops waiting -/
  finish : Nat

namespace Site

/-- The first half of a round that begins now: the requests are planned and sent. Models `tick` up
    to its fetches. -/
def launch (s : Site) (timeout : Nat) : Except Fault (Site × Flight) := do
  let plan := (← s.shared.read?).plan
  let (source, replies) := s.source.askAll s.clock plan
  return ({ s with source },
    ⟨plan.length, settledWithin timeout replies, ¬ AllInTime timeout replies,
      s.clock + waitingTime timeout replies⟩)

/-- The second half of a round: the clock moves on to where it stops waiting, and what is in by then
    is applied. Models the rest of `tick`. -/
def land (s : Site) (f : Flight) : Site × Except Fault TickReport :=
  let (shared, report) := s.shared.use (·.finishRound f.issued f.timedOut f.settled)
  ({ s with shared, clock := f.finish }, report)

/-- A round that waits as long as it has to. -/
def tick (s : Site) (timeout : Nat) : Site × Except Fault TickReport :=
  match s.launch timeout with
  | .error f => (s, .error f)
  | .ok (s, flight) => s.land flight

end Site

/-- A poller that is worked by hand. -/
structure Poller where
  settings : PollSettings
  /-- rounds so far, failed ones included -/
  ticks : Nat
deriving DecidableEq, Inhabited

namespace Poller

/-- A poller with checked settings. Models `LivePointFeeder.new`. -/
def make? (settings : PollSettings) : Except Fault Poller := do return ⟨← settings.check, 0⟩

/-- One round. Models `tick`. -/
def tick (p : Poller) (s : Site) : Poller × Site × Except Fault TickReport :=
  ({ p with ticks := p.ticks + 1 }, s.tick p.settings.timeout)

end Poller

/-! ## Running pollers -/

/-- How late a round may begin and still count as punctual. -/
def punctuality : Nat := 5

/-- A poller that was started: when its next round is due, and who says that it goes on. -/
structure Running where
  site : Site
  due : Nat
  options : LiveOptions

namespace Running

/-- Waits until the next round is due, unless that is not before the deadline. Models the timer of
    `run`, which delays after a missed tick. -/
def wait (interval deadline : Nat) (r : Running) : Running × Option Unit :=
  let begins := max r.due r.site.clock
  if deadline ≤ begins then ({ r with site := { r.site with clock := deadline } }, none)
  else
    let due := if begins ≤ r.due + punctuality then r.due + interval else begins + interval
    ({ r with site := { r.site with clock := begins }, due }, some ())

/-- Asks whether polling goes on. -/
def ask (r : Running) : Running × Bool :=
  let (options, answer) := r.options.ask
  ({ r with options }, answer)

/-- Runs a round. If it would not be done before the deadline, it is dropped there and nothing is
    applied. -/
def tick (timeout deadline : Nat) (r : Running) : Running × Option (Except Fault TickReport) :=
  match r.site.launch timeout with
  | .error f => (r, some (.error f))
  | .ok (site, flight) =>
    if deadline ≤ flight.finish then ({ r with site := { site with clock := deadline } }, none)
    else
      let (site, report) := site.land flight
      ({ r with site }, some report)

/-- A running poller as a world for the polling loop. -/
def world (settings : PollSettings) (deadline : Nat) : World Running where
  wait := wait settings.interval deadline
  ask := ask
  tick := tick settings.timeout deadline

end Running

/-- What became of a poller. -/
inductive Polling
  | notStarted
  | stopped (cause : Stop)
  /-- it was still running when it was ended from outside -/
  | running
deriving DecidableEq

/-- Starts a poller, and ends it after `duration` if it has not stopped of itself. It is not started
    if the group is not live or the predicate says no at once; its first round is due one interval
    later. Models `start`. -/
def Site.start (s : Site) (settings : PollSettings) (options : LiveOptions) (duration : Nat) :
    Site × Except Fault Polling :=
  if ¬ options.live then (s, .ok .notStarted)
  else
    let (options, goesOn) := options.ask
    if ¬ goesOn then (s, .ok .notStarted)
    else
      match settings.check with
      | .error f => (s, .error f)
      | .ok settings =>
        let deadline := s.clock + duration
        let running : Running := ⟨s, s.clock + settings.interval, options⟩
        let most := duration / settings.interval + 1
        match rounds (Running.world settings deadline) most running with
        | (r, some cause) => (r.site, .ok (.stopped cause))
        | (r, none) => ({ r.site with clock := deadline }, .ok .running)

end LinkedCharts
