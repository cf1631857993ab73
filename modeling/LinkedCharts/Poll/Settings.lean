import LinkedCharts.Fault
import LinkedCharts.Json.Record

/-!
# Settings of live polling

Models of `FeederConfig`, `LiveOptions` and `RunningPredicate`.

Results:
* `PollSettings.check`: settings whose interval and timeout are not zero.
* `PollSettings.ofText?`: checked settings from a JSON text.
* `LiveOptions`: whether a group is live, and who says that it goes on.
-/

namespace LinkedCharts

/-- The times of live polling, in milliseconds. -/
structure PollSettings where
  /-- from one round to the next -/
  interval : Nat
  /-- how long a round waits for its answers -/
  timeout : Nat
deriving DecidableEq, Inhabited

namespace PollSettings

/-- The settings that are taken when none are given. -/
def standard : PollSettings := ⟨3000, 2500⟩

/-- Refuses an interval of zero, and then a timeout of zero. Models `validate`. -/
def check (s : PollSettings) : Except Fault PollSettings :=
  if s.interval = 0 then .error (.invalidData .pollInterval)
  else if s.timeout = 0 then .error (.invalidData .tickTimeout)
  else .ok s

open Json

/-- Times in JSON are below this. -/
def bound : Nat := 2 ^ (64 : Nat)

/-- The settings as a record of both times. -/
def toJson (s : PollSettings) : Value :=
  .object [("poll_interval_ms", .ofNat s.interval), ("tick_timeout_ms", .ofNat s.timeout)]

/-- Settings from a record whose fields may both be missing. -/
def ofTree? (t : Tree) : Option PollSettings :=
  match t.fields? ["poll_interval_ms", "tick_timeout_ms"] with
  | some [interval, timeout] => do
    let interval ← Tree.optional standard.interval (Tree.nat? bound) interval
    let timeout ← Tree.optional standard.timeout (Tree.nat? bound) timeout
    some ⟨interval, timeout⟩
  | _ => none

/-- Checked settings from a JSON text. Models `from_json_str`. -/
def ofText? (text : String) : Except Fault PollSettings :=
  match (Tree.parse? text).bind ofTree? with
  | some s => s.check
  | none => .error (.invalidData .unreadablePollSettings)

end PollSettings

/-- Somebody who is asked again and again whether polling goes on. -/
structure Predicate where
  /-- the answers, by the number of questions asked before -/
  answer : Nat → Bool
  /-- how many questions were asked -/
  asked : Nat

namespace Predicate

/-- Says yes a number of times, and then no. -/
def yesTimes (n : Nat) : Predicate := ⟨fun k => k < n, 0⟩

/-- Asks once more. -/
def ask (p : Predicate) : Predicate × Bool := ({ p with asked := p.asked + 1 }, p.answer p.asked)

end Predicate

/-- Whether a group is live, and who says that polling goes on. -/
structure LiveOptions where
  live : Bool
  /-- without a predicate polling goes on for ever -/
  running : Option Predicate

namespace LiveOptions

/-- Asks whether polling goes on. Models `is_running`. -/
def ask (o : LiveOptions) : LiveOptions × Bool :=
  match o.running with
  | none => (o, true)
  | some p => ({ o with running := some p.ask.1 }, p.ask.2)

/-- The options as a text for people; of a predicate it says only that there is one. Models the
    debug text of `LiveOptions`. -/
def describe (o : LiveOptions) : String :=
  "LiveOptions \x7b live: " ++ (if o.live then "true" else "false") ++ ", is_running: "
    ++ (if o.running.isSome then "Some(\"<predicate>\")" else "None") ++ " \x7d"

end LiveOptions

end LinkedCharts
