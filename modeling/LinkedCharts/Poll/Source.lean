import LinkedCharts.Group.Feed

/-!
# Sources of live data

A source answers requests for the samples of a series. This one follows a script: for every URL a
list of replies, of which the last is given again and again. It keeps a log of what it was asked.

Model of a `PointSource` that answers `fetch_since` from a script.

Results:
* `Source.ask`: the reply to a request.
-/

namespace LinkedCharts

/-- What comes of a fetch: samples, or a failure. -/
abbrev Fetched := Except Fault (List Sample)

/-- A reply of a source. -/
structure Reply where
  /-- how many milliseconds it takes -/
  delay : Nat
  /-- what comes then, `none` if nothing ever comes -/
  outcome : Option Fetched

/-- A request that a source was asked, and when. -/
structure Asked where
  time : Nat
  request : Request
deriving DecidableEq, Inhabited

/-- A source that follows a script. -/
structure Source where
  /-- replies by URL -/
  script : List (String × List Reply)
  /-- what was asked so far, in order -/
  log : List Asked

namespace Source

/-- A source that was not asked yet. -/
def ofScript (script : List (String × List Reply)) : Source := ⟨script, []⟩

/-- How often a URL was asked for. -/
def count (s : Source) (url : String) : Nat := s.log.countP fun a => a.request.url = url

/-- The reply at an index of a script, where the last one stands for all further ones. An empty
    script has no answer. -/
def replyAt (url : String) (script : List Reply) (index : Nat) : Reply :=
  match script[index]? with
  | some reply => reply
  | none => script.getLast?.getD ⟨0, some (.error (.fetch (.noAnswer url)))⟩

/-- Asks for a request at a time. Models `fetch_since`. -/
def ask (s : Source) (time : Nat) (r : Request) : Source × Reply :=
  let script := (s.script.lookup r.url).getD []
  ({ s with log := s.log ++ [⟨time, r⟩] }, replyAt r.url script (s.count r.url))

/-- Asks for some requests in order. -/
def askAll (s : Source) (time : Nat) : List Request → Source × List (Request × Reply)
  | [] => (s, [])
  | r :: rest =>
    let (s, reply) := s.ask time r
    let (s, replies) := s.askAll time rest
    (s, (r, reply) :: replies)

end Source

end LinkedCharts
