import LinkedCharts.Decimal.Shortest
import LinkedCharts.Url.Failure

/-!
# What can go wrong

Every operation that can fail names its cause; the words for a cause are in one place.

Models of `ChartSyncError` and of its texts. The three defects of refused calls are those of
`Calls`.

Results:
* `Defect`: the ways in which data or settings are refused.
* `Fault`: all causes of failure.
* `Fault.message`: the cause in words.
-/

namespace LinkedCharts

/-- Why data or settings are refused. -/
inductive Defect
  | emptyGroupId
  | unknownPreset (text : String)
  | nonFiniteTime
  | nonFiniteSamples (series : String)
  | emptyAxis
  | minimumSpan
  | unreadableChartSettings
  | unreadablePollSettings
  | pollInterval
  | tickTimeout
  | samplesOutside (series : String)
  | noSeries (index count : Nat)
  | noCharts (group : String)
  /-- a change caused by a synchronization step that was about to be recorded -/
  | echoRecorded (group : String)
  /-- the same for a write over the current state -/
  | echoReplaced (group : String)
  /-- a draw that the canvas refused, by its number -/
  | drawRefused (number : Nat)
  /-- a move that the chart refused, by its number -/
  | moveRefused (number : Nat)
  /-- a write that the history refused, by its number -/
  | writeRefused (number : Nat)
  | baseUrl (text : String) (cause : Url.Failure)
  | seriesUrl (text : String) (cause : Url.Failure)
deriving DecidableEq

/-- The defect in words. Models the texts that come with `InvalidData`. -/
def Defect.message : Defect → String
  | .emptyGroupId => "identity token must not be empty"
  | .unknownPreset text => "unknown range preset `" ++ text ++ "`"
  | .nonFiniteTime => "time values must be finite"
  | .nonFiniteSamples series => "series `" ++ series ++ "` contains non-finite samples"
  | .emptyAxis => "time scale cannot be built from empty data"
  | .minimumSpan => "min range must be finite and >= 0"
  | .unreadableChartSettings => "failed to parse viewport config"
  | .unreadablePollSettings => "failed to parse feeder config"
  | .pollInterval => "poll interval must be > 0"
  | .tickTimeout => "tick timeout must be > 0"
  | .samplesOutside series =>
    "series `" ++ series ++ "` frame contains points outside the visible range"
  | .noSeries index count =>
    "series index " ++ toString index ++ " out of bounds for " ++ toString count ++ " series"
  | .noCharts group => "chart group `" ++ group ++ "` needs at least one viewport"
  | .echoRecorded group =>
    "history push for `" ++ group ++ "` attempted while echoes are suppressed"
  | .echoReplaced group =>
    "history replace for `" ++ group ++ "` attempted while echoes are suppressed"
  | .drawRefused number => "render " ++ toString number ++ " failed"
  | .moveRefused number => "set " ++ toString number ++ " failed"
  | .writeRefused number => "write " ++ toString number ++ " failed"
  | .baseUrl text cause => "invalid base url `" ++ text ++ "`: " ++ cause.message
  | .seriesUrl text cause => "invalid series url `" ++ text ++ "`: " ++ cause.message

/-- Why a fetch brought no answer. -/
inductive FetchFailure
  /-- the answer had a status that is no success; its code, the usual words for it, and the URL -/
  | status (code : Nat) (words url : String)
  /-- the connection ended without an answer -/
  | noAnswer (url : String)
  /-- no request can go to the URL -/
  | unsendable (url : String)
deriving DecidableEq

/-- The failure in words. -/
def FetchFailure.message : FetchFailure → String
  | .status code words url => "HTTP " ++ toString code ++ " " ++ words ++ " from " ++ url
  | .noAnswer url => "error sending request for url (" ++ url ++ ")"
  | .unsendable url => "builder error for url (" ++ url ++ ")"

/-- Why an operation failed. -/
inductive Fault
  | invalidWindow (lo hi : Binary64)
  | invalidSize (width height : Nat)
  | invalidData (defect : Defect)
  | unknownChart (group : String) (index count : Nat)
  | unknownGroup (group : String)
  | duplicateGroup (group : String)
  | noTimeAxis
  | fetch (failure : FetchFailure)
  | payload
  | poisoned
deriving DecidableEq

/-- The cause in words. Models the texts of `ChartSyncError`. -/
def Fault.message : Fault → String
  | .invalidWindow lo hi => "invalid time range: min=" ++ lo.text ++ ", max=" ++ hi.text
  | .invalidSize width height =>
    "invalid viewport size: width=" ++ toString width ++ ", height=" ++ toString height
  | .invalidData defect => "invalid data: " ++ defect.message
  | .unknownChart group index count =>
    "viewport index " ++ toString index ++ " out of bounds for group `" ++ group ++ "` of size "
      ++ toString count
  | .unknownGroup group => "no chart group registered for token `" ++ group ++ "`"
  | .duplicateGroup group => "chart group `" ++ group ++ "` is already registered"
  | .noTimeAxis => "viewport has no time axis"
  | .fetch failure => "metrics fetch failed: " ++ failure.message
  | .payload => "failed to decode metrics payload: error decoding response body"
  | .poisoned => "shared chart state lock is poisoned"

end LinkedCharts
