import LinkedCharts.Http.Status
import LinkedCharts.Sample
import LinkedCharts.Fault
import LinkedCharts.Url.Reader

/-!
# Metrics over HTTP

The samples of a series are asked for at its URL, which may be relative to that of the server. The
time of the newest sample held goes along as a pair at the end of the query. The answer is a list of
samples in JSON, in whatever order the server gives them.

Models of `HttpPointSource` and `format_from`.

Results:
* `sinceText`: a time as it is written in a query.
* `seriesUrl?`: the URL that is asked.
* `Answer.samples?`: the samples in an answer.
-/

namespace LinkedCharts

/-! ## Requests -/

/-- Below this a whole number is one whose neighbours are whole numbers too. -/
def wholeLimit : Nat := 2 ^ (53 : Nat)

/-- A time in a query. A whole number that is not too large is written as an integer, so that zero
    has no sign; any other in the fewest digits that identify it. Models `format_from`. -/
def sinceText (t : Binary64) : String :=
  match t.truncate? with
  | some i => if t.isWhole ∧ i.natAbs < wholeLimit then String.ofList (integerText i) else t.text
  | none => t.text
where
  /-- An integer in decimal digits. -/
  integerText (i : Int) : List Char :=
    if i < 0 then '-' :: Nat.toDigits 10 i.natAbs else Nat.toDigits 10 i.natAbs

/-- The URL of a server that series may be relative to. Models `with_base_url`. -/
def baseUrl? (text : String) : Except Fault Url :=
  match Url.ofText? none text with
  | .ok u => .ok u
  | .error cause => .error (.invalidData (.baseUrl text cause))

/-- The URL of a series: by itself if it is one, relative to the server otherwise. -/
def resolve? (base : Option Url) (url : String) : Except Url.Failure Url :=
  match Url.ofText? none url, base with
  | .ok u, _ => .ok u
  | .error _, some b => Url.ofText? (some b) url
  | .error cause, none => .error cause

/-- The URL that is asked for the samples of a series from a time on. Models `request_url`. -/
def seriesUrl? (base : Option Url) (url : String) (since : Option Binary64) : Except Fault Url :=
  match resolve? base url with
  | .error cause => .error (.invalidData (.seriesUrl url cause))
  | .ok u =>
    match since with
    | none => .ok u
    | some t => .ok (u.withPair "from" (sinceText t))

/-- URLs in the schemes of the web. -/
def Url.isHttp (u : Url) : Bool := u.scheme == "http" || u.scheme == "https"

/-- Characters that a host may have in a URL, but not in a request. -/
def isRefusedInRequest (c : Char) : Bool := "\"`\x7b\x7d".toList.contains c

/-- The longest URL that a request can be for, in bytes. -/
def longestUrl : Nat := 65534

/-- User name and password stand for texts. -/
def Url.hasReadableCredentials (u : Url) : Bool :=
  let readable (s : String) : Bool := (Url.textOfBytes? (Url.decode s.toList)).isSome
  readable u.username && (u.username != "" || readable u.password)

/-- The URL as a request goes to it: user name and password travel beside it if they can be read. -/
def Url.withoutCredentials (u : Url) : Url :=
  if u.hasReadableCredentials then { u with username := "", password := "" } else u

/-- A request can go to the URL. -/
def Url.isSendable (u : Url) : Bool :=
  u.isHttp && !(u.host.any fun h => h.text.any isRefusedInRequest) &&
    u.withoutCredentials.text.utf8ByteSize ≤ longestUrl

/-- The first line of the request for a URL. -/
def requestLine (u : Url) : String := "GET " ++ u.target ++ " HTTP/1.1"

/-! ## Answers -/

/-- What a server does with a request. -/
inductive Answer
  /-- it closes the connection -/
  | dropped
  /-- it answers with a status line and a body -/
  | answered (line body : String)
deriving DecidableEq, Inhabited

/-- The samples in the body of an answer. -/
def samplesOfText? (body : String) : Except Fault (List Sample) :=
  match (Json.Tree.parse? body).bind Sample.listOfTree? with
  | some samples => .ok samples
  | none => .error .payload

/-- The samples in the answer of a URL. -/
def Answer.samples? (url : Url) (answer : Answer) : Except Fault (List Sample) :=
  let noAnswer : Except Fault (List Sample) :=
    .error (.fetch (.noAnswer url.withoutCredentials.text))
  match answer with
  | .dropped => noAnswer
  | .answered line body =>
    match Status.ofLine? line with
    | none => noAnswer
    | some code =>
      if Status.isInformation code then noAnswer
      else if Status.isSuccess code then
        samplesOfText? (if Status.hasBody code then body else "")
      else .error (.fetch (.status code (Status.words code) url.text))

/-- Asks a server for the samples of a series. Returns the request line if the server got one. It
    does not understand what is encrypted. Models `fetch_since` against such a server. -/
def fetchSamples (base : Option Url) (url : String) (since : Option Binary64) (answer : Answer) :
    Option String × Except Fault (List Sample) :=
  match seriesUrl? base url since with
  | .error f => (none, .error f)
  | .ok u =>
    if !u.isSendable then (none, .error (.fetch (.unsendable u.withoutCredentials.text)))
    else if u.scheme = "https" then (none, Answer.dropped.samples? u)
    else (some (requestLine u), answer.samples? u)

end LinkedCharts
