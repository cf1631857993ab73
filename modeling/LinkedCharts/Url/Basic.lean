import LinkedCharts.Url.Address
import LinkedCharts.Url.Failure

/-!
# URLs

A URL is kept in parts, each in the form in which it is written, so that writing it is putting the
parts together.

Results:
* `Url.text`: the URL as a text.
* `Url.withPair`: a pair more at the end of the query.
-/

namespace LinkedCharts

/-- The host of a URL. -/
inductive Host
  | name (text : String)
  | ipv4 (address : Nat)
  | ipv6 (pieces : List Nat)
deriving DecidableEq, Inhabited

/-- The host as it is written. -/
def Host.text : Host → List Char
  | .name text => text.toList
  | .ipv4 address => Url.ipv4Text address
  | .ipv6 pieces => '[' :: (Url.ipv6Text pieces ++ [']'])

/-- The path of a URL. -/
inductive UrlPath
  /-- a text without structure, such as the address after `mailto:` -/
  | plain (text : String)
  /-- segments with a slash before each -/
  | segments (parts : List String)
deriving DecidableEq, Inhabited

/-- A URL in its parts. -/
structure Url where
  scheme : String
  username : String
  password : String
  host : Option Host
  port : Option Nat
  path : UrlPath
  query : Option String
  fragment : Option String
deriving DecidableEq, Inhabited

namespace Url

/-! ## Schemes -/

/-- The port that a special scheme uses when none is given. -/
def defaultPort? (scheme : String) : Option Nat :=
  match scheme with
  | "http" | "ws" => some 80
  | "https" | "wss" => some 443
  | "ftp" => some 21
  | _ => none

/-- Schemes whose URLs have a host, where a backslash counts as a slash. -/
def isSpecial (scheme : String) : Bool := (defaultPort? scheme).isSome || scheme == "file"

/-! ## Text -/

/-- User name and password with the sign behind them, if there are any. -/
def credentialsText (u : Url) : List Char :=
  if u.username = "" ∧ u.password = "" then []
  else
    u.username.toList ++ (if u.password = "" then [] else ':' :: u.password.toList) ++ ['@']

/-- Credentials, host and port, behind two slashes. -/
def authorityText (u : Url) : List Char :=
  match u.host with
  | none => []
  | some host =>
    ['/', '/'] ++ u.credentialsText ++ host.text
      ++ (match u.port with
        | none => []
        | some port => ':' :: Nat.toDigits 10 port)

/-- The path. Where it would be taken for a host, a dot segment goes before it. -/
def pathText (u : Url) : List Char :=
  match u.path with
  | .plain text => text.toList
  | .segments parts =>
    (if u.host.isNone ∧ parts.length > 1 ∧ parts.head? = some "" then ['/', '.'] else [])
      ++ parts.flatMap fun p => '/' :: p.toList

/-- Everything in front of the query. -/
def frontText (u : Url) : List Char := u.scheme.toList ++ ':' :: (u.authorityText ++ u.pathText)

/-- A part behind its mark, if it is there. -/
def markedText (mark : Char) : Option String → List Char
  | none => []
  | some text => mark :: text.toList

/-- The query with its mark. -/
def queryText (u : Url) : List Char := markedText '?' u.query

/-- The fragment with its mark. -/
def fragmentText (u : Url) : List Char := markedText '#' u.fragment

/-- The URL as a text. -/
def text (u : Url) : String := String.ofList (u.frontText ++ u.queryText ++ u.fragmentText)

/-- What a request for the URL asks the host for: path and query. -/
def target (u : Url) : String := String.ofList (u.pathText ++ u.queryText)

/-! ## Queries -/

/-- A query with one pair more, behind an ampersand unless there was nothing. -/
def addPair (query name value : List Char) : List Char :=
  (if query.isEmpty then [] else query ++ ['&']) ++ encodePair name ++ '=' :: encodePair value

/-- The URL with one pair more at the end of its query. -/
def withPair (u : Url) (name value : String) : Url :=
  { u with
    query := some (String.ofList (addPair (u.query.getD "").toList name.toList value.toList)) }

end Url

end LinkedCharts
