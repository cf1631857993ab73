import LinkedCharts.Url.Host
import LinkedCharts.Url.Path

/-!
# Reading URLs

A text is a URL by itself if it begins with a scheme; otherwise it is read relative to a base.
Blanks and control characters around it, and line breaks and tabulators anywhere, do not count.
This is the reader behind `with_base_url` and `request_url`.

Results:
* `Url.ofText?`: the URL that a text stands for, with or without a base.
-/

namespace LinkedCharts.Url

/-! ## Parts of the text -/

/-- The text without control characters and blanks around it, and without line breaks and tabulators
    inside. -/
def clean (cs : List Char) : List Char :=
  let outer (c : Char) : Bool := c.toNat ≤ 0x20
  ((cs.dropWhile outer).reverse.dropWhile outer).reverse.filter fun c =>
    !(c == '\t' || c == '\n' || c == '\r')

/-- A character of a scheme behind the first. -/
def inScheme (c : Char) : Bool := c.isAlphanum || c == '+' || c == '-' || c == '.'

/-- The scheme in lower case and what follows its colon, if the text begins with a scheme. -/
def splitScheme : List Char → Option (String × List Char)
  | [] => none
  | c :: rest =>
    if c.isAlpha then
      match rest.dropWhile inScheme with
      | ':' :: after =>
        some (String.ofList ((c :: rest.takeWhile inScheme).map Char.toLower), after)
      | _ => none
    else none

/-- Path, query and fragment of a text. -/
structure Tail where
  path : List Char
  query : Option (List Char)
  fragment : Option (List Char)

/-- Splits a text at the first question mark and the first number sign. -/
def Tail.ofText (cs : List Char) : Tail :=
  let front := cs.takeWhile (· != '#')
  let fragment := match cs.dropWhile (· != '#') with
    | [] => none
    | _ :: rest => some rest
  let query := match front.dropWhile (· != '?') with
    | [] => none
    | _ :: rest => some rest
  ⟨front.takeWhile (· != '?'), query, fragment⟩

/-- A query as it is written in a scheme. -/
def encodeQuery (scheme : String) (cs : List Char) : String :=
  String.ofList (encode (if isSpecial scheme then inSpecialQuerySet else inQuerySet) cs)

/-- A fragment as it is written. -/
def encodeFragment (cs : List Char) : String := String.ofList (encode inFragmentSet cs)

/-- The URL with the query and the fragment of a tail. -/
def withTail (u : Url) (t : Tail) : Url :=
  { u with query := t.query.map (encodeQuery u.scheme), fragment := t.fragment.map encodeFragment }

/-! ## Hosts and ports -/

/-- A port in front of a path, query or fragment, which is left out if it is that of the scheme. -/
def readPort (scheme : String) (cs : List Char) : Except Failure (Option Nat × List Char) :=
  let digits := cs.takeWhile Char.isDigit
  let rest := cs.dropWhile Char.isDigit
  let port := ((number? 10 digits).getD 0)
  if port > 65535 then .error .port
  else if rest.head?.any fun c => !("/\\?#".toList.contains c) then .error .port
  else .ok (if digits.isEmpty ∨ defaultPort? scheme = some port then none else some port, rest)

/-- The text of a host and what follows it. A colon inside brackets belongs to the host. -/
def splitHost (special inside : Bool) : List Char → List Char × List Char
  | [] => ([], [])
  | c :: rest =>
    if (c == ':' && !inside) || (special && c == '\\') || "/?#".toList.contains c then
      ([], c :: rest)
    else
      let inside := c == '[' || (inside && c != ']')
      let (host, after) := splitHost special inside rest
      (c :: host, after)

/-- User name and password of a text in front of a host. -/
def credentials (cs : List Char) : String × String :=
  let password := match cs.dropWhile (· != ':') with
    | [] => []
    | _ :: rest => rest
  (String.ofList (encode inUserSet (cs.takeWhile (· != ':'))),
    String.ofList (encode inUserSet password))

/-- The text before the last sign that ends credentials, if there is one, and the text behind it. -/
def splitCredentials (special : Bool) (cs : List Char) : Option (List Char) × List Char :=
  let stop (c : Char) : Bool := "/?#".toList.contains c || (special && c == '\\')
  let authority := cs.takeWhile (!stop ·)
  let after := cs.dropWhile (!stop ·)
  let behind := (authority.reverse.takeWhile (· != '@')).reverse
  match authority.reverse.dropWhile (· != '@') with
  | [] => (none, cs)
  | _ :: front => (some front.reverse, behind ++ after)

/-- A URL from what follows the two slashes behind its scheme. -/
def ofAuthority (scheme : String) (cs : List Char) : Except Failure Url := do
  let special := isSpecial scheme
  let (userText, rest) := splitCredentials special cs
  if userText = some [] ∧
      rest.head?.any fun c => "/?#".toList.contains c || (special && c == '\\') then
    throw .emptyHost
  let (username, password) := credentials (userText.getD [])
  let (hostText, rest) := splitHost special false rest
  if special ∧ hostText.isEmpty then throw .emptyHost
  let host ← if special then Host.ofText? hostText else Host.ofPlainText? hostText
  if hostText.isEmpty ∧ rest.head? = some ':' then throw .emptyHost
  let (port, rest) ← match rest with
    | ':' :: rest => readPort scheme rest
    | _ => pure (none, rest)
  if hostText.isEmpty ∧ ¬ (username = "" ∧ password = "") then throw .emptyHost
  let tail := Tail.ofText rest
  let path := .segments (rootedPath special tail.path)
  return withTail ⟨scheme, username, password, some host, port, path, none, none⟩ tail

/-! ## Files -/

/-- A URL of a file without credentials, port, query and fragment. -/
def fileUrl (host : Host) (parts : List String) : Url :=
  ⟨"file", "", "", some host, none, .segments parts, none, none⟩

/-- No host. -/
def noHost : Host := .name ""

/-- The segments of a path; one without structure has none. -/
def UrlPath.parts : UrlPath → List String
  | .plain _ => []
  | .segments parts => parts

/-- The URL of a file from what follows two slashes, where a host may stand. A path that begins with
    a drive has no host. -/
def fileWithHost (cs : List Char) : Except Failure Url := do
  let stop (c : Char) : Bool := "/\\?#".toList.contains c
  let hostText := cs.takeWhile (!stop ·)
  let rest := if isDriveLike hostText then cs else cs.dropWhile (!stop ·)
  let host ← if hostText.isEmpty ∨ isDriveLike hostText then pure noHost else Host.ofText? hostText
  let tail := Tail.ofText rest
  if host = noHost ∨ host = .name "localhost" then
    return withTail (fileUrl noHost (fileSegments [""] tail.path)) tail
  let parts := (walk true [""] (Text.splitBy (isSlash true) (dropRoot true tail.path))).reverse
  let driven := parts.head?.any fun p => isDrive p.toList
  return withTail (fileUrl (if driven then noHost else host) (trimFront parts)) tail

/-- The URL of a file from what follows one slash. Host and drive come from the base. -/
def fileFromRoot (base : Option Url) (cs : List Char) : Url :=
  let tail := Tail.ofText cs
  let (host, parts) := match base with
    | none => (noHost, [""])
    | some b =>
      let drive := (UrlPath.parts b.path).take 1
      if beginsWithDrive cs then (noHost, [""])
      else if drive.any fun p => isDrive p.toList then (noHost, "" :: drive)
      else (b.host.getD noHost, [""])
  withTail (fileUrl host (fileSegments parts tail.path)) tail

/-- The URL of a file relative to the path of its base. -/
def fileRelative (base : Option Url) (cs : List Char) : Url :=
  let tail := Tail.ofText cs
  let fromStart := withTail (fileUrl noHost (fileSegments [""] tail.path)) tail
  match base with
  | none => fromStart
  | some b =>
    match cs with
    | [] => { b with fragment := none }
    | '#' :: _ => { b with fragment := tail.fragment.map encodeFragment }
    | '?' :: _ => withTail b tail
    | _ =>
      if beginsWithDrive cs then fromStart
      else
        let parts := fileSegments (shorten true (UrlPath.parts b.path).reverse) tail.path
        withTail { b with path := .segments parts } tail

/-- The URL of a file from what follows its scheme. -/
def ofFile (base : Option Url) (cs : List Char) : Except Failure Url :=
  match cs with
  | c :: rest =>
    if isSlash true c then
      match rest with
      | d :: rest' => if isSlash true d then fileWithHost rest' else .ok (fileFromRoot base rest)
      | [] => .ok (fileFromRoot base rest)
    else .ok (fileRelative base cs)
  | [] => .ok (fileRelative base cs)

/-! ## Relative URLs -/

/-- Slashes of either kind in front. -/
def leadingSlashes (cs : List Char) : Nat := (cs.takeWhile (isSlash true)).length

/-- A URL relative to a base with segments in its path. -/
def ofRelative (base : Url) (cs : List Char) : Except Failure Url :=
  let special := isSpecial base.scheme
  let tail := Tail.ofText cs
  match cs with
  | [] => .ok { base with fragment := none }
  | '#' :: _ => .ok { base with fragment := tail.fragment.map encodeFragment }
  | '?' :: _ => .ok (withTail base tail)
  | c :: rest =>
    if isSlash true c then
      if leadingSlashes cs ≥ 2 then
        match cs with
        | '/' :: '/' :: after => ofAuthority base.scheme after
        | _ => ofAuthority base.scheme (cs.dropWhile (isSlash true))
      else
        let path := segments special [""] (Tail.ofText rest).path
        .ok (withTail { base with path := .segments path } tail)
    else
      let front := openSegment (shorten false (UrlPath.parts base.path).reverse)
      let path := segments special front tail.path
      .ok (withTail { base with path := .segments path } tail)

/-! ## URLs -/

/-- A URL from its scheme and what follows. -/
def ofScheme (base : Option Url) (scheme : String) (cs : List Char) : Except Failure Url :=
  let sameScheme := base.filter fun b => b.scheme == scheme
  if scheme = "file" then ofFile sameScheme cs
  else if isSpecial scheme then
    match sameScheme with
    | some b =>
      if leadingSlashes cs < 2 then ofRelative b cs
      else ofAuthority scheme (cs.dropWhile (isSlash true))
    | none => ofAuthority scheme (cs.dropWhile (isSlash true))
  else
    let tail := Tail.ofText cs
    let bare (path : UrlPath) : Url :=
      withTail ⟨scheme, "", "", none, none, path, none, none⟩ tail
    match cs with
    | '/' :: '/' :: rest => ofAuthority scheme rest
    | '/' :: rest => .ok (bare (.segments (segments false [""] (Tail.ofText rest).path)))
    | _ => .ok (bare (.plain (String.ofList (encode isControl tail.path))))

/-- The URL that a text stands for, relative to a base if there is one. -/
def ofText? (base : Option Url) (text : String) : Except Failure Url :=
  let cs := clean text.toList
  match splitScheme cs with
  | some (scheme, rest) => ofScheme base scheme rest
  | none =>
    match base with
    | none => .error .relativeWithoutBase
    | some b =>
      match b.path, cs with
      | _, '#' :: rest => .ok { b with fragment := some (encodeFragment rest) }
      | .plain _, _ => .error .relativeToOpaque
      | .segments _, _ => if b.scheme = "file" then ofFile (some b) cs else ofRelative b cs

end LinkedCharts.Url
