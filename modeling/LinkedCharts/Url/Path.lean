import LinkedCharts.Url.Basic

/-!
# Reading paths

A path is read segment by segment. Its last segment is open: what is read next is added to it, and a
slash opens another. A segment of one dot stands for nothing, one of two dots takes back the segment
before it; the dots may be percent-encoded. What looks like the letter of a drive is not taken back
when something was written behind it.

Results:
* `Url.walk`: segments added to those of a path.
* `Url.fileSegments`: the segments of a file without the empty ones in front.
-/

namespace LinkedCharts.Url

/-- A slash, or a backslash in a special scheme. -/
def isSlash (special : Bool) (c : Char) : Bool := c == '/' || (special && c == '\\')

/-- One dot, perhaps encoded. -/
def isDot (segment : String) : Bool := segment.toLower == "." || segment.toLower == "%2e"

/-- Two dots, perhaps encoded. -/
def isDotDot (segment : String) : Bool :=
  ["..", ".%2e", "%2e.", "%2e%2e"].contains segment.toLower

/-- The letter of a drive with a colon. -/
def isDrive : List Char → Bool
  | [c, ':'] => c.isAlpha
  | _ => false

/-- The letter of a drive with a colon or a bar. -/
def isDriveLike : List Char → Bool
  | [c, d] => c.isAlpha && (d == ':' || d == '|')
  | _ => false

/-- The text begins with the letter of a drive, and a segment or the path ends behind it. -/
def beginsWithDrive (cs : List Char) : Bool :=
  isDriveLike (cs.take 2) && (cs[2]?.all fun c => "/\\?#".toList.contains c)

/-! ## Segments, from the last to the first -/

/-- The path up to its last slash. The letter of a drive that ends the path of a file stays. -/
def shorten (file : Bool) : List String → List String
  | [] => []
  | last :: before => if file && isDrive last.toList then last :: before else "" :: before

/-- Takes back the slash at the end of a path, unless it is the first or the one behind a drive. -/
def dropSlash : List String → List String
  | "" :: last :: before =>
    if isDriveLike last.toList then "" :: last :: before else last :: before
  | parts => parts

/-- Opens a segment, unless the last one is still empty. -/
def openSegment : List String → List String
  | "" :: before => "" :: before
  | parts => "" :: parts

/-- Adds a text to the last segment. -/
def extendLast (text : String) : List String → List String
  | [] => [text]
  | last :: before => (last ++ text) :: before

/-- A drive at the beginning of the path of a file is written with a colon. -/
def driveSegment (file : Bool) (parts : List String) (segment : List Char) : List Char :=
  if file && parts == [""] && isDriveLike segment then segment.take 1 ++ [':'] else segment

/-- Nothing but the letter of a drive. -/
def isDriveAlone : List String → Bool
  | [drive] => isDrive drive.toList
  | _ => false

/-- Adds a segment, which ends at a slash or with the path. -/
def addSegment (file : Bool) (parts : List String) (segment : List Char) (slash : Bool) :
    List String :=
  let parts := if file && isDriveAlone parts && !segment.isEmpty then "" :: parts else parts
  let text := String.ofList (encode inPathSet (driveSegment file parts segment))
  if isDotDot text then
    let shorter := shorten file (dropSlash parts)
    if slash then openSegment shorter else shorter
  else if isDot text then openSegment parts
  else
    let longer := extendLast text parts
    if slash then "" :: longer else longer

/-- Adds segments to a path. There is a slash behind all but the last. -/
def walk (file : Bool) (parts : List String) : List (List Char) → List String
  | [] => parts
  | segment :: rest => walk file (addSegment file parts segment !rest.isEmpty) rest

/-! ## Paths, from the first segment to the last -/

/-- A path of a file has no empty segments in front. -/
def trimFront (parts : List String) : List String :=
  match parts.dropWhile (· == "") with
  | [] => [""]
  | parts => parts

/-- The path of a file that a text spells behind some segments, of which the last comes first. -/
def fileSegments (parts : List String) (cs : List Char) : List String :=
  trimFront (walk true parts (Text.splitBy (isSlash true) cs)).reverse

/-- The path that a text spells behind some segments, of which the last comes first, in any scheme
    but that of files. -/
def segments (special : Bool) (parts : List String) (cs : List Char) : List String :=
  (walk false parts (Text.splitBy (isSlash special) cs)).reverse

/-- A path behind a host without the slash in front. -/
def dropRoot (special : Bool) : List Char → List Char
  | [] => []
  | c :: rest => if isSlash special c then rest else c :: rest

/-- The path behind a host. It is never empty in a special scheme. -/
def rootedPath (special : Bool) (cs : List Char) : List String :=
  if cs.isEmpty && !special then [] else segments special [""] (dropRoot special cs)

end LinkedCharts.Url
