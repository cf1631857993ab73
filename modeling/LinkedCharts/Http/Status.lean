/-!
# Status codes

What `fetch_since` learns from the status line of an answer, and the words for it in its error.

Results:
* `Status.words`: the usual words for a code.
* `Status.isSuccess`, `Status.hasBody`: what a code says about an answer.
* `Status.ofLine?`: the code in the status line of an answer.
-/

namespace LinkedCharts.Status

/-- The usual words for the codes that have some. -/
def table : List (Nat × String) := [
  (100, "Continue"), (101, "Switching Protocols"), (102, "Processing"), (103, "Early Hints"),
  (200, "OK"), (201, "Created"), (202, "Accepted"), (203, "Non Authoritative Information"),
  (204, "No Content"), (205, "Reset Content"), (206, "Partial Content"), (207, "Multi-Status"),
  (208, "Already Reported"), (226, "IM Used"),
  (300, "Multiple Choices"), (301, "Moved Permanently"), (302, "Found"), (303, "See Other"),
  (304, "Not Modified"), (305, "Use Proxy"), (307, "Temporary Redirect"),
  (308, "Permanent Redirect"),
  (400, "Bad Request"), (401, "Unauthorized"), (402, "Payment Required"), (403, "Forbidden"),
  (404, "Not Found"), (405, "Method Not Allowed"), (406, "Not Acceptable"),
  (407, "Proxy Authentication Required"), (408, "Request Timeout"), (409, "Conflict"),
  (410, "Gone"), (411, "Length Required"), (412, "Precondition Failed"),
  (413, "Payload Too Large"), (414, "URI Too Long"), (415, "Unsupported Media Type"),
  (416, "Range Not Satisfiable"), (417, "Expectation Failed"), (418, "I'm a teapot"),
  (421, "Misdirected Request"), (422, "Unprocessable Entity"), (423, "Locked"),
  (424, "Failed Dependency"), (425, "Too Early"), (426, "Upgrade Required"),
  (428, "Precondition Required"), (429, "Too Many Requests"),
  (431, "Request Header Fields Too Large"), (451, "Unavailable For Legal Reasons"),
  (500, "Internal Server Error"), (501, "Not Implemented"), (502, "Bad Gateway"),
  (503, "Service Unavailable"), (504, "Gateway Timeout"), (505, "HTTP Version Not Supported"),
  (506, "Variant Also Negotiates"), (507, "Insufficient Storage"), (508, "Loop Detected"),
  (510, "Not Extended"), (511, "Network Authentication Required")]

/-- The usual words for a code. -/
def words (code : Nat) : String := (table.lookup code).getD "<unknown status code>"

/-- The request was understood and done. -/
def isSuccess (code : Nat) : Bool := 200 ≤ code && code < 300

/-- An answer follows later; this one only informs. A change of protocol is an answer. -/
def isInformation (code : Nat) : Bool := 100 ≤ code && code < 200 && code != 101

/-- The answer may have a body. -/
def hasBody (code : Nat) : Bool := 200 ≤ code && code != 204 && code != 304

/-- A character that the words behind a code may have: no controls but the tabulator. -/
def isReasonCharacter (c : Char) : Bool := c == '\t' || (0x20 ≤ c.toNat && c.toNat != 0x7f)

/-- The code in what follows the version in a status line: three digits, and then nothing, or a
    blank and some words. -/
def ofLine? (line : String) : Option Nat :=
  match line.toList with
  | a :: b :: c :: rest =>
    if [a, b, c].all Char.isDigit ∧ rest.head?.all (· == ' ') ∧ rest.all isReasonCharacter then
      let code := [a, b, c].foldl (fun n d => 10 * n + (d.toNat - '0'.toNat)) 0
      if 100 ≤ code then some code else none
    else none
  | _ => none

end LinkedCharts.Status
