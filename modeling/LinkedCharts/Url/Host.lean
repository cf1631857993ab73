import LinkedCharts.Url.Basic
import LinkedCharts.Url.Domain

/-!
# Reading hosts

A text between brackets is an address of eight pieces. In a special scheme any other text is a
domain name, percent-encoded or not, or an address of four bytes if its last part is a number; in
other schemes it is taken as it stands.

Results:
* `Host.ofText?`, `Host.ofPlainText?`: the host of a special scheme, and of any other.
-/

namespace LinkedCharts

namespace Url

/-- Characters that no host contains. -/
def isForbiddenInHost (c : Char) : Bool :=
  c.toNat == 0 || "\t\n\r #/:<>?@[\\]^|".toList.contains c

end Url

namespace Host

open Url

/-- An address between brackets. -/
def ofBrackets? (cs : List Char) : Except Failure Host :=
  if cs.getLast? = some ']' then
    match ipv6? cs.dropLast with
    | some pieces => .ok (.ipv6 pieces)
    | none => .error .ipv6
  else .error .ipv6

/-- The host of a special scheme. -/
def ofText? : List Char → Except Failure Host
  | '[' :: rest => ofBrackets? rest
  | cs =>
    match (textOfBytes? (Url.decode cs)).bind fun s => domain? s.toList with
    | none => .error .internationalName
    | some [] => .error .emptyHost
    | some labels =>
      if endsInNumber labels then
        match ipv4? labels with
        | some address => .ok (.ipv4 address)
        | none => .error .ipv4
      else .ok (.name (String.ofList labels))

/-- The host of a scheme that is not special. -/
def ofPlainText? : List Char → Except Failure Host
  | '[' :: rest => ofBrackets? rest
  | cs =>
    if cs.any isForbiddenInHost then .error .hostCharacter
    else .ok (.name (String.ofList (encode isControl cs)))

end Host

end LinkedCharts
