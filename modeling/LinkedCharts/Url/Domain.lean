import LinkedCharts.Url.Domain.Label

/-!
# Domain names

A domain name is looked up in ASCII. It is read in plain small characters, taken apart at its dots,
and every label that is not ASCII then is written in Punycode. If there is a label that is written
from right to left, every label has to be one that cannot be mixed up with its neighbours.

Results:
* `domain?`: a domain name in the form in which it is looked up.
-/

namespace LinkedCharts.Url

/-- Characters that no domain name contains. -/
def isForbiddenInDomain (c : Char) : Bool :=
  c.toNat ≤ 0x20 || c.toNat == 0x7f || "#/:<>?@[\\]^|%".toList.contains c

/-- A domain name in the form in which it is looked up, if it is one. -/
def domain? (cs : List Char) : Option (List Char) := do
  let name ← foldName? cs
  if name.any isForbiddenInDomain then none
  else
    let labels ← (Text.splitBy (· == '.') name).mapM Label.ofText?
    if labels.any Label.isBackward && !labels.all Label.fitsDirection then none
    else some (List.intercalate ['.'] (labels.map Label.ascii))

end LinkedCharts.Url
