import LinkedCharts.Text.Composition
import LinkedCharts.Text.Direction
import LinkedCharts.Text.Joining
import LinkedCharts.Url.Domain.Folding
import LinkedCharts.Url.Punycode

/-!
# Labels of domain names

A label is what stands between two dots of a name. One outside of ASCII is looked up in Punycode
behind the mark `xn--`, and a label that comes with this mark has to stand for one that could also
have come without.

Results:
* `foldName?`: a name in plain small characters, in its composed form.
* `Label.ofText?`: a label of such a name.
* `Label.fitsDirection`: the label can stand in a name that has letters of both directions.
-/

namespace LinkedCharts.Url

open Text

/-- All characters are in ASCII. -/
def isAscii (cs : List Char) : Bool := cs.all fun c => c.toNat < 0x80

/-- A name in plain small characters, in its composed form. -/
def foldName? (cs : List Char) : Option (List Char) :=
  (cs.mapM fold?).map fun parts => composed parts.flatten

/-! ## Joiners -/

/-- The sign that keeps the letters on its two sides apart. -/
def nonJoiner : Char := Char.ofNat 0x200c

/-- The sign that joins the letters on its two sides. -/
def joiner : Char := Char.ofNat 0x200d

/-- The first character that is not passed over has a property. -/
def nextLetter (property : Char → Bool) (cs : List Char) : Bool :=
  (cs.find? (!isTransparent ·)).any property

/-- A joiner of either kind changes something where it stands: behind a sign that takes the vowel
    from a letter, or, if it keeps letters apart, between two that would be joined. What stands
    before it is given backwards. -/
def joinerMatters (before : List Char) (c : Char) (after : List Char) : Bool :=
  (before.head?.any fun d => combiningClass d == viramaClass) ||
    (c == nonJoiner && nextLetter joinsBehind before && nextLetter joinsBefore after)

/-- Every joiner in the rest of a label matters. What stands before it is given backwards. -/
def joinersMatter (before : List Char) : List Char → Bool
  | [] => true
  | c :: rest =>
    ((c != nonJoiner && c != joiner) || joinerMatters before c rest) &&
      joinersMatter (c :: before) rest

/-! ## Labels -/

/-- A label as it is read, and in the form in which it is looked up. -/
structure Label where
  letters : List Char
  ascii : List Char
deriving DecidableEq

/-- The mark in front of Punycode. -/
def punycodeMark : List Char := "xn--".toList

/-- The most characters of a label outside of ASCII. -/
def longestLabel : Nat := 1000

/-- The most characters that may stand behind the mark of Punycode. -/
def longestCode : Nat := 2000

/-- A label outside of ASCII does not begin with a mark, has no idle joiners and is not too long. -/
def isInternational (letters : List Char) : Bool :=
  !isAscii letters && !letters.head?.any isMark && joinersMatter [] letters &&
    letters.length ≤ longestLabel

namespace Label

/-- The label that stands behind the mark of Punycode. It is in the form in which names are read,
    and does not bear the mark again. -/
def ofPunycode? (code : List Char) : Option Label := do
  if code.length > longestCode then none
  else
    let letters ← Punycode.decode? code
    if isInternational letters ∧ foldName? letters = some letters ∧
        ¬ punycodeMark.isPrefixOf letters then
      some ⟨letters, punycodeMark ++ code⟩
    else none

/-- A label of a folded name. -/
def ofText? (cs : List Char) : Option Label :=
  if punycodeMark.isPrefixOf cs then ofPunycode? (cs.drop punycodeMark.length)
  else if isAscii cs then some ⟨cs, cs⟩
  else if isInternational cs then some ⟨cs, punycodeMark ++ Punycode.encode cs⟩
  else none

/-! ## Direction -/

/-- The label has something that is written from right to left. -/
def isBackward (l : Label) : Bool :=
  l.letters.any Text.isBackward

/-- What follows the first character, without the marks at the end. -/
def tail (l : Label) : List Char :=
  ((l.letters.drop 1).reverse.dropWhile fun c => direction c == .mark).reverse

/-- What ends a label that begins in some direction. -/
def endings (backward : Bool) : List Direction :=
  if backward then [.rightToLeft, .europeanDigit, .arabicDigit] else [.leftToRight, .europeanDigit]

/-- What may stand inside of such a label. -/
def insides (backward : Bool) : List Direction := .neutral :: .mark :: endings backward

/-- A label begins with a letter, all its letters have one direction, it ends with a letter or a
    digit, and one that is written from right to left has digits of one kind. Marks at the end do
    not count. -/
def fitsDirection (l : Label) : Bool :=
  match l.letters with
  | [] => true
  | first :: _ =>
    let directions := l.tail.map direction
    let backward := direction first == .rightToLeft
    (backward || direction first == .leftToRight) &&
      directions.getLast?.all (endings backward).contains &&
      directions.all (insides backward).contains &&
      !(directions.contains .europeanDigit && directions.contains .arabicDigit)

end Label

end LinkedCharts.Url
