/-!
# Parts of a text

Results:
* `splitBy`: the parts of a text between separators.
* `words`: the words of a text between blanks.
-/

namespace LinkedCharts.Text

/-- The parts of a text between separators. -/
def splitBy (separator : Char → Bool) : List Char → List (List Char)
  | [] => [[]]
  | c :: rest =>
    if separator c then [] :: splitBy separator rest
    else
      match splitBy separator rest with
      | [] => [[c]]
      | part :: parts => (c :: part) :: parts

/-- The words of a text between blanks and line breaks. -/
def words (text : String) : List (List Char) :=
  (splitBy (fun c => c == ' ' || c == '\n') text.toList).filter (!·.isEmpty)

end LinkedCharts.Text
