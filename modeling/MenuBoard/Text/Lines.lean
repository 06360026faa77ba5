/-!
Lines of a text, counted by their newlines.
-/

namespace MenuBoard.Text

/-- the text up to its first line end -/
def firstLine (text : String) : String := String.ofList (text.toList.takeWhile (· != '\n'))

/-- the line of an offset and the column in it, both from 1 -/
def lineAndColumn (text : List Char) (offset : Nat) : Nat × Nat :=
  let before := text.take offset
  (before.count '\n' + 1, (before.reverse.takeWhile (· != '\n')).length + 1)

end MenuBoard.Text
