import MenuBoard.Phrase.Keyword

/-!
Vocabularies: the keywords for one concept, each with what it stands for. They are tried in order and the first that
matches wins, even where a later one would take more of the text.
-/

namespace MenuBoard.Phrase

/-- the keywords for one concept; `name` is what a message calls it -/
structure Vocabulary (α : Type) where
  name : String
  entries : List (Keyword × α)

/-- what the first matching keyword stands for, and the text after it -/
def Vocabulary.match? {α : Type} (v : Vocabulary α) (text : List Char) : Option (α × List Char) :=
  v.entries.findSome? fun (keyword, value) => (keyword.match? text).map (value, ·)

theorem Vocabulary.length_match? {α : Type} {v : Vocabulary α} {text rest : List Char} {a : α}
    (h : v.match? text = some (a, rest)) : ∃ e ∈ v.entries, rest.length + e.1.words.flatten.length ≤ text.length := by
  obtain ⟨e, he, h⟩ := List.exists_of_findSome?_eq_some h
  obtain ⟨r, hr, heq⟩ := Option.map_eq_some_iff.1 h
  cases heq
  exact ⟨e, he, Keyword.length_match? hr⟩

end MenuBoard.Phrase
