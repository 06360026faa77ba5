import MenuBoard.Tag.Basic
import MenuBoard.Text.Case

/-!
Tags in the notes of the canteens, which are German. A note speaks of a tag where one of the tag's markers occurs in it,
whatever its case. `splitNotes` keeps the notes that speak of no tag.
-/

namespace MenuBoard.Tag

open MenuBoard.Text

/-- the pieces of a word that give a tag away -/
def markers : Tag → List String
  | .alcohol => ["alkohol"]
  | .antioxidant => ["antioxidation"]
  | .blackened => ["geschwärzt"]
  | .coloring => ["farbstoff"]
  | .cow => ["rind"]
  | .egg => ["eier"]
  | .fish => ["fisch"]
  | .flavorEnhancer => ["geschmacksverstärker"]
  | .garlic => ["knoblauch"]
  | .gluten => ["gluten"]
  | .lupin => ["lupin"]
  | .milk => ["milch"]
  | .mustard => ["senf"]
  | .nuts => ["schalenfrüchte", "nüsse"]
  | .phosphate => ["phosphat"]
  | .pig => ["schwein"]
  | .poultry => ["geflügel"]
  | .preservative => ["konservierung"]
  | .sellery => ["sellerie"]
  | .sesame => ["sesam"]
  | .soy => ["soja"]
  | .sulfite => ["sulfit", "schwefel"]
  | .sweetener => ["süßungsmittel"]
  | .vegan => ["vegan"]
  | .vegetarian => ["fleischlos", "vegetarisch", "ohne fleisch"]

/-- a note speaks of a tag -/
def occursIn (t : Tag) (note : List Char) : Bool := t.markers.any fun marker => occursIgnoringCase marker.toList note

/-- the tags that a note speaks of, in the order of their numbers -/
def ofNote (note : String) : List Tag := all.filter (·.occursIn note.toList)

/-- what notes say: tags, and the notes that are no tags -/
structure NoteSplit where
  tags : List Tag
  descriptions : List String
  deriving DecidableEq, Repr

/-- one more note: it adds its tags, or, if it has none, itself unless it is there already -/
def NoteSplit.add (split : NoteSplit) (note : String) : NoteSplit :=
  let found := ofNote note
  if !found.isEmpty then { split with tags := split.tags ++ found }
  else if split.descriptions.contains note then split
  else { split with descriptions := split.descriptions ++ [note] }

/-- Splits notes into tags, in the order of their numbers, and descriptions, each once and in order. -/
def splitNotes (notes : List String) : NoteSplit :=
  let split := notes.foldl NoteSplit.add ⟨[], []⟩
  { split with tags := sorted split.tags }

end MenuBoard.Tag
