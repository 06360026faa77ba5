/-!
Tags of meals: what they contain and what diet they suit. The order of the constructors is the order of the tag numbers.
-/

namespace MenuBoard

/-- a tag of a meal -/
inductive Tag where
  | alcohol | antioxidant | blackened | coloring | cow | egg | fish | flavorEnhancer | garlic | gluten | lupin | milk
  | mustard | nuts | phosphate | pig | poultry | preservative | sellery | sesame | soy | sulfite | sweetener | vegan |
  vegetarian
  deriving DecidableEq, Repr

namespace Tag

/-- all tags in the order of their numbers -/
def all : List Tag :=
  [.alcohol, .antioxidant, .blackened, .coloring, .cow, .egg, .fish, .flavorEnhancer, .garlic, .gluten, .lupin, .milk,
  .mustard, .nuts, .phosphate, .pig, .poultry, .preservative, .sellery, .sesame, .soy, .sulfite, .sweetener, .vegan,
  .vegetarian]

/-- the number of a tag -/
def id (t : Tag) : Nat := t.ctorIdx

/-- the tag with a number -/
def ofNumber? (n : Int) : Option Tag := if n < 0 then none else all[n.toNat]?

def name : Tag → String
  | .alcohol => "Alcohol"
  | .antioxidant => "Antioxidant"
  | .blackened => "Blackened"
  | .coloring => "Coloring"
  | .cow => "Cow"
  | .egg => "Egg"
  | .fish => "Fish"
  | .flavorEnhancer => "FlavorEnhancer"
  | .garlic => "Garlic"
  | .gluten => "Gluten"
  | .lupin => "Lupin"
  | .milk => "Milk"
  | .mustard => "Mustard"
  | .nuts => "Nuts"
  | .phosphate => "Phosphate"
  | .pig => "Pig"
  | .poultry => "Poultry"
  | .preservative => "Preservative"
  | .sellery => "Sellery"
  | .sesame => "Sesame"
  | .soy => "Soy"
  | .sulfite => "Sulfite"
  | .sweetener => "Sweetener"
  | .vegan => "Vegan"
  | .vegetarian => "Vegetarian"

/-- the tag with exactly this name -/
def ofName? (s : String) : Option Tag := all.find? (·.name == s)

/-- what a tag says about a meal -/
def describe : Tag → String
  | .alcohol => "Contains alcohol"
  | .antioxidant => "Contains an antioxidant"
  | .blackened => "Contains ingredients that have been blackened, i.e. blackened olives"
  | .coloring => "Contains food coloring"
  | .cow => "Contains meat from cattle"
  | .egg => "Contains egg"
  | .fish => "Contains fish"
  | .flavorEnhancer => "Contains artificial flavor enhancer"
  | .garlic => "Contains garlic"
  | .gluten => "Contains gluten"
  | .lupin => "Contains lupin"
  | .milk => "Contains milk"
  | .mustard => "Contains mustard"
  | .nuts => "Contains nuts"
  | .phosphate => "Contains phosphate"
  | .pig => "Contains meat from pig"
  | .poultry => "Contains poultry meat"
  | .preservative => "Contains artificial preservatives"
  | .sellery => "Contains sellery"
  | .sesame => "Contains sesame"
  | .soy => "Contains soy"
  | .sulfite => "Contains sulfite"
  | .sweetener => "Contains artificial sweetener"
  | .vegan => "Does not contain any animal produce"
  | .vegetarian => "Does not contain any meat"

/-- the tags that tell the kind of a meal; the others are about allergies and additives -/
def primary : List Tag := [.cow, .fish, .pig, .poultry, .vegan, .vegetarian]

def isPrimary (t : Tag) : Bool := primary.contains t

def isSecondary (t : Tag) : Bool := !t.isPrimary

/-- the tags among `tags`, each once, in the order of their numbers -/
def sorted (tags : List Tag) : List Tag := all.filter tags.contains

theorem mem_all (t : Tag) : t ∈ all := by cases t <;> decide

@[simp] theorem mem_sorted {t : Tag} {tags : List Tag} : t ∈ sorted tags ↔ t ∈ tags := by
  simp [sorted, mem_all]

theorem ofNumber?_id (t : Tag) : ofNumber? t.id = some t := by cases t <;> rfl

end Tag

end MenuBoard
