/-!
What a guest leaves out and what diet they keep. The ingredients left out form a set without an order of its own.
-/

namespace MenuBoard

/-- an ingredient to leave out -/
inductive Exclude where
  | alcohol | fish | pig
  deriving DecidableEq, Repr

namespace Exclude

def name : Exclude → String
  | .alcohol => "alcohol"
  | .fish => "fish"
  | .pig => "pig"

/-- in alphabetical order -/
def all : List Exclude := [.alcohol, .fish, .pig]

theorem mem_all (x : Exclude) : x ∈ all := by cases x <;> decide

end Exclude

/-- a diet to keep -/
inductive Restriction where
  | vegan | vegetarian | flexible
  deriving DecidableEq, Repr

def Restriction.name : Restriction → String
  | .vegan => "vegan"
  | .vegetarian => "vegetarian"
  | .flexible => "flexible"

/-- a set of ingredients to leave out -/
structure Excludes where
  alcohol : Bool := false
  fish : Bool := false
  pig : Bool := false
  deriving DecidableEq, Repr

namespace Excludes

def empty : Excludes := {}

def contains (s : Excludes) : Exclude → Bool
  | .alcohol => s.alcohol
  | .fish => s.fish
  | .pig => s.pig

def insert (s : Excludes) : Exclude → Excludes
  | .alcohol => { s with alcohol := true }
  | .fish => { s with fish := true }
  | .pig => { s with pig := true }

def union (s t : Excludes) : Excludes := ⟨s.alcohol || t.alcohol, s.fish || t.fish, s.pig || t.pig⟩

/-- the members in alphabetical order -/
def toList (s : Excludes) : List Exclude := Exclude.all.filter s.contains

@[simp] theorem contains_empty (x : Exclude) : empty.contains x = false := by cases x <;> rfl

@[simp] theorem contains_insert (s : Excludes) (x y : Exclude) :
    (s.insert x).contains y = (x == y || s.contains y) := by
  cases x <;> cases y <;> simp [insert, contains]

@[simp] theorem contains_union (s t : Excludes) (x : Exclude) :
    (s.union t).contains x = (s.contains x || t.contains x) := by cases x <;> rfl

@[simp] theorem mem_toList (s : Excludes) (x : Exclude) : x ∈ s.toList ↔ s.contains x = true := by
  simp [toList, Exclude.mem_all]

/-- Two sets with the same members are equal. -/
theorem ext_contains {s t : Excludes} (h : ∀ x, s.contains x = t.contains x) : s = t := by
  cases s; cases t
  have h1 := h .alcohol
  have h2 := h .fish
  have h3 := h .pig
  simp_all [contains]

end Excludes

end MenuBoard
