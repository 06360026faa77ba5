/-!
The canteens, with the numbers they go by, and the pseudo-canteen that stands for all of them. The feed numbers canteens on
its own; `knownFeedIds` holds the numbers known without configuration.
-/

namespace MenuBoard

/-- the number of a canteen, or all of them -/
inductive CanteenId where
  | number (n : Int)
  | all
  deriving DecidableEq, Repr

/-- a canteen and its name -/
structure Canteen where
  id : CanteenId
  name : String
  deriving DecidableEq, Repr

namespace Canteen

def linne : Canteen := ⟨.number 153, "Cafeteria Linné"⟩
def dittrichring : Canteen := ⟨.number 127, "Cafeteria Dittrichring"⟩
def academica : Canteen := ⟨.number 118, "Mensa Academica"⟩
def amPark : Canteen := ⟨.number 106, "Mensa am Park"⟩
def elsterbecken : Canteen := ⟨.number 115, "Mensa am Elsterbecken"⟩
def liebigstrasse : Canteen := ⟨.number 162, "Mensa Liebigstraße"⟩
def peterssteinweg : Canteen := ⟨.number 111, "Mensa Peterssteinweg"⟩
def schoenauer : Canteen := ⟨.number 140, "Mensa Schönauer Straße"⟩
def tierklinik : Canteen := ⟨.number 170, "Mensa Tierklinik"⟩

/-- all canteens at once -/
def everywhere : Canteen := ⟨.all, "Alle Mensen"⟩

/-- every single canteen, in the order of the table -/
def known : List Canteen :=
  [linne, dittrichring, academica, amPark, elsterbecken, liebigstrasse, peterssteinweg, schoenauer, tierklinik]

/-- the canteen of the table with an id -/
def find? (id : CanteenId) : Option Canteen := (known ++ [everywhere]).find? (·.id == id)

end Canteen

/-- canteen numbers and the numbers the feed gives them -/
def knownFeedIds : List (Int × Int) := [(106, 63)]

end MenuBoard
