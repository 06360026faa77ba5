import MenuBoard.Phrase.Vocabulary
import MenuBoard.Calendar.DateChoice
import MenuBoard.Canteen
import MenuBoard.Diet

/-!
The words of a phrase: the three openers, and a vocabulary each for canteens, days, ingredients and diets.
-/

namespace MenuBoard.Phrase

open MenuBoard.Calendar

def atWord : Keyword := { literal := "at" }
def noWord : Keyword := { literal := "no" }
def onWord : Keyword := { literal := "on" }

/-- Names of canteens, longer ones and nicknames included. The nicknames of the physics and chemistry buildings all mean
the canteen in the Linnéstraße. -/
def canteenNames : Vocabulary Canteen where
  name := "canteen name"
  entries := [
    ({ literal := "cafeteria linné" }, .linne),
    ({ literal := "linné" }, .linne),
    ({ literal := "linne" }, .linne),
    ({ literal := "physics" }, .linne),
    ({ literal := "physik" }, .linne),
    ({ literal := "chem", suffix := "istry" }, .linne),
    ({ literal := "chemie" }, .linne),
    ({ literal := "cafeteria dittrichring" }, .dittrichring),
    ({ literal := "dittrichring" }, .dittrichring),
    ({ literal := "mensa academica" }, .academica),
    ({ literal := "academica" }, .academica),
    ({ literal := "mensa am park" }, .amPark),
    ({ literal := "am park" }, .amPark),
    ({ literal := "park" }, .amPark),
    ({ literal := "main" }, .amPark),
    ({ literal := "mensa am elsterbecken" }, .elsterbecken),
    ({ literal := "elsterbecken" }, .elsterbecken),
    ({ literal := "mensa liebigstraße" }, .liebigstrasse),
    ({ literal := "liebigstraße" }, .liebigstrasse),
    ({ literal := "liebigstrasse" }, .liebigstrasse),
    ({ literal := "liebig" }, .liebigstrasse),
    ({ literal := "mensa peterssteinweg" }, .peterssteinweg),
    ({ literal := "peterssteinweg" }, .peterssteinweg),
    ({ literal := "mensa schönauer straße" }, .schoenauer),
    ({ literal := "schönauer straße" }, .schoenauer),
    ({ literal := "schönauer" }, .schoenauer),
    ({ literal := "schoenauer" }, .schoenauer),
    ({ literal := "mensa tierklinik" }, .tierklinik),
    ({ literal := "tierklinik" }, .tierklinik),
    ({ literal := "all" }, .everywhere),
    ({ literal := "everywhere" }, .everywhere)]

def dateWords : Vocabulary DateChoice where
  name := "today or tomorrow"
  entries := [({ literal := "today" }, .today), ({ literal := "tomorrow" }, .tomorrow)]

def weekdayNames : Vocabulary DateChoice where
  name := "weekday"
  entries := [
    ({ literal := "mon", suffix := "day" }, .weekday ⟨0, by decide⟩),
    ({ literal := "tue", suffix := "sday" }, .weekday ⟨1, by decide⟩),
    ({ literal := "wed", suffix := "nesday" }, .weekday ⟨2, by decide⟩),
    ({ literal := "thu", suffix := "rsday" }, .weekday ⟨3, by decide⟩),
    ({ literal := "fri", suffix := "day" }, .weekday ⟨4, by decide⟩),
    ({ literal := "sat", suffix := "urday" }, .weekday ⟨5, by decide⟩),
    ({ literal := "sun", suffix := "day" }, .weekday ⟨6, by decide⟩)]

def excludeNames : Vocabulary Exclude where
  name := "pig, fish or alcohol"
  entries := [
    ({ literal := "pig" }, .pig),
    ({ literal := "fish" }, .fish),
    ({ literal := "alcohol" }, .alcohol),
    ({ literal := "booze" }, .alcohol)]

def restrictionNames : Vocabulary Restriction where
  name := "vegan, vegetarian or flexible"
  entries := [
    ({ literal := "vegan" }, .vegan),
    ({ literal := "vegetarian" }, .vegetarian),
    ({ literal := "veggie" }, .vegetarian),
    ({ literal := "flexible" }, .flexible)]

/-- Every word for a diet has at least one letter. -/
theorem restrictionNames_nonempty : ∀ e ∈ restrictionNames.entries, 0 < e.1.words.flatten.length := by decide +kernel

theorem atWord_words : atWord.words.flatten.length = 2 := by decide +kernel
theorem noWord_words : noWord.words.flatten.length = 2 := by decide +kernel
theorem onWord_words : onWord.words.flatten.length = 2 := by decide +kernel

end MenuBoard.Phrase
