import MenuBoard.Meal
import MenuBoard.Regex.Parser
import MenuBoard.Tag.Lookup

/-!
Patterns over meals: a tag the meal has, or a regular expression that occurs in its category or its name. A pattern is built
from a text, and the text may be unusable. Which texts are regular expressions is for a compiler to say; unless another one is
given, it is `Regex.compile`.
-/

namespace MenuBoard.Rule

open MenuBoard.Regex

inductive Pattern where
  | tag (tag : Tag)
  | category (regex : Regex)
  | name (regex : Regex)

/-- Why a text is no pattern. It is invalid for a reason, unless the reason is none of a place in the text: a repeat count
beyond all bounds, a numeral too long to read, or two flags that exclude each other for the whole of it. -/
inductive PatternError where
  | invalid (pattern reason : String)
  | repeatTooLarge
  | numeral (digits : Nat)
  | asciiAndUnicode
  deriving DecidableEq, Repr

def PatternError.message : PatternError → String
  | .invalid pattern reason => s!"Invalid pattern {Text.quoted pattern}: {reason}"
  | .repeatTooLarge => CompileError.repeatTooLarge.message []
  | .numeral digits => (CompileError.numeral digits).message []
  | .asciiAndUnicode => CompileError.asciiAndUnicode.message []

/-- what makes regular expressions of texts -/
abbrev Compiler := String → Except CompileError Regex

/-- a regular expression of a rule -/
def compileRegex (text : String) (compile : Compiler := Regex.compile) : Except PatternError Regex :=
  match compile text with
  | .ok regex => .ok regex
  | .error .repeatTooLarge => .error .repeatTooLarge
  | .error (.numeral digits) => .error (.numeral digits)
  | .error .asciiAndUnicode => .error .asciiAndUnicode
  | .error error => .error (.invalid text (error.message text.toList))

namespace Pattern

def ofTag (text : String) : Except PatternError Pattern :=
  match Tag.find text with
  | .ok t => .ok (.tag t)
  | .error error => .error (.invalid text error.message)

def ofCategory (text : String) (compile : Compiler := Regex.compile) : Except PatternError Pattern :=
  (compileRegex text compile).map .category

def ofName (text : String) (compile : Compiler := Regex.compile) : Except PatternError Pattern :=
  (compileRegex text compile).map .name

/-- a meal matches a pattern -/
def holds (meal : Meal) : Pattern → Bool
  | .tag t => meal.tags.contains t
  | .category regex => regex.occursIn meal.category
  | .name regex => regex.occursIn meal.name

end Pattern

end MenuBoard.Rule
