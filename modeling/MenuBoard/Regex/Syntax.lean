import MenuBoard.Text.Case
import MenuBoard.Text.WordChar
import MenuBoard.Text.Digit
import MenuBoard.Text.Blank

/-!
Regular expressions as trees. What an inline flag says is settled while an expression is read, so every leaf holds the rule
it compares characters by. Characters are code points, because an expression may name code points that no text holds.
-/

namespace MenuBoard.Regex

open MenuBoard.Text

/-- how characters are compared -/
inductive CaseRule where
  | exact
  | ascii
  | unicode
  deriving DecidableEq, Repr

/-- the small partner of a code point among the ASCII letters -/
def asciiLower (n : Nat) : Nat := if 0x41 ≤ n ∧ n ≤ 0x5a then n + 0x20 else n

namespace CaseRule

/-- Two characters are the same under a rule if they have the same key. -/
def key : CaseRule → Nat → Nat
  | .exact, n => n
  | .ascii, n => asciiLower n
  | .unicode, n => caseCode n

/-- what a back reference compares: small partners alone -/
def small : CaseRule → Nat → Nat
  | .exact, n => n
  | .ascii, n => asciiLower n
  | .unicode, n => lowerCode n

/-- the code points that are the same as `n` under a rule -/
def variants : CaseRule → Nat → List Nat
  | .exact, n => [n]
  | .ascii, n =>
    let s := asciiLower n
    if 0x61 ≤ s ∧ s ≤ 0x7a then [s, s - 0x20] else [n]
  | .unicode, n => caseVariants n

end CaseRule

/-- a class of characters that an escape names -/
inductive Category where
  | digit | space | word
  deriving DecidableEq, Repr

/-- membership in a class, among ASCII only or among all characters -/
def Category.holds (ascii : Bool) (category : Category) (n : Nat) : Bool :=
  let c := Char.ofNat n
  (!ascii || n < 0x80) &&
    match category with
    | .digit => isDecimalDigit c
    | .space => if ascii then n == 0x20 || (0x09 ≤ n && n ≤ 0x0d) else isSpace c
    | .word => isWordChar c

/-- a member of a set in brackets -/
inductive SetItem where
  | one (n : Nat)
  | range (low high : Nat)
  | category (category : Category) (negated : Bool)
  deriving DecidableEq, Repr

/-- What one character must satisfy. -/
inductive CharTest where
  | any
  | notNewline
  | literal (n : Nat) (negated : Bool) (rule : CaseRule)
  | set (items : List SetItem) (negated : Bool) (rule : CaseRule) (ascii : Bool)
  deriving DecidableEq, Repr

/-- A member of a set holds a character if it holds one that is the same under the rule. A member beyond U+FFFF that stands
alone is compared with the small partner only. -/
def SetItem.holds (rule : CaseRule) (ascii : Bool) (n : Nat) : SetItem → Bool
  | .one m => if 0xffff < m then rule.small n == m else rule.key n == rule.key m
  | .range low high => (rule.variants n).any fun v => low ≤ v && v ≤ high
  | .category kind negated => kind.holds ascii n != negated

def CharTest.holds (n : Nat) : CharTest → Bool
  | .any => true
  | .notNewline => n != 0x0a
  | .literal m negated rule => (rule.key n == rule.key m) != negated
  | .set items negated rule ascii => items.any (SetItem.holds rule ascii n) != negated

/-- a place in a text -/
inductive Anchor where
  | textStart
  | lineStart
  | textEnd
  | lineEnd
  | lastLineEnd
  | wordBoundary (ascii negated : Bool)
  deriving DecidableEq, Repr

/-- how often a repetition tries: as often as it can, as seldom as it can, or as often as it can without giving back -/
inductive Greed where
  | greedy | lazy | possessive
  deriving DecidableEq, Repr

/-- A regular expression. Groups are numbered from 1. -/
inductive Node where
  | empty
  | one (test : CharTest)
  | anchor (place : Anchor)
  | seq (first second : Node)
  | alt (first second : Node)
  | repeated (greed : Greed) (least : Nat) (most : Option Nat) (body : Node)
  | group (index : Nat) (body : Node)
  | atomic (body : Node)
  | lookAhead (negated : Bool) (body : Node)
  | lookBehind (negated : Bool) (low high : Nat) (body : Node)
  | backReference (index : Nat) (rule : CaseRule)
  | conditional (index : Nat) (yes no : Node)
  deriving Repr

end MenuBoard.Regex
