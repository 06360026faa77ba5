import MenuBoard.Regex.Syntax

/-!
Searching a text with a regular expression, by backtracking: a matcher gets a state and what to do after a match, and gives
the state in which all of it succeeds first. Matchers are defined by recursion on the expression. A repetition needs no more
rounds than the text has characters, because a round that took none is the last one.
-/

namespace MenuBoard.Regex

open MenuBoard.Text

/-- A place in the text and the borders of the groups: group `i` begins at border `2i - 2` and ends at `2i - 1`. -/
structure Position where
  offset : Nat
  borders : Array (Option Nat)

/-- a matcher: a state and what to do next, to the state at the end of it all -/
abbrev Matcher := Position → (Position → Option Position) → Option Position

namespace Position

def mark (p : Position) (border : Nat) : Position :=
  { p with borders := p.borders.setIfInBounds border (some p.offset) }

/-- begin and end of a group, if it has matched -/
def span? (p : Position) (index : Nat) : Option (Nat × Nat) := do
  let first ← (← p.borders[2 * index - 2]?)
  let last ← (← p.borders[2 * index - 1]?)
  if first ≤ last then some (first, last) else none

end Position

/-- the code point at an offset -/
def codeAt? (text : Array Char) (offset : Nat) : Option Nat := text[offset]?.map Char.toNat

/-- the character before an offset satisfies `p` -/
def before (text : Array Char) (offset : Nat) (p : Nat → Bool) : Bool :=
  offset != 0 && (codeAt? text (offset - 1)).any p

def Anchor.holds (text : Array Char) (offset : Nat) : Anchor → Bool
  | .textStart => offset == 0
  | .lineStart => offset == 0 || before text offset (· == 0x0a)
  | .textEnd => offset == text.size
  | .lineEnd => offset == text.size || codeAt? text offset == some 0x0a
  | .lastLineEnd => offset == text.size || (offset + 1 == text.size && codeAt? text offset == some 0x0a)
  | .wordBoundary ascii negated =>
    let word := Category.word.holds ascii
    !text.isEmpty && ((before text offset word == (codeAt? text offset).any word) == negated)

/-- `body` exactly `n` times -/
def times (body : Matcher) : (n : Nat) → Matcher
  | 0, p, next => next p
  | n + 1, p, next => body p fun p => times body n p next

/-- One more round is allowed: the last one took something, and the limit is not reached. -/
def mayRepeat (left last : Option Nat) (p : Position) : Bool := left != some 0 && last != some p.offset

/-- as many rounds as can be, fewer if what follows fails -/
def manyGreedy (body : Matcher) : (rounds : Nat) → (left last : Option Nat) → Matcher
  | 0, _, _, p, next => next p
  | rounds + 1, left, last, p, next =>
    if mayRepeat left last p then
      match body p fun q => manyGreedy body rounds (left.map (· - 1)) (some p.offset) q next with
      | some found => some found
      | none => next p
    else next p

/-- as few rounds as can be, more if what follows fails -/
def manyLazy (body : Matcher) : (rounds : Nat) → (left last : Option Nat) → Matcher
  | 0, _, _, p, next => next p
  | rounds + 1, left, last, p, next =>
    match next p with
    | some found => some found
    | none =>
      if mayRepeat left last p then
        body p fun q => manyLazy body rounds (left.map (· - 1)) (some p.offset) q next
      else none

/-- as many rounds as can be, never fewer -/
def manyPossessive (body : Matcher) : (rounds : Nat) → (left last : Option Nat) → Position → Position
  | 0, _, _, p => p
  | rounds + 1, left, last, p =>
    if mayRepeat left last p then
      match body p some with
      | some q => manyPossessive body rounds (left.map (· - 1)) (some p.offset) q
      | none => p
    else p

/-- exactly `n` rounds, none of which is taken back -/
def timesPossessive (body : Matcher) : (n : Nat) → Position → Option Position
  | 0, p => some p
  | n + 1, p => do
    let p ← body p some
    timesPossessive body n p

/-- a repetition of `body` -/
def repeating (size : Nat) (greed : Greed) (least : Nat) (most : Option Nat) (body : Matcher) : Matcher := fun p next =>
  let left := most.map (· - least)
  match greed with
  | .greedy => times body least p fun p => manyGreedy body (size + 2) left none p next
  | .lazy => times body least p fun p => manyLazy body (size + 2) left none p next
  | .possessive => do
    let p ← timesPossessive body least p
    next (manyPossessive body (size + 2) left none p)

/-- the text of a group stands at the offset again -/
def sameText (text : Array Char) (rule : CaseRule) (first offset length : Nat) : Bool :=
  (List.range length).all fun i =>
    match codeAt? text (first + i), codeAt? text (offset + i) with
    | some a, some b => rule.small a == rule.small b
    | _, _ => false

/-- the matcher of an expression over a text -/
def Node.matcher (text : Array Char) : Node → Matcher
  | .empty => fun p next => next p
  | .one test => fun p next =>
    match codeAt? text p.offset with
    | some n => if test.holds n then next { p with offset := p.offset + 1 } else none
    | none => none
  | .anchor place => fun p next => if place.holds text p.offset then next p else none
  | .seq first second => fun p next => first.matcher text p fun p => second.matcher text p next
  | .alt first second => fun p next =>
    match first.matcher text p next with
    | some found => some found
    | none => second.matcher text p next
  | .repeated greed least most body => repeating text.size greed least most (body.matcher text)
  | .group index body => fun p next =>
    body.matcher text (p.mark (2 * index - 2)) fun p => next (p.mark (2 * index - 1))
  | .atomic body => fun p next =>
    match body.matcher text p some with
    | some p => next p
    | none => none
  | .lookAhead negated body => fun p next =>
    match body.matcher text p some, negated with
    | some q, false => next { q with offset := p.offset }
    | none, true => next p
    | _, _ => none
  | .lookBehind negated low _ body => fun p next =>
    let found := if p.offset < low then none else body.matcher text { p with offset := p.offset - low } some
    match found, negated with
    | some q, false => next { q with offset := p.offset }
    | none, true => next p
    | _, _ => none
  | .backReference index rule => fun p next =>
    match p.span? index with
    | some (first, last) =>
      if sameText text rule first p.offset (last - first) then next { p with offset := p.offset + (last - first) } else none
    | none => none
  | .conditional index yes no => fun p next =>
    if (p.span? index).isSome then yes.matcher text p next else no.matcher text p next

/-- The expression matches somewhere in the text. -/
def Node.occursIn (node : Node) (groups : Nat) (text : List Char) : Bool :=
  let chars := text.toArray
  (List.range (chars.size + 1)).any fun offset =>
    (node.matcher chars ⟨offset, Array.replicate (2 * groups) none⟩ some).isSome

end MenuBoard.Regex
