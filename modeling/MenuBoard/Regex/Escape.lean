import MenuBoard.Regex.Fault
import MenuBoard.Regex.Syntax

/-!
Reading a pattern token by token: a token is a character, or a backslash with the character it escapes. A backslash at the
very end escapes nothing, and is refused as soon as the token before it is taken. Here stand the state of a reading, its
small steps, and the escapes.
-/

namespace MenuBoard.Regex

open MenuBoard.Text

/-- a token and where it stands -/
structure Token where
  offset : Nat
  chars : List Char
  deriving DecidableEq, Repr

/-- the tokens of a pattern -/
def tokensFrom : (offset : Nat) → List Char → List Token
  | _, [] => []
  | offset, '\\' :: c :: rest => ⟨offset, ['\\', c]⟩ :: tokensFrom (offset + 2) rest
  | offset, c :: rest => ⟨offset, [c]⟩ :: tokensFrom (offset + 1) rest

/-- what an inline flag turns on -/
inductive Flag where
  | ignoreCase | multiline | dotAll | verbose | ascii | unicode | template | locale
  deriving DecidableEq, Repr

/-- the flags that are on -/
abbrev Flags := List Flag

/-- chooses the classes and case rules, so that only one of its kind can be on -/
def Flag.isType : Flag → Bool
  | .ascii | .unicode | .locale => true
  | _ => false

def flagOf? : List Char → Option Flag
  | ['i'] => some .ignoreCase
  | ['m'] => some .multiline
  | ['s'] => some .dotAll
  | ['x'] => some .verbose
  | ['a'] => some .ascii
  | ['u'] => some .unicode
  | ['t'] => some .template
  | ['L'] => some .locale
  | _ => none

/-- the flags inside a group that turns some on and some off -/
def Flags.within (outer on off : Flags) : Flags :=
  let kept := if on.any Flag.isType then outer.filter (!·.isType) else outer
  (kept ++ on).filter (!off.contains ·)

/-- how leaves compare characters under flags -/
def Flags.caseRule (flags : Flags) : CaseRule :=
  if !flags.contains .ignoreCase then .exact else if flags.contains .ascii then .ascii else .unicode

/-- least and greatest length of what an expression matches; lengths beyond `maxWidth` count as that -/
structure Width where
  low : Nat
  high : Nat
  deriving DecidableEq, Repr

def maxWidth : Nat := 18446744073709551616

def Width.capped (low high : Nat) : Width := ⟨min low maxWidth, min high maxWidth⟩

/-- the code points of the characters that have a name -/
abbrev CharNames := List Char → Option Nat

/-- what has been read of a pattern -/
structure Reading where
  charNames : CharNames
  tokens : List Token
  size : Nat
  flags : Flags
  names : List (List Char × Nat)
  widths : List (Option Width)
  behind : Option Nat
  references : List (Nat × Nat)

abbrev Parse (α : Type) := StateT Reading (Except CompileError) α

/-- the offset of the token that comes next -/
def Reading.offset (r : Reading) : Nat := (r.tokens.head?.map (·.offset)).getD r.size

/-- the number that the next group will not get: one more than the groups begun -/
def Reading.groups (r : Reading) : Nat := r.widths.length + 1

/-- the width of a group that is complete -/
def Reading.width? (r : Reading) (group : Nat) : Option Width := if group = 0 then none else (r.widths[group - 1]?).join

def failAt {α : Type} (problem : Problem) (offset : Nat) : Parse α := throw (.fault problem (some offset))

/-- a fault that begins `back` characters before the next token -/
def failBack {α : Type} (problem : Problem) (back : Nat) : Parse α := do failAt problem ((← get).offset - back)

def fail {α : Type} (problem : Problem) : Parse α := failBack problem 0

/-- a backslash at the end of the pattern -/
def isDangling : List Token → Bool
  | ⟨_, ['\\']⟩ :: _ => true
  | _ => false

/-- the next token -/
def peek : Parse (Option (List Char)) := do return (← get).tokens.head?.map (·.chars)

/-- takes a token -/
def advance : Parse Unit := do
  let r ← get
  let rest := r.tokens.drop 1
  if isDangling rest then failAt .badEscapeAtEnd (r.size - 1)
  set { r with tokens := rest }

/-- the next token, taken -/
def take : Parse (Option (List Char)) := do
  let token ← peek
  advance
  return token

/-- takes the next token if it is `c` -/
def accept (c : Char) : Parse Bool := do
  if (← peek) == some [c] then
    advance
    return true
  else return false

/-- takes at most `n` characters of a class -/
def takeUpTo (p : Char → Bool) : (n : Nat) → Parse (List Char)
  | 0 => return []
  | n + 1 => do
    match ← peek with
    | some [c] =>
      if p c then
        advance
        return c :: (← takeUpTo p n)
      else return []
    | _ => return []

/-- how many tokens are left; a bound for every loop over them -/
def remaining : Parse Nat := do return (← get).tokens.length

def isDigit (c : Char) : Bool := '0' ≤ c && c ≤ '9'
def isOctal (c : Char) : Bool := '0' ≤ c && c ≤ '7'
def isHex (c : Char) : Bool := isDigit c || ('a' ≤ c && c ≤ 'f') || ('A' ≤ c && c ≤ 'F')
def isAsciiLetter (c : Char) : Bool := c.isAlpha

/-- the value of a hexadecimal digit -/
def hexDigitValue (c : Char) : Nat :=
  if isDigit c then c.toNat - 0x30 else if 'a' ≤ c then c.toNat - 0x57 else c.toNat - 0x37

/-- the number that digits stand for in a base -/
def inBase (base : Nat) (digits : List Char) : Nat := digits.foldl (fun n c => base * n + hexDigitValue c) 0

/-- a name up to its terminator, which is taken too -/
def readNameFrom (terminator : Char) (what : String) : (rounds : Nat) → (done : List Char) → Parse (List Char)
  | 0, _ => fail (.missingName what)
  | rounds + 1, done => do
    match ← take with
    | none => if done.isEmpty then fail (.missingName what) else failBack (.unterminatedName terminator) done.length
    | some token =>
      if token == [terminator] then
        if done.isEmpty then failBack (.missingName what) 1 else return done
      else readNameFrom terminator what rounds (done ++ token)

def readName (terminator : Char) (what : String) : Parse (List Char) := do
  readNameFrom terminator what ((← remaining) + 1) []

/-- what an escape stands for -/
inductive Escaped where
  | code (n : Nat)
  | category (category : Category) (negated : Bool)
  | place (anchor : Anchor)
  | reference (group : Nat)

/-- a code point given by exactly `count` hexadecimal digits -/
def hexEscape (escape : List Char) (count : Nat) : Parse Escaped := do
  let digits ← takeUpTo isHex count
  let whole := escape ++ digits
  if digits.length < count then failBack (.incompleteEscape whole) whole.length
  else
    let n := inBase 16 digits
    if 0x10ffff < n then failBack (.badEscape whole) whole.length else return .code n

/-- a character by its name -/
def nameEscape : Parse Escaped := do
  if ← accept '\x7b' then
    let name ← readName '\x7d' "character name"
    match (← get).charNames name with
    | some n => return .code n
    | none => failBack (.unknownCharacterName name) (name.length + 4)
  else fail .missingOpeningBrace

/-- the controls that have an escape of one letter -/
def controlEscape? : Char → Option Nat
  | 'a' => some 0x07
  | 'f' => some 0x0c
  | 'n' => some 0x0a
  | 'r' => some 0x0d
  | 't' => some 0x09
  | 'v' => some 0x0b
  | '\\' => some 0x5c
  | _ => none

def categoryEscape? : Char → Option (Category × Bool)
  | 'd' => some (.digit, false)
  | 'D' => some (.digit, true)
  | 's' => some (.space, false)
  | 'S' => some (.space, true)
  | 'w' => some (.word, false)
  | 'W' => some (.word, true)
  | _ => none

def placeEscape? (ascii : Bool) : Char → Option Anchor
  | 'A' => some .textStart
  | 'Z' => some .textEnd
  | 'b' => some (.wordBoundary ascii false)
  | 'B' => some (.wordBoundary ascii true)
  | _ => none

/-- the escapes by number and by name, which mean the same inside a set and outside -/
def codeEscape? (c : Char) : Option (Parse Escaped) :=
  let escape := ['\\', c]
  match c with
  | 'x' => some (hexEscape escape 2)
  | 'u' => some (hexEscape escape 4)
  | 'U' => some (hexEscape escape 8)
  | 'N' => some nameEscape
  | _ => none

/-- an escape that nothing else claims: a letter is refused, any other character stands for itself -/
def plainEscape (c : Char) : Parse Escaped :=
  if isAsciiLetter c then failBack (.badEscape ['\\', c]) 2 else return .code c.toNat

/-- the escape `\c` inside a set -/
def setEscape (c : Char) : Parse Escaped := do
  match controlEscape? c, categoryEscape? c, codeEscape? c with
  | some n, _, _ => return .code n
  | _, some (category, negated), _ => return .category category negated
  | _, _, some read => read
  | none, none, none =>
    if c = 'b' then return .code 0x08
    else if isOctal c then
      let digits := c :: (← takeUpTo isOctal 2)
      let n := inBase 8 digits
      if 0xff < n then failBack (.octalOutOfRange ('\\' :: digits)) (digits.length + 1) else return .code n
    else if isDigit c then failBack (.badEscape ['\\', c]) 2
    else plainEscape c

/-- A group may be referred to only once it is complete, and from inside a look-behind only if it was before that began. -/
def checkBehind (group : Nat) : Parse Unit := do
  let r ← get
  match r.behind with
  | none => return
  | some limit =>
    if (r.width? group).isNone then fail .openGroup
    else if limit ≤ group then fail .sameLookBehind

/-- a reference to a group by number -/
def groupEscape (digits : List Char) : Parse Escaped := do
  let group := inBase 10 digits
  let r ← get
  if group < r.groups then
    if (r.width? group).isNone then failBack .openGroup (digits.length + 1)
    else
      checkBehind group
      return .reference group
  else failBack (.invalidReference group) digits.length

/-- The escape `\c` outside a set. Three octal digits are a code, other numbers refer to a group. -/
def bareEscape (ascii : Bool) (c : Char) : Parse Escaped := do
  match placeEscape? ascii c, categoryEscape? c, controlEscape? c, codeEscape? c with
  | some place, _, _, _ => return .place place
  | _, some (category, negated), _, _ => return .category category negated
  | _, _, some n, _ => return .code n
  | _, _, _, some read => read
  | none, none, none, none =>
    if c = '0' then
      return .code (inBase 8 (← takeUpTo isOctal 2))
    else if isDigit c then
      match ← takeUpTo isDigit 1 with
      | [] => groupEscape [c]
      | second =>
        if isOctal c && second.all isOctal then
          match ← takeUpTo isOctal 1 with
          | [] => groupEscape (c :: second)
          | third =>
            let digits := c :: second ++ third
            let n := inBase 8 digits
            if 0xff < n then failBack (.octalOutOfRange ('\\' :: digits)) (digits.length + 1) else return .code n
        else groupEscape (c :: second)
    else plainEscape c

end MenuBoard.Regex
