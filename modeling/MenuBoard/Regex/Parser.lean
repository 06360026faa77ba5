import MenuBoard.Regex.Escape
import MenuBoard.Regex.Matcher
import MenuBoard.Text.Identifier

/-!
Reading regular expressions. `compile` gives the expression or the first thing wrong with it: faults of the text come first,
in the order they stand, then references to groups that do not exist, then what a complete expression may not contain.

Which characters have a name is for a table to say that is given (`compileWith`). `compile` is given an empty one and refuses
patterns that name a character, so rules are made with whatever compiler is at hand.

Every round of a loop and every step into a group takes a token, so twice their number is fuel enough.
-/

namespace MenuBoard.Regex

open MenuBoard.Text

/-- what a piece of a pattern is to a quantifier behind it -/
inductive Role where
  | plain | place | repetition
  deriving DecidableEq, Repr

/-- a piece of a pattern -/
structure Item where
  node : Node
  width : Width
  role : Role := .plain

def Item.code (flags : Flags) (n : Nat) : Item := ⟨.one (.literal n false flags.caseRule), ⟨1, 1⟩, .plain⟩

def Item.char (flags : Flags) (c : Char) : Item := Item.code flags c.toNat

/-- pieces in a row -/
def Item.row (items : List Item) : Item :=
  { node := items.foldr (fun i rest => match rest with
      | .empty => i.node
      | rest => .seq i.node rest) .empty
    width := items.foldl (fun w i => Width.capped (w.low + i.width.low) (w.high + i.width.high)) ⟨0, 0⟩ }

/-- one of several pieces; there is at least one -/
def Item.oneOf (first : Item) : List Item → Item
  | [] => first
  | second :: others =>
    let rest := Item.oneOf second others
    { node := .alt first.node rest.node
      width := ⟨min first.width.low rest.width.low, max first.width.high rest.width.high⟩ }

/-- a piece that takes no room -/
def Item.zeroWidth (node : Node) : Item := ⟨node, ⟨0, 0⟩, .plain⟩

/-- what an escape outside a set matches -/
def Item.ofEscaped (flags : Flags) (widths : Nat → Option Width) : Escaped → Item
  | .code n => .code flags n
  | .category category negated =>
    ⟨.one (.set [.category category negated] false flags.caseRule (flags.contains .ascii)), ⟨1, 1⟩, .plain⟩
  | .place anchor => ⟨.anchor anchor, ⟨0, 0⟩, .place⟩
  | .reference group => ⟨.backReference group flags.caseRule, (widths group).getD ⟨0, 0⟩, .plain⟩

/-- a repeat count from here on is no count -/
def countLimit : Nat := 4294967295

/-- a repeat count -/
def readCount (digits : List Char) : Parse (Option Nat) :=
  if digits.isEmpty then return none
  else if maxNumeralDigits < digits.length then throw (.numeral digits.length)
  else
    let n := inBase 10 digits
    if countLimit ≤ n then throw .repeatTooLarge else return some n

/-- how often `*`, `+`, `?` repeat -/
def shortCounts? : Char → Option (Nat × Option Nat)
  | '?' => some (0, some 1)
  | '*' => some (0, none)
  | '+' => some (1, none)
  | _ => none

/-- The counts in braces whose opening one is taken; nothing, and nothing taken, if the braces hold no counts. -/
def braceCounts? : Parse (Option (Nat × Option Nat)) := do
  let start ← get
  if (← peek) == some ['\x7d'] then return none
  let bound := start.tokens.length
  let low ← takeUpTo isDigit bound
  let high ← if ← accept ',' then takeUpTo isDigit bound else pure low
  if ← accept '\x7d' then
    let least ← readCount low
    let most ← readCount high
    if most.any (· < least.getD 0) then failAt .leastOverMost start.offset
    else return some (least.getD 0, most)
  else
    set start
    return none

/-- the mark behind a quantifier that says how greedy it is; one mark at most -/
def readGreed : Parse Greed := do
  if ← accept '?' then return .lazy
  if ← accept '+' then return .possessive
  return .greedy

/-- the quantifier with the given counts, put on the last piece; it began at `start` -/
def quantify (start least : Nat) (most : Option Nat) (done : List Item) : Parse (List Item) := do
  match done with
  | [] => failAt .nothingToRepeat start
  | last :: others =>
    match last.role with
    | .place => failAt .nothingToRepeat start
    | .repetition => failAt .multipleRepeat start
    | .plain =>
      let greed ← readGreed
      let high := match most with
        | some most => last.width.high * most
        | none => if last.width.high = 0 then 0 else maxWidth
      return ⟨.repeated greed least most last.node, Width.capped (last.width.low * least) high, .repetition⟩ :: others

/-- the rest of a comment that a line end closes -/
def skipLine : (rounds : Nat) → Parse Unit
  | 0 => return
  | rounds + 1 => do
    match ← take with
    | none => return
    | some token => if token == ['\n'] then return else skipLine rounds

/-- the rest of a comment in a group that began at `start` -/
def skipComment (start : Nat) : (rounds : Nat) → Parse Unit
  | 0 => failAt .unterminatedComment start
  | rounds + 1 => do
    match ← peek with
    | none => failAt .unterminatedComment start
    | some token =>
      advance
      if token == [')'] then return else skipComment start rounds

/-- one end of a range, or a member of a set -/
def setMember (token : List Char) : Parse SetItem := do
  match token with
  | '\\' :: c :: _ =>
    match ← setEscape c with
    | .code n => return .one n
    | .category category negated => return .category category negated
    | _ => fail (.badEscape token)
  | c :: _ => return .one c.toNat
  | [] => fail .unterminatedSet

/-- the members of a set that began at `start`, up to its closing bracket; a bracket that stands first is a member -/
def setMembers (start : Nat) : (rounds : Nat) → (done : List SetItem) → Parse (List SetItem)
  | 0, _ => failAt .unterminatedSet start
  | rounds + 1, done => do
    match ← take with
    | none => failAt .unterminatedSet start
    | some this =>
      if this == [']'] && !done.isEmpty then return done
      let low ← setMember this
      if ← accept '-' then
        match ← take with
        | none => failAt .unterminatedSet start
        | some that =>
          if that == [']'] then return done ++ [low, .one '-'.toNat]
          let high ← setMember that
          match low, high with
          | .one a, .one b =>
            if b < a then failBack (.badRange this that) (this.length + 1 + that.length)
            else setMembers start rounds (done ++ [.range a b])
          | _, _ => failBack (.badRange this that) (this.length + 1 + that.length)
      else setMembers start rounds (done ++ [low])

/-- a set whose opening bracket is taken -/
def readSet (flags : Flags) : Parse Item := do
  let start := (← get).offset - 1
  let negated ← accept '^'
  let members := (← setMembers start ((← remaining) + 1) []).eraseDups
  let test := match members with
    | [.one n] => CharTest.literal n negated flags.caseRule
    | members => .set members negated flags.caseRule (flags.contains .ascii)
  return ⟨.one test, ⟨1, 1⟩, .plain⟩

/-- a token that no flag goes by: unknown if it is a letter -/
def badFlag {α : Type} (token : List Char) (otherwise : Problem) : Parse α :=
  failBack (if token.length = 1 && token.all isLetter then .unknownFlag else otherwise) token.length

/-- flags that are turned on, and the token that ends them -/
def flagsOn : (rounds : Nat) → (token : List Char) → (on : Flags) → Parse (Flags × List Char)
  | 0, token, on => return (on, token)
  | rounds + 1, token, on => do
    match flagOf? token with
    | none => badFlag token .missingFlagEnd
    | some .locale => fail .localeFlag
    | some flag =>
      let on := on ++ [flag]
      if flag.isType && on.any fun other => other.isType && other != flag then fail .incompatibleFlags
      match ← take with
      | none => fail .missingFlagEnd
      | some next =>
        if next == [')'] || next == ['-'] || next == [':'] then return (on, next) else flagsOn rounds next on

/-- flags that are turned off, up to the colon that ends them -/
def flagsOff : (rounds : Nat) → (token : List Char) → (problem : Problem) → (off : Flags) → Parse Flags
  | 0, _, _, off => return off
  | rounds + 1, token, problem, off => do
    match flagOf? token with
    | none => badFlag token problem
    | some flag =>
      if flag.isType then fail .typeFlagOff
      let off := off ++ [flag]
      match ← take with
      | none => fail .missingColon
      | some next => if next == [':'] then return off else flagsOff rounds next .missingColon off

/-- Flags whose first token is taken: those on and off in the group that follows, or nothing if they hold for the whole
pattern. -/
def readFlags (token : List Char) : Parse (Option (Flags × Flags)) := do
  let rounds := (← remaining) + 1
  let (on, stop) ← if token == ['-'] then pure ([], ['-']) else flagsOn rounds token []
  if stop == [')'] then
    modify fun r => { r with flags := r.flags ++ on }
    return none
  if on.contains .template then failBack .globalFlagOn 1
  let off ←
    if stop == ['-'] then
      match ← take with
      | none => fail .missingFlag
      | some first => flagsOff rounds first .missingFlag []
    else pure []
  if off.contains .template then failBack .globalFlagOff 1
  if on.any off.contains then failBack .flagOnAndOff 1
  return some (on, off)

/-- the greatest number that can be meant by a group -/
def groupLimit : Nat := 1073741823

/-- the group that a condition names -/
def readCondition : Parse Nat := do
  let name ← readName ')' "group name"
  let back := name.length + 1
  if isIdentifier name then
    match (← get).names.lookup name with
    | none => failBack (.unknownGroupName name) back
    | some group => return group
  else
    match readInt name with
    | .error _ => failBack (.badGroupName name) back
    | .ok n =>
      if n < 0 then failBack (.badGroupName name) back
      else if n = 0 then failBack .badGroupNumber back
      else
        let group := n.toNat
        if groupLimit ≤ group then failBack (.invalidReference group) back
        modify fun r =>
          if r.references.any (·.1 == group) then r
          else { r with references := r.references ++ [(group, r.offset - back)] }
        return group

/-- the name between angle brackets of a group -/
def readGroupName (terminator : Char) : Parse (List Char) := do
  let name ← readName terminator "group name"
  if isIdentifier name then return name else failBack (.badGroupName name) (name.length + 1)

/-- a reference to a group by name -/
def readNamedReference (flags : Flags) : Parse Item := do
  let name ← readGroupName ')'
  let back := name.length + 1
  let r ← get
  match r.names.lookup name with
  | none => failBack (.unknownGroupName name) back
  | some group =>
    if (r.width? group).isNone then failBack .openGroup back
    checkBehind group
    return Item.ofEscaped flags r.width? (.reference group)

/-- begins a group that captures; its number -/
def beginGroup (name : Option (List Char)) : Parse Nat := do
  let r ← get
  let group := r.groups
  set { r with widths := r.widths ++ [none] }
  match name with
  | none => return group
  | some name =>
    match r.names.lookup name with
    | some earlier => failBack (.redefinedGroupName name group earlier) (name.length + 1)
    | none =>
      modify fun r => { r with names := r.names ++ [(name, group)] }
      return group

/-- a group is complete -/
def endGroup (group : Nat) (width : Width) : Parse Unit :=
  modify fun r => { r with widths := r.widths.set (group - 1) (some width) }

/-- the closing parenthesis of a group that began at `start` -/
def closeGroup (start : Nat) : Parse Unit := do
  if !(← accept ')') then failAt .unterminatedGroup start

/-- what stands between a group's opening parenthesis and its contents -/
inductive Opening where
  | capture (name : Option (List Char))
  | plain
  | atomic
  | scoped (on off : Flags)
  | look (behind negated : Bool)
  | condition (group : Nat)
  | reference (item : Item)
  | nothing

/-- the word after `(?P` -/
def readExtension (flags : Flags) : Parse Opening := do
  if ← accept '<' then return .capture (some (← readGroupName '>'))
  else if ← accept '=' then return .reference (← readNamedReference flags)
  else
    match ← take with
    | none => fail .unexpectedEnd
    | some token => failBack (.unknownExtension ('P' :: token)) (token.length + 2)

/-- What an opening parenthesis at `start` begins. Flags for the whole pattern must stand before everything else. -/
def readOpening (flags : Flags) (start : Nat) (atStart : Bool) : Parse Opening := do
  if !(← accept '?') then return .capture none
  match ← take with
  | none => fail .unexpectedEnd
  | some ['P'] => readExtension flags
  | some [':'] => return .plain
  | some ['>'] => return .atomic
  | some ['='] => return .look false false
  | some ['!'] => return .look false true
  | some ['#'] =>
    skipComment start ((← remaining) + 1)
    return .nothing
  | some ['<'] =>
    match ← take with
    | none => fail .unexpectedEnd
    | some ['='] => return .look true false
    | some ['!'] => return .look true true
    | some token => failBack (.unknownExtension ('<' :: token)) (token.length + 2)
  | some ['('] =>
    let group ← readCondition
    checkBehind group
    return .condition group
  | some token =>
    if (flagOf? token).isSome || token == ['-'] then
      match ← readFlags token with
      | some (on, off) => return .scoped on off
      | none => if atStart then return .nothing else failAt .lateGlobalFlags start
    else failBack (.unknownExtension token) (token.length + 1)

/-- blank in a verbose pattern -/
def isPatternBlank (token : List Char) : Bool :=
  match token with
  | [c] => c == ' ' || (0x09 ≤ c.toNat && c.toNat ≤ 0x0d)
  | _ => false

/-- a piece that is one token alone -/
def simpleItem? (flags : Flags) : Char → Option Item
  | '.' => some ⟨.one (if flags.contains .dotAll then .any else .notNewline), ⟨1, 1⟩, .plain⟩
  | '^' => some ⟨.anchor (if flags.contains .multiline then .lineStart else .textStart), ⟨0, 0⟩, .place⟩
  | '$' => some ⟨.anchor (if flags.contains .multiline then .lineEnd else .lastLineEnd), ⟨0, 0⟩, .place⟩
  | _ => none

mutual

/-- Pieces up to a bar, a closing parenthesis or the end. `scope` holds the flags of the surrounding group if it has its
own; `first` says that nothing but these pieces stands before the place. -/
def sequence : (fuel : Nat) → (scope : Option Flags) → (first : Bool) → (done : List Item) → Parse (List Item)
  | 0, _, _, done => return done.reverse
  | fuel + 1, scope, first, done => do
    match ← peek with
    | none => return done.reverse
    | some token =>
      if token == ['|'] || token == [')'] then return done.reverse
      advance
      let flags := scope.getD (← get).flags
      if flags.contains .verbose && isPatternBlank token then sequence fuel scope first done
      else if flags.contains .verbose && token == ['#'] then
        skipLine ((← remaining) + 1)
        sequence fuel scope first done
      else
        match token with
        | '\\' :: c :: _ =>
          let escaped ← bareEscape (flags.contains .ascii) c
          let item := Item.ofEscaped flags (← get).width? escaped
          sequence fuel scope first (item :: done)
        | ['['] =>
          let item ← readSet flags
          sequence fuel scope first (item :: done)
        | ['\x7b'] =>
          let start := (← get).offset - 1
          match ← braceCounts? with
          | none => sequence fuel scope first (.char flags '\x7b' :: done)
          | some (least, most) => sequence fuel scope first (← quantify start least most done)
        | ['('] =>
          let start := (← get).offset - 1
          match ← readOpening flags start (first && done.isEmpty) with
          | .nothing => sequence fuel scope first done
          | .reference item => sequence fuel scope first (item :: done)
          | opening =>
            let item ← groupItem fuel scope flags start opening
            sequence fuel scope first (item :: done)
        | [c] =>
          match shortCounts? c with
          | some (least, most) =>
            let start := (← get).offset - 1
            sequence fuel scope first (← quantify start least most done)
          | none => sequence fuel scope first ((simpleItem? flags c).getD (.char flags c) :: done)
        | _ => sequence fuel scope first done

/-- the contents of a group that began at `start`, and its closing parenthesis -/
def groupItem : (fuel : Nat) → (scope : Option Flags) → (flags : Flags) → (start : Nat) → Opening → Parse Item
  | 0, _, _, start, _ => failAt .unterminatedGroup start
  | fuel + 1, scope, flags, start, opening => do
    match opening with
    | .capture name =>
      let group ← beginGroup name
      let body ← alternatives fuel scope false
      closeGroup start
      endGroup group body.width
      return ⟨.group group body.node, body.width, .plain⟩
    | .atomic =>
      let body ← alternatives fuel scope false
      closeGroup start
      return ⟨.atomic body.node, body.width, .plain⟩
    | .scoped on off =>
      let body ← alternatives fuel (some (flags.within on off)) false
      closeGroup start
      return ⟨body.node, body.width, .plain⟩
    | .look false negated =>
      let body ← alternatives fuel scope false
      closeGroup start
      return .zeroWidth (.lookAhead negated body.node)
    | .look true negated =>
      let outer := (← get).behind
      if outer.isNone then modify fun r => { r with behind := some r.groups }
      let body ← alternatives fuel scope false
      modify fun r => { r with behind := outer }
      closeGroup start
      return .zeroWidth (.lookBehind negated body.width.low body.width.high body.node)
    | .condition group =>
      let yes := Item.row (← sequence fuel scope false [])
      if ← accept '|' then
        let no := Item.row (← sequence fuel scope false [])
        if (← peek) == some ['|'] then fail .moreThanTwoBranches
        closeGroup start
        return ⟨.conditional group yes.node no.node,
          ⟨min yes.width.low no.width.low, max yes.width.high no.width.high⟩, .plain⟩
      else
        closeGroup start
        return ⟨.conditional group yes.node .empty, ⟨0, yes.width.high⟩, .plain⟩
    | _ =>
      let body ← alternatives fuel scope false
      closeGroup start
      return ⟨body.node, body.width, .plain⟩

/-- pieces between bars -/
def alternatives : (fuel : Nat) → (scope : Option Flags) → (first : Bool) → Parse Item
  | 0, _, _ => return Item.row []
  | fuel + 1, scope, first => do
    let item := Item.row (← sequence fuel scope first [])
    let others ← moreAlternatives fuel scope
    return Item.oneOf item others

/-- the pieces after each further bar -/
def moreAlternatives : (fuel : Nat) → (scope : Option Flags) → Parse (List Item)
  | 0, _ => return []
  | fuel + 1, scope => do
    if ← accept '|' then
      let item := Item.row (← sequence fuel scope false [])
      let others ← moreAlternatives fuel scope
      return item :: others
    else return []

end

/-- a whole pattern -/
def parsePattern (fuel : Nat) : Parse Node := do
  let r ← get
  if isDangling r.tokens then failAt .badEscapeAtEnd (r.size - 1)
  let item ← alternatives fuel none true
  let r ← get
  if r.flags.contains .ascii && r.flags.contains .unicode then throw .asciiAndUnicode
  if !r.tokens.isEmpty then fail .unbalancedParenthesis
  match r.references.find? fun (group, _) => r.groups ≤ group with
  | some (group, offset) => failAt (.invalidReference group) offset
  | none => return item.node

/-- the widest look-behind -/
def behindLimit : Nat := 4294967295

/-- what a repetition goes by in the fault of a template -/
def Greed.operator : Greed → String
  | .greedy => "MAX_REPEAT"
  | .lazy => "MIN_REPEAT"
  | .possessive => "POSSESSIVE_REPEAT"

/-- The first thing a complete expression may not contain: a look-behind without a fixed width, and in a template any
repetition. -/
def Node.problem? (template : Bool) : Node → Option Problem
  | .seq first second | .alt first second | .conditional _ first second =>
    (first.problem? template).or (second.problem? template)
  | .repeated greed _ _ body => if template then some (.templateRepeat greed.operator) else body.problem? template
  | .group _ body | .atomic body | .lookAhead _ body => body.problem? template
  | .lookBehind _ low high body =>
    if behindLimit < low then some .tooFarBehind
    else if low ≠ high then some .variableWidth
    else body.problem? template
  | _ => none

end MenuBoard.Regex

namespace MenuBoard

open MenuBoard.Regex

/-- a compiled regular expression and the text it was given as -/
structure Regex where
  source : String
  node : Node
  groups : Nat

namespace Regex

/-- Compiles a pattern, in which characters go by these names. -/
def compileWith (charNames : CharNames) (source : String) : Except CompileError Regex := do
  let pattern := source.toList
  let tokens := tokensFrom 0 pattern
  let start : Reading :=
    { charNames, tokens, size := pattern.length, flags := [], names := [], widths := [], behind := none, references := [] }
  let (node, r) ← (parsePattern (2 * tokens.length + 4)).run start
  match node.problem? (r.flags.contains .template) with
  | some problem => .error (.fault problem none)
  | none => .ok { source := source, node := node, groups := r.widths.length }

/-- Compiles a pattern, in which no character goes by a name. -/
def compile : (source : String) → Except CompileError Regex := compileWith fun _ => none

/-- The expression matches somewhere in the text. -/
def occursIn (regex : Regex) (text : String) : Bool := regex.node.occursIn regex.groups text.toList

end Regex

end MenuBoard
