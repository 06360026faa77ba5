import MenuBoard.Numeral
import MenuBoard.Text.Lines
import MenuBoard.Text.Quoted

/-!
What can be wrong with a regular expression, and the wording: the problem, and for most the offset in the pattern, with
line and column if the pattern has several lines. A repeat count beyond all bounds, a numeral too long to read, and a choice
of both ASCII and Unicode for one pattern are no faults of a place in it.
-/

namespace MenuBoard.Regex

open MenuBoard.Text

inductive Problem where
  | badEscapeAtEnd
  | badEscape (escape : List Char)
  | incompleteEscape (escape : List Char)
  | octalOutOfRange (escape : List Char)
  | missingOpeningBrace
  | missingName (what : String)
  | unterminatedName (terminator : Char)
  | unknownCharacterName (name : List Char)
  | openGroup
  | sameLookBehind
  | invalidReference (group : Nat)
  | unterminatedSet
  | badRange (low high : List Char)
  | nothingToRepeat
  | multipleRepeat
  | leastOverMost
  | unexpectedEnd
  | badGroupName (name : List Char)
  | unknownGroupName (name : List Char)
  | redefinedGroupName (name : List Char) (group earlier : Nat)
  | unknownExtension (text : List Char)
  | unterminatedComment
  | unterminatedGroup
  | badGroupNumber
  | moreThanTwoBranches
  | lateGlobalFlags
  | localeFlag
  | incompatibleFlags
  | missingFlagEnd
  | unknownFlag
  | missingFlag
  | missingColon
  | typeFlagOff
  | globalFlagOn
  | globalFlagOff
  | flagOnAndOff
  | unbalancedParenthesis
  | tooFarBehind
  | variableWidth
  | templateRepeat (operator : String)
  deriving DecidableEq, Repr

def Problem.message : Problem → String
  | .badEscapeAtEnd => "bad escape (end of pattern)"
  | .badEscape escape => "bad escape " ++ String.ofList escape
  | .incompleteEscape escape => "incomplete escape " ++ String.ofList escape
  | .octalOutOfRange escape => "octal escape value " ++ String.ofList escape ++ " outside of range 0-0o377"
  | .missingOpeningBrace => "missing \x7b"
  | .missingName what => "missing " ++ what
  | .unterminatedName terminator => "missing " ++ terminator.toString ++ ", unterminated name"
  | .unknownCharacterName name => "undefined character name " ++ quoted (String.ofList name)
  | .openGroup => "cannot refer to an open group"
  | .sameLookBehind => "cannot refer to group defined in the same lookbehind subpattern"
  | .invalidReference group => s!"invalid group reference {group}"
  | .unterminatedSet => "unterminated character set"
  | .badRange low high => "bad character range " ++ String.ofList low ++ "-" ++ String.ofList high
  | .nothingToRepeat => "nothing to repeat"
  | .multipleRepeat => "multiple repeat"
  | .leastOverMost => "min repeat greater than max repeat"
  | .unexpectedEnd => "unexpected end of pattern"
  | .badGroupName name => "bad character in group name " ++ quoted (String.ofList name)
  | .unknownGroupName name => "unknown group name " ++ quoted (String.ofList name)
  | .redefinedGroupName name group earlier =>
    s!"redefinition of group name {quoted (String.ofList name)} as group {group}; was group {earlier}"
  | .unknownExtension text => "unknown extension ?" ++ String.ofList text
  | .unterminatedComment => "missing ), unterminated comment"
  | .unterminatedGroup => "missing ), unterminated subpattern"
  | .badGroupNumber => "bad group number"
  | .moreThanTwoBranches => "conditional backref with more than two branches"
  | .lateGlobalFlags => "global flags not at the start of the expression"
  | .localeFlag => "bad inline flags: cannot use 'L' flag with a str pattern"
  | .incompatibleFlags => "bad inline flags: flags 'a', 'u' and 'L' are incompatible"
  | .missingFlagEnd => "missing -, : or )"
  | .unknownFlag => "unknown flag"
  | .missingFlag => "missing flag"
  | .missingColon => "missing :"
  | .typeFlagOff => "bad inline flags: cannot turn off flags 'a', 'u' and 'L'"
  | .globalFlagOn => "bad inline flags: cannot turn on global flag"
  | .globalFlagOff => "bad inline flags: cannot turn off global flag"
  | .flagOnAndOff => "bad inline flags: flag turned on and off"
  | .unbalancedParenthesis => "unbalanced parenthesis"
  | .tooFarBehind => "looks too much behind"
  | .variableWidth => "look-behind requires fixed-width pattern"
  | .templateRepeat operator => "internal: unsupported template operator " ++ operator

/-- why a text is no regular expression -/
inductive CompileError where
  | fault (problem : Problem) (offset : Option Nat)
  | repeatTooLarge
  | numeral (digits : Nat)
  | asciiAndUnicode
  deriving DecidableEq, Repr

def CompileError.message (pattern : List Char) : CompileError → String
  | .fault problem none => problem.message
  | .fault problem (some offset) =>
    let base := s!"{problem.message} at position {offset}"
    if pattern.contains '\n' then
      let (line, column) := lineAndColumn pattern offset
      s!"{base} (line {line}, column {column})"
    else base
  | .repeatTooLarge => "the repetition number is too large"
  | .numeral digits => (NumeralError.tooLong digits).message
  | .asciiAndUnicode => "ASCII and UNICODE flags are incompatible"

end MenuBoard.Regex
