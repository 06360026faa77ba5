import MenuBoard.Board.Basic
import MenuBoard.Board.Lookup
import MenuBoard.Board.Service
import MenuBoard.Calendar.DateChoice
import MenuBoard.Calendar.Day
import MenuBoard.Canteen
import MenuBoard.Classifier
import MenuBoard.Decimal.Shortest
import MenuBoard.Decimal.Text
import MenuBoard.Diet
import MenuBoard.Feed.Basic
import MenuBoard.Feed.Fetch
import MenuBoard.Feed.Record
import MenuBoard.Form.Check
import MenuBoard.Form.Date
import MenuBoard.Form.Number
import MenuBoard.Form.Request
import MenuBoard.Json.Basic
import MenuBoard.Json.Printer
import MenuBoard.Json.Reader
import MenuBoard.Meal
import MenuBoard.MealCache.Basic
import MenuBoard.MealCache.Run
import MenuBoard.Notice
import MenuBoard.Numeral
import MenuBoard.Phrase.Clause
import MenuBoard.Phrase.Keyword
import MenuBoard.Phrase.Vocabulary
import MenuBoard.Phrase.Words
import MenuBoard.Proofs.Board.Address
import MenuBoard.Proofs.Board.Diet
import MenuBoard.Proofs.Board.Everywhere
import MenuBoard.Proofs.Board.Exclusion
import MenuBoard.Proofs.Board.Hidden
import MenuBoard.Proofs.Board.Overrides
import MenuBoard.Proofs.Board.Rejection
import MenuBoard.Proofs.Board.Target
import MenuBoard.Proofs.Board.Transparency
import MenuBoard.Proofs.Board.Within
import MenuBoard.Proofs.Calendar.Gregorian
import MenuBoard.Proofs.Calendar.Text
import MenuBoard.Proofs.Except
import MenuBoard.Proofs.Feed.Record
import MenuBoard.Proofs.Json.Fields
import MenuBoard.Proofs.Json.Numeral
import MenuBoard.Proofs.MealCache.Blocks
import MenuBoard.Proofs.MealCache.Failure
import MenuBoard.Proofs.MealCache.Memo
import MenuBoard.Proofs.MealCache.Origin
import MenuBoard.Proofs.MealCache.Repeat
import MenuBoard.Proofs.MealCache.Separation
import MenuBoard.Proofs.Numeral
import MenuBoard.Proofs.Phrase.Alike
import MenuBoard.Proofs.Phrase.Capitals
import MenuBoard.Proofs.Phrase.ClauseWords
import MenuBoard.Proofs.Phrase.CompletePart
import MenuBoard.Proofs.Phrase.Concatenation
import MenuBoard.Proofs.Phrase.FirstWord
import MenuBoard.Proofs.Phrase.Grammar
import MenuBoard.Proofs.Phrase.NormalForm
import MenuBoard.Proofs.Phrase.Reach
import MenuBoard.Proofs.Phrase.Readings
import MenuBoard.Proofs.Phrase.Recognition
import MenuBoard.Proofs.Phrase.Spelling
import MenuBoard.Proofs.Phrase.Stuck
import MenuBoard.Proofs.Phrase.Tiling
import MenuBoard.Proofs.Phrase.Tokenize
import MenuBoard.Proofs.Query.Day
import MenuBoard.Proofs.Query.Merge
import MenuBoard.Proofs.Query.Order
import MenuBoard.Proofs.Query.Repeats
import MenuBoard.Proofs.Rule.FirstFault
import MenuBoard.Proofs.Rule.Joining
import MenuBoard.Proofs.Settings.Cut
import MenuBoard.Proofs.Settings.Failure
import MenuBoard.Proofs.Settings.FeedIds
import MenuBoard.Proofs.Settings.Join
import MenuBoard.Proofs.Settings.Precedence
import MenuBoard.Proofs.Settings.RegexList
import MenuBoard.Proofs.Settings.Variables
import MenuBoard.Proofs.Settings.WellFormed
import MenuBoard.Proofs.Tag.Find
import MenuBoard.Proofs.Tag.Note
import MenuBoard.Proofs.Tag.Split
import MenuBoard.Proofs.Text.Capitals
import MenuBoard.Proofs.Text.CaseVariants
import MenuBoard.Proofs.Text.WordChar
import MenuBoard.Proofs.Web.Pattern
import MenuBoard.Proofs.Web.Phrase
import MenuBoard.Proofs.Web.Rejection
import MenuBoard.Query
import MenuBoard.Regex.Escape
import MenuBoard.Regex.Fault
import MenuBoard.Regex.Matcher
import MenuBoard.Regex.Parser
import MenuBoard.Regex.Syntax
import MenuBoard.Rule.Lists
import MenuBoard.Rule.Pattern
import MenuBoard.Rule.RuleSet
import MenuBoard.Settings.Basic
import MenuBoard.Settings.Environment
import MenuBoard.Settings.File
import MenuBoard.Settings.Value
import MenuBoard.Source
import MenuBoard.Tag.Basic
import MenuBoard.Tag.Lookup
import MenuBoard.Tag.Note
import MenuBoard.Text.Blank
import MenuBoard.Text.Case
import MenuBoard.Text.CaseTable
import MenuBoard.Text.Digit
import MenuBoard.Text.Identifier
import MenuBoard.Text.Lines
import MenuBoard.Text.Printable
import MenuBoard.Text.Quoted
import MenuBoard.Text.Ranges
import MenuBoard.Text.Utf8
import MenuBoard.Text.WordChar
import MenuBoard.Threshold
import MenuBoard.View
import MenuBoard.Web.Answer
import MenuBoard.Web.Route
import MenuBoard.Web.Server
