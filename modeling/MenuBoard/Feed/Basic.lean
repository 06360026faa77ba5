import MenuBoard.Calendar.Day
import MenuBoard.Form.Check
import MenuBoard.Json.Reader

/-!
The feed of meals: where it is asked, what it replies, and what can go wrong with a reply. A session is what every address
replies at the moment.
-/

namespace MenuBoard.Feed

open MenuBoard.Calendar

/-- how a call breaks off without a response -/
inductive LinkFault where
  | connection
  | deadline
  | timeout
  | badValue
  deriving DecidableEq, Repr

structure Response where
  status : Int := 200
  reason : Option String := none
  body : String := ""
  deriving DecidableEq, Repr

inductive Reply where
  | response (r : Response)
  | broken (fault : LinkFault) (message : String)
  deriving DecidableEq, Repr

/-- the reply of each address -/
abbrev Session := String → Reply

/-- the address of a canteen's meals on a day, both as texts -/
def addressOf (canteen day : String) : String :=
  s!"https://openmensa.org/api/v2/canteens/{canteen}/days/{day}/meals"

def address (canteen : Whole) (day : Day) : String := addressOf canteen.text day.text

/-- Why a reply gives no meals: there was no response, its status says so, its body is no JSON, or what the body holds is
not of the shape of meals. -/
inductive FeedError where
  | broken (fault : LinkFault) (message : String)
  | refused (status : Int) (reason : Option String) (address : String)
  | unreadable (kind : Json.FaultKind) (offset : Nat) (body : String)
  | numeral (digits : Nat)
  | noFields (kind : Json.Kind)
  | noItems (kind : Json.Kind)
  | noText (kind : Json.Kind)
  | invalid (error : Form.Invalid)
  deriving DecidableEq, Repr

def FeedError.message : FeedError → String
  | .broken _ message => message
  | .refused status reason address =>
    let side := if status < 500 then "Client" else "Server"
    let words := reason.getD "None"
    s!"{status} {side} Error: {words} for url: {address}"
  | .unreadable kind offset body => (Json.ReadError.syntaxFault kind offset).message body.toList
  | .numeral digits => (NumeralError.tooLong digits).message
  | .noFields kind => s!"'{kind.word}' object has no attribute 'get'"
  | .noItems kind => s!"'{kind.word}' object is not iterable"
  | .noText kind => s!"expected string or bytes-like object, got '{kind.word}'"
  | .invalid error => error.message

end MenuBoard.Feed
