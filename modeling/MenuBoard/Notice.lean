import MenuBoard.Calendar.Day
import MenuBoard.Json.Basic
import MenuBoard.Numeral

/-!
Notices: what the library reports while it works, each with a level and a wording. Elapsed times are not measured.
-/

namespace MenuBoard

inductive Level where
  | info | warning | error
  deriving DecidableEq, Repr

def Level.name : Level → String
  | .info => "INFO"
  | .warning => "WARNING"
  | .error => "ERROR"

inductive Notice where
  | repeatedLocation (name : String) (position : Nat)
  | repeatedDate (position : Nat)
  | settingsMissing (path : String)
  | settingsMalformed (path reason : String)
  | invalidDefaultCanteen (value : Json)
  | invalidFeedId (canteen : String) (target : Json)
  | lookingUp (canteens : Nat) (day : Calendar.Day)
  | noFeedId (canteen : String)
  | feedAnswered (canteen : Whole) (day : Calendar.Day) (status : Int)
  | sourceFailed (source reason : String)
  | lookupDone
  deriving Repr

namespace Notice

def level : Notice → Level
  | .settingsMalformed _ _ | .invalidDefaultCanteen _ | .invalidFeedId _ _ | .noFeedId _ => .warning
  | .sourceFailed _ _ => .error
  | _ => .info

def message : Notice → String
  | .repeatedLocation name position => s!"Ignoring repeated location {Text.quoted name} at position {position}"
  | .repeatedDate position => s!"Ignoring repeated date clause at position {position}"
  | .settingsMissing path => s!"No configuration file at {path}, using defaults"
  | .settingsMalformed path reason => s!"Invalid config JSON at {path}: {reason}"
  | .invalidDefaultCanteen value => s!"Ignoring invalid default canteen id: {value.quoted}"
  | .invalidFeedId canteen target => s!"Ignoring invalid OpenMensa id mapping: {Text.quoted canteen} -> {target.quoted}"
  | .lookingUp canteens day => s!"🍽️  Looking up {canteens} canteen(s) for {day.text}"
  | .noFeedId canteen => s!"Skipping {canteen}: no OpenMensa id configured"
  | .feedAnswered canteen day status => s!"🌐 OpenMensa API (canteen {canteen.text}, {day.text}): {status} in 0.00s"
  | .sourceFailed source reason => s!"Error fetching from source {source}: {reason}"
  | .lookupDone => "⏱️  Menu lookup: 0.00s"

end Notice

end MenuBoard
