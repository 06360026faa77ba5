import MenuBoard.Json.Reader
import MenuBoard.Settings.Environment

/-!
Settings from a file. A file that is missing or whose text is no JSON counts as an empty object, with a notice. `load` reads
the file that is named, or else the one that the environment names, or else the one that comes with the program, and then
the environment.
-/

namespace MenuBoard.Settings

open MenuBoard.Text

/-- the bytes of the files that there are -/
abbrev Files := String → Option (List UInt8)

/-- what a file holds -/
def fileValue (path : String) : Option (List UInt8) → Except SettingsError (Json × List Notice)
  | none => .ok (.object [], [.settingsMissing path])
  | some bytes =>
    match Utf8.decode bytes with
    | .error error => .error (.undecodable error)
    | .ok text =>
      match Json.read text with
      | .ok v => .ok (v, [])
      | .error (.numeral digits) => .error (.numeral digits)
      | .error (.syntaxFault kind offset) =>
        .ok (.object [], [.settingsMalformed path (Json.ReadError.message text (.syntaxFault kind offset))])

/-- settings out of the bytes of a file and the environment -/
def ofFile (path : String) (bytes : Option (List UInt8)) (environment : Environment) :
    Except SettingsError (Settings × List Notice) := do
  let (value, fileNotices) ← fileValue path bytes
  let (settings, valueNotices) ← ofJson value
  let (settings, notices) := withEnvironment environment settings
  return (settings, fileNotices ++ valueNotices ++ notices)

/-- the path of the file that comes with the program -/
def ownPath : String := "config/mensa_config.json"

/-- the path of the file to read -/
def pathOf (given : Option String) (environment : Environment) : String :=
  (given.or (nonempty? environment "MENSA_CONFIG")).getD ownPath

/-- the settings of the file that applies, with what the environment sets -/
def load (files : Files) (given : Option String) (environment : Environment) :
    Except SettingsError (Settings × List Notice) :=
  let path := pathOf given environment
  ofFile path (files path) environment

/-- a list of rules that denies and allows nothing but what is given -/
def ruleSection (allow deny : List String) : Json :=
  .object [("allow", .list (allow.map .str)), ("deny", .list (deny.map .str))]

/-- what the file that comes with the program holds -/
def ownFile : Json := .object [
  ("default_canteen_id", .int 106),
  ("filter", .object [("tag", ruleSection [] []), ("category", ruleSection [] ["(?i)smoothie"]), ("name", ruleSection [] [])]),
  ("favs", .object [("tag", ruleSection ["Vegan"] []), ("category", ruleSection [] ["Salat"]), ("name", ruleSection [] [])]),
  ("request_timeout_seconds", .int 10),
  ("cache_ttl_seconds", .int 3600),
  ("openmensa_ids", .object [("106", .int 63)])]

end MenuBoard.Settings
