/-!
The routes of the web interface. A path that is known for another method is told apart from one that is unknown, and one
that only ends in too many slashes is sent to the path without them.
-/

namespace MenuBoard.Web

inductive Route where
  | welcome
  | canteens
  | parseQuery
  | classifyMeals
  | menu
  deriving DecidableEq, Repr

namespace Route

def all : List Route := [.welcome, .canteens, .parseQuery, .classifyMeals, .menu]

def method : Route → String
  | .welcome | .canteens => "GET"
  | .parseQuery | .classifyMeals | .menu => "POST"

def path : Route → String
  | .welcome => "/"
  | .canteens => "/api/canteens"
  | .parseQuery => "/api/parse-query"
  | .classifyMeals => "/api/classify-meals"
  | .menu => "/api/menu"

/-- the route with a path -/
def ofPath? (path : String) : Option Route := all.find? (·.path == path)

end Route

/-- where a request goes -/
inductive Dispatch where
  | route (route : Route)
  | wrongMethod
  | redirect
  | unknown
  deriving DecidableEq, Repr

/-- the path of a target, without what follows a question mark or a hash -/
def targetPath (target : String) : String := String.ofList (target.toList.takeWhile fun c => c != '?' && c != '#')

/-- the path without the slashes at its end -/
def dropSlashes (path : String) : String := String.ofList (path.toList.reverse.dropWhile (· == '/')).reverse

def dispatch (method target : String) : Dispatch :=
  let path := targetPath target
  match Route.ofPath? path with
  | some route => if route.method == method then .route route else .wrongMethod
  | none => if (Route.ofPath? (dropSlashes path)).isSome then .redirect else .unknown

end MenuBoard.Web
