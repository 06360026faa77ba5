import MenuBoard.Board.Service
import MenuBoard.Web.Answer
import MenuBoard.Web.Route

/-!
The web interface of a board in service. A request is dispatched by its path and method, its body is read into the form that
the route asks for, and the board answers. Only the menu route asks the feed and uses the cache.
-/

namespace MenuBoard.Web

open MenuBoard.Board MenuBoard.Form MenuBoard.Calendar

/-- a request as it comes in, with the day on which it does -/
structure Request where
  method : String
  target : String
  body : String
  today : Day

/-- an answer, the calls it took, and the service after it -/
structure Handled where
  answer : Answer
  service : Service
  calls : List Call := []

/-- the issues of a body lie under its own name -/
def bodyIssue (path : List Step) (fault : Fault) : Issue := ⟨.key "body" :: path, fault⟩

/-- the text of a body, without a mark of its byte order -/
def dropMark : List Char → List Char
  | '\ufeff' :: text => text
  | text => text

/-- Reads a body into a form, or says what to answer instead. -/
def readBody {α : Type} (form : Json → Checked α) (body : String) : Except Answer α :=
  if body.isEmpty then .error (.invalid [bodyIssue [] .missing])
  else match Json.read (dropMark body.toList) with
    | .error (.syntaxFault _ offset) => .error (.invalid [bodyIssue [.index offset] .badJson])
    | .error (.numeral _) => .error (.detail 400 "There was an error parsing the body")
    | .ok v => (Checked.under (.key "body") (form v)).mapError .invalid

/-- what a route that only computes answers -/
def computed (request : Except Answer α) (work : α → Except RequestError Json) : Answer :=
  match request with
  | .error answer => answer
  | .ok a =>
    match work a with
    | .ok body => .ok body
    | .error error => .ofRequestError error

def welcome : Json := .object [("message", .str "Welcome to the Mensa Query API. Visit /docs for documentation.")]

/-- Answers a request for menus. -/
def handleMenu (s : Service) (request : Request) : Handled :=
  match readBody menuRequest request.body with
  | .error answer => { answer, service := s }
  | .ok form =>
    let result := s.board.lookup s.around request.today form s.cache
    let answer := match result.outcome with
      | .ok a => .ok (.object (View.menuAnswer a))
      | .error error => .ofRequestError error
    { answer, service := { s with cache := result.cache }, calls := result.calls }

/-- Answers a request that a route is there for. -/
def handleRoute (s : Service) (request : Request) : Route → Handled
  | .welcome => { answer := .ok welcome, service := s }
  | .canteens => { answer := .ok (.list (Canteen.known.map View.canteen)), service := s }
  | .parseQuery =>
    let work (form : PhraseRequest) := (readPhrase form.phrase).map fun (query, _) => View.query query
    { answer := computed (readBody phraseRequest request.body) work, service := s }
  | .classifyMeals =>
    let work (form : ClassifyRequest) := (s.board.classify form).map fun meals => .object (View.classifiedMeals meals)
    { answer := computed (readBody classifyRequest request.body) work, service := s }
  | .menu => handleMenu s request

/-- the answer without its body, if only the head is asked for -/
def Answer.toMethod (method : String) (answer : Answer) : Answer :=
  if method == "HEAD" then { answer with body := .null } else answer

/-- Answers a request, body included. -/
def handleFully (s : Service) (request : Request) : Handled :=
  match dispatch request.method request.target with
  | .route route => handleRoute s request route
  | .wrongMethod => { answer := .detail 405 "Method Not Allowed", service := s }
  | .redirect => { answer := { status := 307 }, service := s }
  | .unknown => { answer := .detail 404 "Not Found", service := s }

/-- Answers a request. -/
def handle (s : Service) (request : Request) : Handled :=
  let handled := handleFully s request
  { handled with answer := handled.answer.toMethod request.method }

/-- the answers to requests, each from the service that the one before it left -/
def handleAll (s : Service) : List Request → List Handled
  | [] => []
  | request :: rest =>
    let first := handle s request
    first :: handleAll first.service rest

end MenuBoard.Web
