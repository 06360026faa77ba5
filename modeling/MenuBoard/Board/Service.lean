import MenuBoard.Board.Lookup
import MenuBoard.Feed.Fetch

/-!
A board in service, over the feed: time passes, the feed changes, and requests come in. An address that the feed has no reply
for is not found.
-/

namespace MenuBoard.Board

open MenuBoard.Calendar MenuBoard.Feed

/-- the replies of the feed, by address; the first for an address counts -/
abbrev Table := List (String × Reply)

/-- the session that a table stands for -/
def Table.session (table : Table) : Session := fun address =>
  match table.find? (·.1 == address) with
  | some (_, reply) => reply
  | none => .response { status := 404 }

structure Service where
  board : Board
  now : Int := 0
  cache : MealCache := []
  table : Table := []

namespace Service

inductive Event where
  | advance (seconds : Int)
  | respond (replies : Table)
  | lookup (today : Day) (request : MenuRequest)
  | classify (request : ClassifyRequest)

/-- what an event brings -/
inductive Effect where
  | none
  | served (result : Served MenuAnswer)
  | classified (result : Except RequestError (List ClassifiedMeal))

/-- the surroundings of a request: the feed is the only source -/
def around (s : Service) : Surroundings where
  sources := [Feed.source s.table.session s.board.settings.timeout]
  now := s.now

def step (s : Service) : Event → Service × Effect
  | .advance seconds => ({ s with now := s.now + seconds }, .none)
  | .respond replies => ({ s with table := replies ++ s.table }, .none)
  | .lookup today request =>
    let result := s.board.lookup s.around today request s.cache
    ({ s with cache := result.cache }, .served result)
  | .classify request => (s, .classified (s.board.classify request))

/-- the service after events -/
def run (s : Service) (events : List Event) : Service := events.foldl (fun s e => (step s e).1) s

end Service

end MenuBoard.Board
