import Mathlib.Data.List.Basic
import MenuBoard.Proofs.Board.Rejection
import MenuBoard.Web.Server

/-!
What requests to the web interface leave alone.

Answers with status 400 or 422 are those to a body that cannot be read and to a lookup that was refused; a lookup that
fails for want of meals has status 502. So whoever gets such an answer has left the service as it was, and nobody was
called. Routes other than that of the menu do not come near the cache and the feed at all.

`rejection_has_no_effect` puts this together with what lookups themselves leave behind.
-/

namespace MenuBoard.Web

open MenuBoard.Board MenuBoard.Form MenuBoard.Calendar

/-- the service after requests -/
def afterAll (s : Service) (requests : List Request) : Service :=
  requests.foldl (fun s request => (handle s request).service) s

/-- Every request of a row is handled by the service that those before it left. -/
theorem getElem?_handleAll (s : Service) (requests : List Request) (i : Nat) :
    (handleAll s requests)[i]? = requests[i]?.map (handle (afterAll s (requests.take i))) := by
  induction requests generalizing s i with
  | nil => rfl
  | cons request rest ih =>
    cases i with
    | zero => rfl
    | succ i => exact ih (handle s request).service i

/-- The service is as it was, nobody was called, and any service with the same board would have given the same answer. -/
structure Untouched (s : Service) (request : Request) : Prop where
  service : (handle s request).service = s
  calls : (handle s request).calls = []
  answer : ∀ s', s'.board = s.board → (handle s' request).answer = (handle s request).answer

/-- the statuses of answers that turn a request down -/
def TurnsDown (answer : Answer) : Prop := answer.status = 400 ∨ answer.status = 422

@[simp] theorem status_toMethod (answer : Answer) (method : String) : (answer.toMethod method).status = answer.status := by
  unfold Answer.toMethod
  split <;> rfl

theorem ne_noMeals_of_turnsDown {error : RequestError} (h : TurnsDown (.ofRequestError error)) (failure : SourceFailure) :
    error ≠ .noMeals failure := by
  rintro rfl
  rcases h with h | h <;> cases h

section Handle

variable {s : Service} {request : Request}

theorem handleRoute_of_ne_menu {route : Route} (h : route ≠ .menu) :
    (handleRoute s request route).service = s ∧ (handleRoute s request route).calls = [] ∧
      ∀ s', s'.board = s.board → (handleRoute s' request route).answer = (handleRoute s request route).answer := by
  cases route with
  | welcome => exact ⟨rfl, rfl, fun s' _ => rfl⟩
  | canteens => exact ⟨rfl, rfl, fun s' _ => rfl⟩
  | parseQuery => exact ⟨rfl, rfl, fun s' _ => rfl⟩
  | classifyMeals =>
    refine ⟨rfl, rfl, fun s' hboard => ?_⟩
    simp only [handleRoute, hboard]
  | menu => exact absurd rfl h

theorem untouched_of_ne_menu (h : dispatch request.method request.target ≠ .route .menu) : Untouched s request := by
  cases hdispatch : dispatch request.method request.target with
  | route route =>
    have hroute : route ≠ .menu := fun hmenu => h (hdispatch.trans (congrArg Dispatch.route hmenu))
    obtain ⟨hservice, hcalls, hanswer⟩ := @handleRoute_of_ne_menu s request route hroute
    constructor
    case service => simpa only [handle, handleFully, hdispatch] using hservice
    case calls => simpa only [handle, handleFully, hdispatch] using hcalls
    case answer =>
      intro s' hboard
      simp only [handle, handleFully, hdispatch, hanswer s' hboard]
  | wrongMethod => constructor <;> simp [handle, handleFully, hdispatch]
  | redirect => constructor <;> simp [handle, handleFully, hdispatch]
  | unknown => constructor <;> simp [handle, handleFully, hdispatch]

theorem handleMenu_of_turnsDown (h : TurnsDown (handleMenu s request).answer) :
    (handleMenu s request).service = s ∧ (handleMenu s request).calls = [] ∧
      ∀ s', s'.board = s.board → (handleMenu s' request).answer = (handleMenu s request).answer := by
  unfold handleMenu at h ⊢
  cases hbody : readBody menuRequest request.body with
  | error answer => exact ⟨rfl, rfl, fun s' _ => rfl⟩
  | ok form =>
    rw [hbody] at h
    cases houtcome : (s.board.lookup s.around request.today form s.cache).outcome with
    | ok answer =>
      simp only [houtcome] at h
      rcases h with h | h <;> cases h
    | error error =>
      simp only [houtcome] at h
      have hrefused := lookup_refused houtcome (ne_noMeals_of_turnsDown h)
      obtain ⟨hcache, hcalls⟩ := (hrefused s.around s.cache).1
      refine ⟨?_, hcalls, fun s' hboard => ?_⟩
      · simp only [hcache]
      · simp only [hboard, (hrefused s'.around s'.cache).2, houtcome]

theorem untouched_of_turnsDown (h : TurnsDown (handle s request).answer) : Untouched s request := by
  by_cases hmenu : dispatch request.method request.target = .route .menu
  · have hfully (s' : Service) : handleFully s' request = handleMenu s' request := by
      unfold handleFully
      rw [hmenu]
      rfl
    have hdown : TurnsDown (handleMenu s request).answer := by
      simpa only [TurnsDown, handle, hfully, status_toMethod] using h
    obtain ⟨hservice, hcalls, hanswer⟩ := handleMenu_of_turnsDown hdown
    constructor
    case service => simpa only [handle, hfully] using hservice
    case calls => simpa only [handle, hfully] using hcalls
    case answer =>
      intro s' hboard
      simp only [handle, hfully, hanswer s' hboard]
  · exact untouched_of_ne_menu hmenu

end Handle

/-- **A request that is turned down has no effect.** A lookup that is refused calls nobody and leaves the cache alone,
whatever state it comes upon; one that fails for want of meals has done what asking for its canteens up to the one that
failed does, and nothing after. In a row of requests to the web interface, those answered with status 400 or 422, and
those to other routes than that of the menu, leave the service as the ones before them left it. -/
theorem rejection_has_no_effect :
    (∀ (board : Board) (around : Surroundings) (today : Day) (request : MenuRequest) (cache : MealCache)
        (error : RequestError), (board.lookup around today request cache).outcome = .error error →
      ((∀ failure, error ≠ .noMeals failure) → ∀ around' cache',
        LeavesAlone cache' (board.lookup around' today request cache') ∧
          (board.lookup around' today request cache').outcome = .error error) ∧
      ∀ failure, error = .noMeals failure → ∃ plan before target after, board.plan today request = .ok plan ∧
        available board.settings plan.canteens = before ++ target :: after ∧
        StopsAt (around.cacheState board.settings cache) plan.day before target failure
          (board.lookup around today request cache)) ∧
    ∀ (s : Service) (requests : List Request) (i : Nat) (handled : Handled), (handleAll s requests)[i]? = some handled →
      ∃ request, requests[i]? = some request ∧ handled = handle (afterAll s (requests.take i)) request ∧
        (TurnsDown handled.answer ∨ dispatch request.method request.target ≠ .route .menu →
          Untouched (afterAll s (requests.take i)) request) := by
  refine ⟨fun board around today request cache error h => ⟨fun hrefused => lookup_refused h hrefused, ?_⟩, ?_⟩
  · rintro failure rfl
    exact lookup_stopsAt h
  · intro s requests i handled h
    rw [getElem?_handleAll] at h
    obtain ⟨request, hrequest, rfl⟩ := Option.map_eq_some_iff.1 h
    refine ⟨request, hrequest, rfl, ?_⟩
    rintro (hdown | hroute)
    · exact untouched_of_turnsDown hdown
    · exact untouched_of_ne_menu hroute

/-- a board over a feed that has no meals of one canteen and is out of order for another one -/
def academicaAndPark : Service where
  board := { settings := { feedIds := [(118, .int 1)] }, filter := {}, favorites := {} }
  table := [("https://openmensa.org/api/v2/canteens/1/days/2024-01-03/meals", .response { body := "[]" }),
    ("https://openmensa.org/api/v2/canteens/63/days/2024-01-03/meals", .response { status := 500 })]

/-- a phrase that asks for menus -/
def askFor (today : Day) (phrase : String) : Request where
  method := "POST"
  target := "/api/menu"
  body := s!"\x7b\"phrase\": \"{phrase}\"\x7d"
  today := today

/-- All canteens are asked for, and the second one fails; then a phrase is turned down. -/
theorem academicaAndPark_turns_down_moon : ∃ today : Day, today.date = (2024, 1, 3) ∧
    (academicaAndPark.board.lookup academicaAndPark.around today { phrase := "at all" } []).calls.map Call.address =
        [Feed.addressOf "1" "2024-01-03", Feed.addressOf "63" "2024-01-03"] ∧
      (∃ failure plan before target after,
        academicaAndPark.board.plan today { phrase := "at all" } = .ok plan ∧
        available academicaAndPark.board.settings plan.canteens = before ++ target :: after ∧
        StopsAt (academicaAndPark.around.cacheState academicaAndPark.board.settings []) plan.day before target failure
          (academicaAndPark.board.lookup academicaAndPark.around today { phrase := "at all" } [])) ∧
      (handleAll academicaAndPark [askFor today "at all", askFor today "at moon"]).map (·.answer.status) = [502, 400] ∧
      Untouched (afterAll academicaAndPark [askFor today "at all"]) (askFor today "at moon") := by
  refine ⟨⟨738887, by decide⟩, by decide +kernel, by decide +kernel, ?_⟩
  have hfails : (academicaAndPark.board.lookup academicaAndPark.around ⟨738887, by decide⟩
      { phrase := "at all" } []).outcome.map (fun _ => ()) = .error (.noMeals ⟨["OpenMensa"],
        ["OpenMensa: 500 Server Error: None for url: " ++ Feed.addressOf "63" "2024-01-03"]⟩) := by decide +kernel
  have hstatuses : (handleAll academicaAndPark
      [askFor ⟨738887, by decide⟩ "at all", askFor ⟨738887, by decide⟩ "at moon"]).map (·.answer.status) =
        [502, 400] := by decide +kernel
  obtain ⟨hlookup, hrow⟩ := rejection_has_no_effect
  obtain ⟨request, hrequest, -, huntouched⟩ := hrow academicaAndPark
    [askFor ⟨738887, by decide⟩ "at all", askFor ⟨738887, by decide⟩ "at moon"] 1 _ rfl
  obtain rfl := Option.some.inj hrequest
  refine ⟨⟨_, (hlookup _ _ _ _ _ _ (map_eq_error.1 hfails)).2 _ rfl⟩, hstatuses, huntouched (.inl ?_)⟩
  exact .inl (List.cons.inj (List.cons.inj hstatuses).2).1

end MenuBoard.Web
