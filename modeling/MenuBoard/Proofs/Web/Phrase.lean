import MenuBoard.Proofs.Phrase.Tokenize
import MenuBoard.Proofs.Web.Rejection

/-!
A phrase is accepted or rejected alike wherever it is sent.

Three routes read phrases, each in its own way: one reads nothing else, one leaves an empty phrase unread, and one looks
for canteens, a day, rules and meals behind it. `DecidedBy` says that a result is a rejection exactly if the phrase
cannot be read, and then the rejection of this phrase. Reading has this property (`decidedBy_readPhrase`), and what
comes after reading keeps it as long as it rejects no phrase of its own (`DecidedBy.bind`). So classifying
(`decidedBy_classify`) and looking up menus (`decidedBy_lookup`) have it, and all three routes send one answer
(`routes_agree_on_phrase`).
-/

namespace MenuBoard

open MenuBoard.Phrase MenuBoard.Calendar

namespace Board

/-! ## Results decided by a phrase -/

/-- The error is not that a phrase cannot be read. -/
def IsNoRejection (error : RequestError) : Prop := ∀ phrase reason, error ≠ .rejected phrase reason

/-- The result is the rejection of the phrase if the phrase cannot be read, and no rejection if it can. -/
def DecidedBy {α : Type} (phrase : String) (result : Except RequestError α) : Prop :=
  match tokenize phrase.toList with
  | .error reason => result = .error (.rejected phrase reason)
  | .ok _ => FailsOnly IsNoRejection result

section Result

variable {α β : Type} {phrase : String} {reason : Rejection} {clauses : List Clause} {result : Except RequestError α}

theorem decidedBy_of_error (h : tokenize phrase.toList = .error reason) :
    DecidedBy phrase result ↔ result = .error (.rejected phrase reason) := by
  unfold DecidedBy
  rw [h]

theorem decidedBy_of_ok (h : tokenize phrase.toList = .ok clauses) :
    DecidedBy phrase result ↔ FailsOnly IsNoRejection result := by
  unfold DecidedBy
  rw [h]

/-- What comes after reading a phrase leaves the decision to it. -/
theorem DecidedBy.bind {f : α → Except RequestError β} (h : DecidedBy phrase result)
    (hf : ∀ a, FailsOnly IsNoRejection (f a)) :
    DecidedBy phrase (result >>= f) := by
  cases htokens : tokenize phrase.toList with
  | error reason =>
    rw [decidedBy_of_error htokens] at h ⊢
    exact bind_eq_error.2 (.inl h)
  | ok clauses =>
    rw [decidedBy_of_ok htokens] at h ⊢
    exact h.bind hf

theorem DecidedBy.map {f : α → β} (h : DecidedBy phrase result) : DecidedBy phrase (result.map f) := by
  cases htokens : tokenize phrase.toList with
  | error reason =>
    rw [decidedBy_of_error htokens] at h ⊢
    exact map_eq_error.2 h
  | ok clauses =>
    rw [decidedBy_of_ok htokens] at h ⊢
    exact fun error herror => h error (map_eq_error.1 herror)

/-- An error that a phrase decides on is one it decides on wherever it turns up. -/
theorem DecidedBy.of_error {error : RequestError} (h : DecidedBy phrase (.error error : Except RequestError α)) :
    DecidedBy phrase (.error error : Except RequestError β) := by
  cases htokens : tokenize phrase.toList with
  | error reason =>
    rw [decidedBy_of_error htokens] at h ⊢
    exact congrArg Except.error (Except.error.inj h)
  | ok clauses =>
    rw [decidedBy_of_ok htokens] at h ⊢
    exact failsOnly_error.2 (failsOnly_error.1 h)

theorem isNoRejection_pattern {made : Except Rule.PatternError α} :
    FailsOnly IsNoRejection (made.mapError RequestError.pattern) := by
  intro error h phrase reason
  obtain ⟨cause, -, rfl⟩ := mapError_eq_error.1 h
  exact fun hrejected => by cases hrejected

end Result

/-! ## Requests -/

section Requests

variable {board : Board} {phrase : String}

theorem decidedBy_readPhrase (phrase : String) : DecidedBy phrase (readPhrase phrase) := by
  have hread : readPhrase phrase = ((tokenize phrase.toList).map Query.ofClauses).mapError (.rejected phrase) := rfl
  cases htokens : tokenize phrase.toList with
  | error reason =>
    rw [decidedBy_of_error htokens, hread, htokens]
    rfl
  | ok clauses =>
    rw [decidedBy_of_ok htokens, hread, htokens]
    exact failsOnly_ok _ _

theorem tokenize_empty : tokenize "".toList = .ok [] := tokenize_eq_ok.2 (clausesFrom_nil _)

/-- An empty phrase need not be read: it is no phrase that would be rejected. -/
theorem decidedBy_readOptionalPhrase (phrase : String) : DecidedBy phrase (readOptionalPhrase (some phrase)) := by
  cases hempty : phrase.isEmpty with
  | true =>
    obtain rfl := String.isEmpty_iff.1 hempty
    rw [decidedBy_of_ok tokenize_empty]
    exact failsOnly_ok _ _
  | false =>
    have hread : readOptionalPhrase (some phrase) = (readPhrase phrase).map fun read => some read.1 := by
      simp only [readOptionalPhrase, hempty]
      rfl
    rw [hread]
    exact (decidedBy_readPhrase phrase).map

theorem decidedBy_classify {request : ClassifyRequest} (h : request.phrase = some phrase) :
    DecidedBy phrase (board.classify request) := by
  unfold classify
  rw [h]
  exact (decidedBy_readOptionalPhrase phrase).bind fun query => isNoRejection_pattern.bind fun classifier => failsOnly_ok _ _

theorem isNoRejection_canteensOf (settings : Settings) (query : Query) :
    FailsOnly IsNoRejection (canteensOf settings query) := by
  intro error h phrase reason
  rw [canteensOf_eq_error h]
  exact fun hrejected => by cases hrejected

theorem isNoRejection_dayOf (today : Day) (query : Query) : FailsOnly IsNoRejection (dayOf today query) := by
  intro error h phrase reason
  rw [dayOf_eq_error h]
  exact fun hrejected => by cases hrejected

theorem decidedBy_plan (board : Board) (today : Day) (request : MenuRequest) :
    DecidedBy request.phrase (board.plan today request) := by
  unfold plan
  exact (decidedBy_readPhrase request.phrase).bind fun read =>
    (isNoRejection_canteensOf board.settings read.1).bind fun canteens =>
      (isNoRejection_dayOf today read.1).bind fun day => isNoRejection_pattern.bind fun classifier => failsOnly_ok _ _

/-- Whatever becomes of a lookup is decided by its phrase first, whichever else is wrong with it. -/
theorem decidedBy_lookup (board : Board) (around : Surroundings) (today : Day) (request : MenuRequest) (cache : MealCache) :
    DecidedBy request.phrase (board.lookup around today request cache).outcome := by
  have hplan := decidedBy_plan board today request
  cases hsettled : board.plan today request with
  | error error =>
    have houtcome : (board.lookup around today request cache).outcome = .error error := by simp only [lookup, hsettled]
    rw [houtcome]
    exact (hsettled ▸ hplan).of_error
  | ok plan =>
    cases htokens : tokenize request.phrase.toList with
    | error reason =>
      rw [decidedBy_of_error htokens, hsettled] at hplan
      cases hplan
    | ok clauses =>
      rw [decidedBy_of_ok htokens, lookup_of_plan hsettled]
      intro error h phrase reason
      rcases servePlan_eq_error h with ⟨-, rfl⟩ | ⟨-, -, -, failure, rfl, -⟩ <;> exact fun hrejected => by cases hrejected

end Requests

end Board

namespace Web

open MenuBoard.Board MenuBoard.Form

/-! ## Answers -/

/-- the code that an answer bears, if it bears one -/
def Answer.code? (answer : Answer) : Option String :=
  match answer.body with
  | .object fields =>
    match Json.field? "error_code" fields with
    | some (.str code) => some code
    | _ => none
  | _ => none

/-- the answer to a phrase that cannot be read: what is wrong, the phrase, where it goes wrong, and what could stand there -/
def invalidQuery (phrase : String) (reason : Rejection) : Answer :=
  .coded 400 "INVALID_QUERY" (reason.message phrase.toList)
    [("phrase", .str phrase), ("position", .int reason.position), ("expected", .texts reason.expected)]

/-- the answer to a request, with what it brings as the body -/
def Answer.ofOutcome : Except RequestError Json → Answer
  | .ok body => .ok body
  | .error error => .ofRequestError error

/-- The answer is the rejection of the phrase if the phrase cannot be read, and no rejection of a phrase if it can. -/
def AnsweredBy (phrase : String) (answer : Answer) : Prop :=
  match tokenize phrase.toList with
  | .error reason => answer = invalidQuery phrase reason
  | .ok _ => answer.code? ≠ some "INVALID_QUERY"

section Answers

variable {phrase : String} {reason : Rejection}

@[simp] theorem code?_coded (status : Nat) (code message : String) (more : List (String × Json)) :
    (Answer.coded status code message more).code? = some code := by
  simp [Answer.code?, Answer.coded, Json.field?]

theorem code?_broken : Answer.broken.code? = none := rfl

/-- No other error bears the code of a phrase that cannot be read. -/
theorem code?_ofRequestError {error : RequestError} (h : IsNoRejection error) :
    (Answer.ofRequestError error).code? ≠ some "INVALID_QUERY" := by
  cases error with
  | rejected phrase reason => exact absurd rfl (h phrase reason)
  | pattern error => cases error <;> simp [Answer.ofRequestError, Answer.ofPatternError, code?_broken]
  | noCanteen => simp [Answer.ofRequestError]
  | outOfRange => simp [Answer.ofRequestError, code?_broken]
  | unavailable canteens => simp [Answer.ofRequestError]
  | noMeals failure => simp [Answer.ofRequestError]

/-- A result that a phrase decides on is answered as the phrase is, if the bodies it brings bear no code. -/
theorem answeredBy_of_decidedBy {outcome : Except RequestError Json} (h : DecidedBy phrase outcome)
    (hbody : ∀ body, outcome = .ok body → (Answer.ok body).code? = none) :
    AnsweredBy phrase (.ofOutcome outcome) := by
  unfold AnsweredBy
  cases htokens : tokenize phrase.toList with
  | error reason =>
    rw [(decidedBy_of_error htokens).1 h]
    rfl
  | ok clauses =>
    have hnone := (decidedBy_of_ok htokens).1 h
    cases outcome with
    | ok body =>
      rw [Answer.ofOutcome, hbody body rfl]
      exact fun hcode => by cases hcode
    | error error =>
      exact code?_ofRequestError (failsOnly_error.1 hnone)

theorem answeredBy_map {α : Type} {result : Except RequestError α} (h : DecidedBy phrase result)
    (view : α → Json) (hview : ∀ a, (Answer.ok (view a)).code? = none) :
    AnsweredBy phrase (.ofOutcome (result.map view)) := by
  refine answeredBy_of_decidedBy h.map fun body hbody => ?_
  obtain ⟨a, -, rfl⟩ := map_eq_ok.1 hbody
  exact hview a

end Answers

/-! ## Routes -/

/-- A request goes to a route, and its body fills in the form that the route asks for. -/
structure FillsIn {α : Type} (request : Request) (route : Route) (form : Json → Checked α) (filled : α) : Prop where
  route : dispatch request.method request.target = .route route
  body : readBody form request.body = .ok filled

/-- A form that is filled in can be known by some of its parts. -/
theorem exists_fillsIn {α β : Type} {request : Request} {route : Route} {form : Json → Checked α} {parts : α → β} {p : β}
    (hroute : dispatch request.method request.target = .route route)
    (hparts : (readBody form request.body).toOption.map parts = some p) :
    ∃ filled, FillsIn request route form filled ∧ parts filled = p := by
  cases hbody : readBody form request.body with
  | error answer =>
    rw [hbody] at hparts
    cases hparts
  | ok filled =>
    rw [hbody] at hparts
    exact ⟨filled, ⟨hroute, hbody⟩, Option.some.inj hparts⟩

/-- A request that a route answers was sent by the method of the route. -/
theorem method_of_dispatch {method target : String} {route : Route} (h : dispatch method target = .route route) :
    method = route.method := by
  simp only [dispatch] at h
  split at h
  · split at h
    · next hmethod =>
      obtain rfl := Dispatch.route.inj h
      exact (eq_of_beq hmethod).symm
    · cases h
  · split at h <;> cases h

section Routes

variable {s : Service} {request : Request}

/-- An answer to a form that was sent is not cut to its head. -/
theorem answer_handle {route : Route} (hroute : dispatch request.method request.target = .route route)
    (hmethod : route.method = "POST") : (handle s request).answer = (handleRoute s request route).answer := by
  have hfully : handleFully s request = handleRoute s request route := by simp only [handleFully, hroute]
  have hpost : request.method = "POST" := (method_of_dispatch hroute).trans hmethod
  simp only [handle, hfully, Answer.toMethod, hpost]
  rfl

theorem computed_of_ok {α : Type} {read : Except Answer α} {a : α} (h : read = .ok a)
    (work : α → Except RequestError Json) : computed read work = .ofOutcome (work a) := by
  rw [h, computed]
  rfl

theorem answer_classifyMeals {form : ClassifyRequest} (h : FillsIn request .classifyMeals classifyRequest form) :
    (handle s request).answer =
      .ofOutcome ((s.board.classify form).map fun meals => .object (View.classifiedMeals meals)) := by
  rw [answer_handle h.route rfl, handleRoute, computed_of_ok h.body]

theorem answer_menu {form : MenuRequest} (h : FillsIn request .menu menuRequest form) :
    (handle s request).answer = .ofOutcome
      ((s.board.lookup s.around request.today form s.cache).outcome.map fun a => .object (View.menuAnswer a)) := by
  rw [answer_handle h.route rfl, handleRoute, handleMenu, h.body]
  simp only
  cases (s.board.lookup s.around request.today form s.cache).outcome <;> rfl

theorem answeredBy_parseQuery {form : PhraseRequest} (h : FillsIn request .parseQuery phraseRequest form) :
    AnsweredBy form.phrase (handle s request).answer := by
  rw [answer_handle h.route rfl, handleRoute, computed_of_ok h.body]
  exact answeredBy_map (decidedBy_readPhrase form.phrase) _ fun _ => rfl

theorem answeredBy_classifyMeals {form : ClassifyRequest} {phrase : String}
    (h : FillsIn request .classifyMeals classifyRequest form) (hphrase : form.phrase = some phrase) :
    AnsweredBy phrase (handle s request).answer := by
  rw [answer_classifyMeals h]
  exact answeredBy_map (decidedBy_classify hphrase) _ fun meals => rfl

theorem answeredBy_menu {form : MenuRequest} (h : FillsIn request .menu menuRequest form) :
    AnsweredBy form.phrase (handle s request).answer := by
  rw [answer_menu h]
  exact answeredBy_map (decidedBy_lookup s.board s.around request.today form s.cache) _ fun a => rfl

end Routes

/-- **One phrase, one verdict.** Three forms with the same phrase are sent, each after any requests: one to be read, one
to classify meals by, with whatever meals and rules, and one to look up menus, with whatever rules. If the phrase can be
read, none of the answers says that it cannot. Otherwise all three are the same: what is wrong with the phrase, the
phrase, where it goes wrong, and what could stand there. -/
theorem routes_agree_on_phrase (s : Service) (phrase : String) (before before' before'' : List Request)
    {reading classifying lookingUp : Request} {meals : ClassifyRequest} {menus : MenuRequest}
    (hreading : FillsIn reading .parseQuery phraseRequest ⟨phrase⟩)
    (hclassifying : FillsIn classifying .classifyMeals classifyRequest meals) (hmeals : meals.phrase = some phrase)
    (hlookingUp : FillsIn lookingUp .menu menuRequest menus) (hmenus : menus.phrase = phrase) :
    let answers := [(handle (afterAll s before) reading).answer, (handle (afterAll s before') classifying).answer,
      (handle (afterAll s before'') lookingUp).answer]
    (∃ clauses, tokenize phrase.toList = .ok clauses ∧ ∀ answer ∈ answers, answer.code? ≠ some "INVALID_QUERY") ∨
      ∃ reason, tokenize phrase.toList = .error reason ∧ ∀ answer ∈ answers, answer = invalidQuery phrase reason := by
  intro answers
  have hall : ∀ answer ∈ answers, AnsweredBy phrase answer := by
    subst hmenus
    simp only [answers, List.forall_mem_cons]
    exact ⟨answeredBy_parseQuery hreading, answeredBy_classifyMeals hclassifying hmeals, answeredBy_menu hlookingUp,
      List.forall_mem_nil _⟩
  unfold AnsweredBy at hall
  cases htokens : tokenize phrase.toList with
  | error reason =>
    rw [htokens] at hall
    exact .inr ⟨reason, rfl, hall⟩
  | ok clauses =>
    rw [htokens] at hall
    exact .inl ⟨clauses, rfl, hall⟩

/-- a phrase sent to a path, with no meals and with a rule that cannot be used -/
def sendTo (path phrase : String) (today : Day) : Request where
  method := "POST"
  target := path
  body := s!"\x7b\"meals\": [], \"phrase\": \"{phrase}\", \"filter\": \x7b\"allow_names\": [\"(\"]\x7d\x7d"
  today := today

/-- A phrase that names neither a canteen nor anything to leave out, sent with a rule that cannot be used to a board without
a canteen of its own, after a request that failed for want of meals. -/
theorem moon_is_turned_down_everywhere : ∃ (today : Day) (meals : ClassifyRequest) (menus : MenuRequest),
    FillsIn (sendTo "/api/parse-query" "no moon" today) .parseQuery phraseRequest ⟨"no moon"⟩ ∧
      (FillsIn (sendTo "/api/classify-meals" "no moon" today) .classifyMeals classifyRequest meals ∧
        meals.phrase = some "no moon") ∧
      (FillsIn (sendTo "/api/menu" "no moon" today) .menu menuRequest menus ∧ menus.phrase = "no moon") ∧
      ∀ answer ∈ [(handle (afterAll academicaAndPark []) (sendTo "/api/parse-query" "no moon" today)).answer,
          (handle (afterAll academicaAndPark []) (sendTo "/api/classify-meals" "no moon" today)).answer,
          (handle (afterAll academicaAndPark [askFor today "at all"]) (sendTo "/api/menu" "no moon" today)).answer],
        answer = invalidQuery "no moon" ⟨3, ["pig, fish or alcohol"]⟩ := by
  let today : Day := ⟨738887, by decide⟩
  have hrejected : tokenize "no moon".toList = .error ⟨3, ["pig, fish or alcohol"]⟩ := by decide +kernel
  obtain ⟨⟨phrase⟩, hread, rfl⟩ : ∃ filled, FillsIn (sendTo "/api/parse-query" "no moon" today) .parseQuery phraseRequest
      filled ∧ PhraseRequest.phrase filled = "no moon" := exists_fillsIn (by decide +kernel) (by decide +kernel)
  obtain ⟨meals, hclassify, hmeals⟩ : ∃ filled, FillsIn (sendTo "/api/classify-meals" "no moon" today) .classifyMeals
      classifyRequest filled ∧ ClassifyRequest.phrase filled = some "no moon" :=
    exists_fillsIn (by decide +kernel) (by decide +kernel)
  obtain ⟨menus, hlookUp, hmenus⟩ : ∃ filled, FillsIn (sendTo "/api/menu" "no moon" today) .menu menuRequest filled ∧
      MenuRequest.phrase filled = "no moon" := exists_fillsIn (by decide +kernel) (by decide +kernel)
  refine ⟨today, meals, menus, hread, ⟨hclassify, hmeals⟩, ⟨hlookUp, hmenus⟩, ?_⟩
  rcases routes_agree_on_phrase academicaAndPark "no moon" [] [] [askFor today "at all"] hread hclassify hmeals hlookUp
    hmenus with ⟨clauses, hread, -⟩ | ⟨reason, hreason, hanswers⟩
  · rw [hrejected] at hread
    cases hread
  · rw [hrejected] at hreason
    obtain rfl := Except.error.inj hreason
    exact hanswers

end Web

end MenuBoard
