import MenuBoard.Proofs.Board.Overrides
import MenuBoard.Proofs.Json.Halves
import MenuBoard.Proofs.Rule.FirstFault
import MenuBoard.Proofs.Web.Phrase

/-!
Requests that bring unusable patterns.

The configured rules of a board are usable, so its classifier fails as the first unusable text does that the request brings
along, those of the filter before those of the favorites (`classifier_eq_error`). On both routes that take rules the request
is turned down under that text, once the phrase is read and what it asks for is settled (`unusable_patterns_are_named`). A
phrase that cannot be read is the first thing to be turned down (`moon_is_answered_first`).

This is so for boards with any compiler. It is said of bodies that escape whole characters only (`Json.NoLoneHalf`), because
texts with half a character in them could not be sent back in an answer, and are replaced where they are read here.
-/

namespace MenuBoard

open MenuBoard.Rule MenuBoard.Form

namespace Board

/-- the texts of the lists that a request brings, if it brings any -/
def rawsOf : Option Overrides → List RawPattern
  | none => []
  | some own => own.lists.raws

section Classifier

variable {settings : Settings} {compile : Compiler} {board : Board} {query : Option Query}
  {filter favorites : Option Overrides} {e : PatternError}

theorem effectiveRules_eq_error_iff {configured : RuleSet} {lists : RuleLists}
    (h : lists.toRuleSet compile = .ok configured) {overrides : Option Overrides} :
    effectiveRules compile configured lists overrides = .error e ↔
      (rawsOf overrides).mapM (RawPattern.read compile) = .error e := by
  rw [effectiveRules_eq_error h]
  cases overrides with
  | none =>
    constructor
    · rintro ⟨_, hnone, -⟩
      cases hnone
    · intro hnil
      cases hnil
  | some own =>
    rw [rawsOf, ← RuleLists.toRuleSet_eq_error]
    simp only [Option.some.injEq, exists_eq_left']

theorem effectiveRules_eq_ok_iff {configured : RuleSet} {lists : RuleLists} (h : lists.toRuleSet compile = .ok configured)
    {overrides : Option Overrides} : (∃ rules, effectiveRules compile configured lists overrides = .ok rules) ↔
      ∃ ps, (rawsOf overrides).mapM (RawPattern.read compile) = .ok ps := by
  rw [← not_fails_iff, ← not_fails_iff]
  exact not_congr (exists_congr fun e => effectiveRules_eq_error_iff h)

/-- The classifier fails as the row of all texts of the request does, those of the filter first. -/
theorem classifier_eq_error (hboard : ofSettings settings compile = .ok board) :
    board.classifier query filter favorites = .error e ↔
      (rawsOf filter ++ rawsOf favorites).mapM (RawPattern.read compile) = .error e := by
  obtain ⟨hfilter, hfavorites, rfl, hcompile⟩ := rules_of_ofSettings hboard
  have hready : (∃ rules, effectiveRules compile board.filter board.settings.filter filter = .ok rules) ↔
      ∃ ps, (rawsOf filter).mapM (RawPattern.read compile) = .ok ps := effectiveRules_eq_ok_iff hfilter
  rw [List.mapM_append, classifier, hcompile, bind_eq_error, bind_eq_error, effectiveRules_eq_error_iff hfilter]
  refine or_congr_right ?_
  -- the favorites are looked at once the filter is made
  constructor
  · rintro ⟨rules, hrules, h⟩
    obtain ⟨ps, hps⟩ := hready.1 ⟨rules, hrules⟩
    refine ⟨ps, hps, bind_eq_error.2 ?_⟩
    rcases bind_eq_error.1 h with h | ⟨_, -, h⟩
    · exact .inl ((effectiveRules_eq_error_iff hfavorites).1 h)
    · cases h
  · rintro ⟨ps, hps, h⟩
    obtain ⟨rules, hrules⟩ := hready.2 ⟨ps, hps⟩
    refine ⟨rules, hrules, bind_eq_error.2 ?_⟩
    rcases bind_eq_error.1 h with h | ⟨_, -, h⟩
    · exact .inl ((effectiveRules_eq_error_iff hfavorites).2 h)
    · cases h

theorem classifier_eq_invalid (hboard : ofSettings settings compile = .ok board) {text reason : String} :
    board.classifier query filter favorites = .error (.invalid text reason) ↔
      ∃ raw, FirstUnusable compile (rawsOf filter ++ rawsOf favorites) raw ∧ text = raw.text ∧
        raw.RefusedFor compile reason := by
  simp only [classifier_eq_error hboard, mapM_read_eq_error, RawPattern.read_eq_invalid]

end Classifier

end Board

namespace Web

open MenuBoard.Board

/-- the answer to a text that is no pattern: what is wrong with it, and the text -/
def invalidPattern (text reason : String) : Answer :=
  .coded 422 "INVALID_PATTERN" s!"Invalid pattern {Text.quoted text}: {reason}" [("pattern", .str text)]

/-- The answer turns a request down for a pattern exactly if the first unusable text of this row is refused for a reason,
and then it names the text and the reason. -/
structure NamesFirst (compile : Compiler) (raws : List RawPattern) (answer : Answer) : Prop where
  code_iff : answer.code? = some "INVALID_PATTERN" ↔
    ∃ raw reason, FirstUnusable compile raws raw ∧ raw.RefusedFor compile reason
  answer_eq : ∀ raw reason, FirstUnusable compile raws raw → raw.RefusedFor compile reason →
    answer = invalidPattern raw.text reason

section Answers

variable {α : Type} {result : Except RequestError α} {view : α → Json} {compile : Compiler} {raws : List RawPattern}

theorem code?_eq_invalidPattern (hview : ∀ a, (Answer.ok (view a)).code? = none) :
    (Answer.ofOutcome (result.map view)).code? = some "INVALID_PATTERN" ↔
      ∃ text reason, result = .error (.pattern (.invalid text reason)) := by
  cases result with
  | ok a =>
    have hnone : (Answer.ofOutcome ((.ok a : Except RequestError α).map view)).code? = none := hview a
    simp [hnone]
  | error error =>
    have hanswer : Answer.ofOutcome ((.error error : Except RequestError α).map view) = .ofRequestError error := rfl
    rw [hanswer]
    cases error with
    | pattern error => cases error <;> simp [Answer.ofRequestError, Answer.ofPatternError, code?_broken]
    | _ => simp [Answer.ofRequestError, code?_broken]

/-- A result that is invalid exactly for the first unusable text is answered so. -/
theorem namesFirst_of_result (hview : ∀ a, (Answer.ok (view a)).code? = none)
    (hresult : ∀ text reason, result = .error (.pattern (.invalid text reason)) ↔
      ∃ raw, FirstUnusable compile raws raw ∧ text = raw.text ∧ raw.RefusedFor compile reason) :
    NamesFirst compile raws (.ofOutcome (result.map view)) where
  code_iff := by
    rw [code?_eq_invalidPattern hview]
    simp only [hresult]
    constructor
    · rintro ⟨-, reason, raw, hfirst, -, hrefused⟩
      exact ⟨raw, reason, hfirst, hrefused⟩
    · rintro ⟨raw, reason, hfirst, hrefused⟩
      exact ⟨raw.text, reason, raw, hfirst, rfl, hrefused⟩
  answer_eq raw reason hfirst hrefused := by
    rw [(hresult raw.text reason).2 ⟨raw, hfirst, rfl, hrefused⟩]
    rfl

end Answers

section Routes

variable {settings : Settings} {compile : Compiler} {s : Service} {request : Request}

theorem namesFirst_classifyMeals (hboard : ofSettings settings compile = .ok s.board) {form : ClassifyRequest}
    (h : FillsIn request .classifyMeals classifyRequest form) {query : Option Query}
    (hquery : readOptionalPhrase form.phrase = .ok query) :
    NamesFirst compile (rawsOf form.filter ++ rawsOf form.favorites) (handle s request).answer := by
  rw [answer_classifyMeals h]
  refine namesFirst_of_result (fun meals => rfl) fun text reason => ?_
  rw [classify_eq_pattern, hquery]
  simp only [Except.ok.injEq, exists_eq_left', classifier_eq_invalid hboard]

theorem namesFirst_menu (hboard : ofSettings settings compile = .ok s.board) {form : MenuRequest}
    (h : FillsIn request .menu menuRequest form) {query : Query} {canteens : List Canteen} {day : Calendar.Day}
    (hasked : asked s.board request.today form.phrase = .ok (query, canteens, day)) :
    NamesFirst compile (rawsOf form.filter ++ rawsOf form.favorites) (handle s request).answer := by
  rw [answer_menu h]
  refine namesFirst_of_result (fun answer => rfl) fun text reason => ?_
  rw [lookup_eq_pattern, hasked]
  simp only [Except.ok.injEq, Prod.mk.injEq, and_assoc, exists_and_left, exists_eq_left', classifier_eq_invalid hboard]

end Routes

/-- a phrase sent to a path, with a tag that is unknown behind one that is known, an open bracket, and a number of no tag -/
def sendTags (path phrase : String) (today : Calendar.Day) : Request where
  method := "POST"
  target := path
  body := s!"\x7b\"meals\": [], \"phrase\": \"{phrase}\", " ++
    "\"filter\": \x7b\"deny_names\": [\"(\"], \"deny_tags\": [\"fish\", \"xyz\"]\x7d, " ++
    "\"favorites\": \x7b\"allow_tags\": [\"50\"]\x7d\x7d"
  today := today

/-- the lists of such a request -/
def unknownTags : Overrides := { lists := { denyTags := ["fish", "xyz"], denyNames := ["("] } }

/-- a favorite that is the number of no tag -/
def fiftiethTag : Overrides := { lists := { allowTags := ["50"] } }

theorem firstUnusable_xyz (compile : Compiler) :
    FirstUnusable compile (rawsOf (some unknownTags) ++ rawsOf (some fiftiethTag)) ⟨.tag, "xyz"⟩ ∧
      RawPattern.RefusedFor compile ⟨.tag, "xyz"⟩ "Unknown tag: 'xyz'" := by
  have hfish : Tag.find "fish" = .ok .fish := by decide +kernel
  have hxyz : Tag.find "xyz" = .error (.unknownName "'xyz'") := by decide +kernel
  refine ⟨⟨[⟨.tag, "fish"⟩], _, rfl, ?_, ?_⟩, _, hxyz, rfl⟩
  · intro raw hraw
    obtain rfl := List.mem_singleton.1 hraw
    exact ⟨.fish, hfish⟩
  · rintro ⟨t, ht⟩
    rw [hxyz] at ht
    cases ht

end Web

end MenuBoard
