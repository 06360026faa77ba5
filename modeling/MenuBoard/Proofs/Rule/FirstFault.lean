import MenuBoard.Proofs.Rule.Joining

/-!
The first unusable text of rule lists.

A text is meant to be the name of a tag or a regular expression, for the category or for the name of a meal
(`RawPattern`). `Usable` and `RefusedFor` say what may become of it without the function that reads it. Lists are read in
one row, tags before categories before names and all allow lists before the deny lists, so they describe a rule set exactly
if every text is usable, and otherwise the first that is not is named (`namesFirst`). This holds whichever compiler says
what a regular expression is.
-/

namespace MenuBoard.Rule

open MenuBoard.Regex

/-! ## Texts that are meant to be patterns -/

/-- what a text of rule lists is meant to be -/
inductive Kind where
  | tag | category | name
  deriving DecidableEq, Repr

/-- a text, and what it is meant to be -/
structure RawPattern where
  kind : Kind
  text : String
  deriving DecidableEq, Repr

namespace RawPattern

def read (compile : Compiler) (raw : RawPattern) : Except PatternError Pattern :=
  match raw.kind with
  | .tag => Pattern.ofTag raw.text
  | .category => Pattern.ofCategory raw.text compile
  | .name => Pattern.ofName raw.text compile

/-- There is such a tag, or the regular expression can be compiled. -/
def Usable (compile : Compiler) (raw : RawPattern) : Prop :=
  match raw.kind with
  | .tag => ∃ t, Tag.find raw.text = .ok t
  | .category | .name => ∃ regex, compile raw.text = .ok regex

/-- There is no such tag, or the regular expression is malformed, for this reason. -/
def RefusedFor (compile : Compiler) (raw : RawPattern) (reason : String) : Prop :=
  match raw.kind with
  | .tag => ∃ error, Tag.find raw.text = .error error ∧ reason = error.message
  | .category | .name => ∃ problem offset, compile raw.text = .error (.fault problem offset) ∧
      reason = (CompileError.fault problem offset).message raw.text.toList

variable {compile : Compiler} {raw : RawPattern} {text reason : String}

theorem ofTag_eq_ok : (∃ p, Pattern.ofTag text = .ok p) ↔ ∃ t, Tag.find text = .ok t := by
  unfold Pattern.ofTag
  cases Tag.find text <;> simp

theorem compileRegex_eq_ok {regex : Regex} : compileRegex text compile = .ok regex ↔ compile text = .ok regex := by
  unfold compileRegex
  cases compile text with
  | ok regex' => simp
  | error error => cases error <;> simp

theorem map_compileRegex_eq_ok {make : Regex → Pattern} :
    (∃ p, (compileRegex text compile).map make = .ok p) ↔ ∃ regex, compile text = .ok regex := by
  constructor
  · intro h
    obtain ⟨p, hp⟩ := h
    obtain ⟨regex, hregex, -⟩ := map_eq_ok.1 hp
    exact ⟨regex, compileRegex_eq_ok.1 hregex⟩
  · intro h
    obtain ⟨regex, hregex⟩ := h
    exact ⟨make regex, map_eq_ok.2 ⟨regex, compileRegex_eq_ok.2 hregex, rfl⟩⟩

theorem read_eq_ok : (∃ p, raw.read compile = .ok p) ↔ raw.Usable compile := by
  obtain ⟨kind, text⟩ := raw
  cases kind with
  | tag => exact ofTag_eq_ok
  | category => exact map_compileRegex_eq_ok
  | name => exact map_compileRegex_eq_ok

theorem ofTag_eq_invalid {named : String} : Pattern.ofTag text = .error (.invalid named reason) ↔
    named = text ∧ ∃ error, Tag.find text = .error error ∧ reason = error.message := by
  unfold Pattern.ofTag
  cases Tag.find text with
  | ok t => simp
  | error error => simp [eq_comm]

theorem compileRegex_eq_invalid {named : String} : compileRegex text compile = .error (.invalid named reason) ↔
    named = text ∧ ∃ problem offset, compile text = .error (.fault problem offset) ∧
      reason = (CompileError.fault problem offset).message text.toList := by
  unfold compileRegex
  cases compile text with
  | ok regex => simp
  | error error => cases error <;> simp [eq_comm]

/-- Whatever is refused as invalid is refused under its own text. -/
theorem read_eq_invalid {named : String} :
    raw.read compile = .error (.invalid named reason) ↔ named = raw.text ∧ raw.RefusedFor compile reason := by
  obtain ⟨kind, text⟩ := raw
  cases kind with
  | tag => exact ofTag_eq_invalid
  | category => exact map_eq_error.trans compileRegex_eq_invalid
  | name => exact map_eq_error.trans compileRegex_eq_invalid

end RawPattern

/-! ## The first that is unusable -/

/-- The text is unusable, and all those before it are usable. -/
def FirstUnusable (compile : Compiler) (raws : List RawPattern) (raw : RawPattern) : Prop :=
  ∃ before after, raws = before ++ raw :: after ∧ (∀ b ∈ before, b.Usable compile) ∧ ¬ raw.Usable compile

section Row

variable {compile : Compiler} {raws : List RawPattern} {raw : RawPattern} {e : PatternError}

/-- A row of texts fails as the first unusable one does. -/
theorem mapM_read_eq_error : raws.mapM (RawPattern.read compile) = .error e ↔
    ∃ raw, FirstUnusable compile raws raw ∧ raw.read compile = .error e := by
  rw [mapM_eq_error_iff]
  simp only [RawPattern.read_eq_ok]
  constructor
  · rintro ⟨before, raw, after, hsplit, hbefore, he⟩
    refine ⟨raw, ⟨before, after, hsplit, hbefore, fun husable => ?_⟩, he⟩
    obtain ⟨p, hp⟩ := RawPattern.read_eq_ok.2 husable
    rw [he] at hp
    cases hp
  · rintro ⟨raw, ⟨before, after, hsplit, hbefore, -⟩, he⟩
    exact ⟨before, raw, after, hsplit, hbefore, he⟩

theorem FirstUnusable.exists_error (h : FirstUnusable compile raws raw) : ∃ e, raw.read compile = .error e := by
  obtain ⟨-, -, -, -, hraw⟩ := h
  cases hread : raw.read compile with
  | ok p => exact absurd (RawPattern.read_eq_ok.1 ⟨p, hread⟩) hraw
  | error e => exact ⟨e, rfl⟩

/-- Where a text is unusable, one is the first. -/
theorem exists_firstUnusable (h : ¬ ∀ raw ∈ raws, raw.Usable compile) : ∃ raw, FirstUnusable compile raws raw := by
  cases hrow : raws.mapM (RawPattern.read compile) with
  | ok ps => exact absurd (fun raw hraw => RawPattern.read_eq_ok.1 (ok_of_mapM_eq_ok hrow hraw)) h
  | error e =>
    obtain ⟨raw, hfirst, -⟩ := mapM_read_eq_error.1 hrow
    exact ⟨raw, hfirst⟩

end Row

/-! ## Lists -/

namespace RuleLists

/-- the texts of one side -/
def side (tags categories names : List String) : List RawPattern :=
  tags.map (⟨.tag, ·⟩) ++ categories.map (⟨.category, ·⟩) ++ names.map (⟨.name, ·⟩)

/-- the texts in the order in which they are read -/
def raws (lists : RuleLists) : List RawPattern :=
  side lists.allowTags lists.allowCategories lists.allowNames ++ side lists.denyTags lists.denyCategories lists.denyNames

/-- Lists describe a rule set exactly if every text is usable. What they fail with as invalid is the first one that is not,
for the reason that it is refused for; they fail with nothing else if that one is refused as invalid. -/
structure NamesFirst (compile : Compiler) (lists : RuleLists) : Prop where
  ok_iff : (∃ rules, lists.toRuleSet compile = .ok rules) ↔ ∀ raw ∈ lists.raws, raw.Usable compile
  invalid_iff : ∀ text reason, lists.toRuleSet compile = .error (.invalid text reason) ↔
    ∃ raw, FirstUnusable compile lists.raws raw ∧ text = raw.text ∧ raw.RefusedFor compile reason
  total : (∀ raw, FirstUnusable compile lists.raws raw → ∃ reason, raw.RefusedFor compile reason) →
    (∃ rules, lists.toRuleSet compile = .ok rules) ∨
      ∃ text reason, lists.toRuleSet compile = .error (.invalid text reason)

variable {compile : Compiler} {lists : RuleLists} {e : PatternError}

theorem map_read_side (tags categories names : List String) :
    (side tags categories names).map (RawPattern.read compile) = patterns compile tags categories names := by
  simp only [side, patterns, List.map_append, List.map_map]
  rfl

theorem mapM_side (tags categories names : List String) :
    (side tags categories names).mapM (RawPattern.read compile) = (patterns compile tags categories names).mapM id := by
  rw [← map_read_side, List.mapM_map]
  rfl

/-- The lists fail as the row of their texts does. -/
theorem toRuleSet_eq_error :
    lists.toRuleSet compile = .error e ↔ lists.raws.mapM (RawPattern.read compile) = .error e := by
  rw [toRuleSet_eq, raws, List.mapM_append, mapM_side, mapM_side]
  rw [bind_eq_error, bind_eq_error]
  refine or_congr_right (exists_congr fun allow => and_congr_right fun _ => ?_)
  rw [bind_eq_error, bind_eq_error]
  refine or_congr_right (exists_congr fun deny => and_congr_right fun _ => ?_)
  -- what is left puts the patterns together, and does not fail
  exact ⟨fun h => (by cases h), fun h => (by cases h)⟩

theorem toRuleSet_eq_invalid {text reason : String} : lists.toRuleSet compile = .error (.invalid text reason) ↔
    ∃ raw, FirstUnusable compile lists.raws raw ∧ text = raw.text ∧ raw.RefusedFor compile reason := by
  simp only [toRuleSet_eq_error, mapM_read_eq_error, RawPattern.read_eq_invalid]

theorem toRuleSet_eq_ok :
    (∃ rules, lists.toRuleSet compile = .ok rules) ↔ ∀ raw ∈ lists.raws, raw.Usable compile := by
  constructor
  · rintro ⟨rules, hrules⟩
    by_contra hsome
    obtain ⟨raw, hfirst⟩ := exists_firstUnusable hsome
    obtain ⟨e, he⟩ := hfirst.exists_error
    rw [toRuleSet_eq_error.2 (mapM_read_eq_error.2 ⟨raw, hfirst, he⟩)] at hrules
    cases hrules
  · intro husable
    cases hlists : lists.toRuleSet compile with
    | ok rules => exact ⟨rules, rfl⟩
    | error e =>
      obtain ⟨raw, ⟨before, after, hsplit, -, hraw⟩, -⟩ := mapM_read_eq_error.1 (toRuleSet_eq_error.1 hlists)
      exact absurd (husable raw (hsplit ▸ List.mem_append_right before List.mem_cons_self)) hraw

theorem namesFirst (compile : Compiler) (lists : RuleLists) : NamesFirst compile lists where
  ok_iff := toRuleSet_eq_ok
  invalid_iff _ _ := toRuleSet_eq_invalid
  total hrefused := by
    by_cases husable : ∀ raw ∈ lists.raws, raw.Usable compile
    · exact .inl (toRuleSet_eq_ok.2 husable)
    · obtain ⟨raw, hfirst⟩ := exists_firstUnusable husable
      obtain ⟨reason, hreason⟩ := hrefused raw hfirst
      exact .inr ⟨raw.text, reason, toRuleSet_eq_invalid.2 ⟨raw, hfirst, rfl, hreason⟩⟩

end RuleLists

end MenuBoard.Rule
