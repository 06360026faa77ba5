import Mathlib.Data.List.Perm.Basic
import MenuBoard.Proofs.Except
import MenuBoard.Rule.Lists

/-!
Joining lists of texts, and joining the rule sets that they describe.

Lists that are joined describe the patterns of both, in an order of their own: kind by kind, and not side by side. Where
they describe nothing, one of the two describes nothing, and for the same reason (`toRuleSet_joined`). The order does not
matter to a decision (`SamePatterns.evaluate_eq`), so joining before or after is the same to every meal.

`Merges` says so of computations that may fail. It is kept when they are run one after the other (`Merges.bind`), so that
it need only be shown of a single list (`merges_mapM`).
-/

namespace MenuBoard

/-- The third computation comes to what the first two come to together, or fails as one of them does. -/
inductive Merges {ε α β γ : Type} (Together : α → β → γ → Prop) : Except ε α → Except ε β → Except ε γ → Prop where
  | ok {a : α} {b : β} {c : γ} : Together a b c → Merges Together (.ok a) (.ok b) (.ok c)
  | left {e : ε} {y : Except ε β} : Merges Together (.error e) y (.error e)
  | right {e : ε} {x : Except ε α} : Merges Together x (.error e) (.error e)

section Merges

variable {ε α β γ α' β' γ' : Type} {Together : α → β → γ → Prop} {Together' : α' → β' → γ' → Prop} {x : Except ε α}
  {y : Except ε β} {z : Except ε γ}

theorem Merges.bind (h : Merges Together x y z) {f : α → Except ε α'} {g : β → Except ε β'} {k : γ → Except ε γ'}
    (hnext : ∀ a b c, Together a b c → Merges Together' (f a) (g b) (k c)) :
    Merges Together' (x >>= f) (y >>= g) (z >>= k) := by
  cases h with
  | ok htogether => exact hnext _ _ _ htogether
  | left => exact .left
  | right => exact .right

theorem Merges.ok_iff (h : Merges Together x y z) : (∃ c, z = .ok c) ↔ (∃ a, x = .ok a) ∧ ∃ b, y = .ok b := by
  cases h <;> simp

theorem Merges.of_ok (h : Merges Together x y z) {a : α} {b : β} {c : γ} (hx : x = .ok a) (hy : y = .ok b) (hz : z = .ok c) :
    Together a b c := by
  subst hx hy hz
  cases h with
  | ok htogether => exact htogether

theorem Merges.of_error (h : Merges Together x y z) {e : ε} (hz : z = .error e) : x = .error e ∨ y = .error e := by
  subst hz
  cases h with
  | left => exact .inl rfl
  | right => exact .inr rfl

/-- Beside a computation that succeeds, the merged one fails as the other one does. -/
theorem Merges.error_iff (h : Merges Together x y z) {a : α} (hx : x = .ok a) {e : ε} : z = .error e ↔ y = .error e := by
  subst hx
  cases h with
  | ok _ => exact ⟨fun h => (by cases h), fun h => (by cases h)⟩
  | right =>
    constructor
    · exact fun h => congrArg Except.error (Except.error.inj h)
    · exact fun h => congrArg Except.error (Except.error.inj h)

/-- The items of two lists, taken through a step that may fail, and those of both lists at once. -/
theorem merges_mapM (f : α → Except ε β) (a b : List α) :
    Merges (fun p q r => r = p ++ q) (a.mapM f) (b.mapM f) ((a ++ b).mapM f) := by
  rw [List.mapM_append]
  cases a.mapM f with
  | error e => exact .left
  | ok p =>
    cases b.mapM f with
    | error e => exact .right
    | ok q => exact .ok rfl

end Merges

namespace Rule

/-! ## Order of patterns -/

/-- the same patterns in whatever order -/
structure SamePatterns (r s : RuleSet) : Prop where
  allow : r.allow.Perm s.allow
  deny : r.deny.Perm s.deny

namespace SamePatterns

variable {r s : RuleSet}

theorem evaluate_eq (h : SamePatterns r s) (meal : Meal) : r.evaluate meal = s.evaluate meal := by
  unfold RuleSet.evaluate
  rw [h.allow.isEmpty_eq, h.allow.any_eq, h.deny.any_eq]

theorem hasAllow_eq (h : SamePatterns r s) : r.hasAllow = s.hasAllow := congrArg (!·) h.allow.isEmpty_eq

theorem isEmpty_eq (h : SamePatterns r s) : r.isEmpty = s.isEmpty := by
  unfold RuleSet.isEmpty
  rw [h.allow.isEmpty_eq, h.deny.isEmpty_eq]

end SamePatterns

theorem perm_exchange {α : Type} (a b c d : List α) : ((a ++ b) ++ (c ++ d)).Perm ((a ++ c) ++ (b ++ d)) := by
  rw [List.append_assoc, List.append_assoc]
  exact (List.perm_append_comm_assoc b c d).append_left a

/-! ## Patterns of three kinds -/

section Patterns

variable (compile : Compiler)

/-- the patterns of texts of three kinds, or why a text is none, in their order -/
def patterns (tags categories names : List String) : List (Except PatternError Pattern) :=
  tags.map Pattern.ofTag ++ categories.map (Pattern.ofCategory · compile) ++ names.map (Pattern.ofName · compile)

theorem mapM_patterns (tags categories names : List String) : (patterns compile tags categories names).mapM id = do
    let p ← tags.mapM Pattern.ofTag
    let q ← categories.mapM (Pattern.ofCategory · compile)
    let r ← names.mapM (Pattern.ofName · compile)
    return p ++ q ++ r := by
  simp [patterns, List.mapM_append, List.mapM_map]

theorem merges_patterns (tags tags' categories categories' names names' : List String) :
    Merges (fun p q r => r.Perm (p ++ q)) ((patterns compile tags categories names).mapM id)
      ((patterns compile tags' categories' names').mapM id)
      ((patterns compile (tags ++ tags') (categories ++ categories') (names ++ names')).mapM id) := by
  rw [mapM_patterns, mapM_patterns, mapM_patterns]
  refine (merges_mapM Pattern.ofTag tags tags').bind fun p p' _ hp => ?_
  refine (merges_mapM (Pattern.ofCategory · compile) categories categories').bind fun q q' _ hq => ?_
  refine (merges_mapM (Pattern.ofName · compile) names names').bind fun r r' _ hr => ?_
  subst hp hq hr
  exact .ok (((perm_exchange p p' q q').append_right _).trans (perm_exchange (p ++ q) (p' ++ q') r r'))

theorem error_mem_patterns {tags categories names : List String} {e : PatternError} :
    .error e ∈ patterns compile tags categories names ↔
      (∃ text ∈ tags, Pattern.ofTag text = .error e) ∨ ∃ text ∈ categories ++ names, compileRegex text compile = .error e := by
  simp only [patterns, List.mem_append, List.mem_map, Pattern.ofCategory, Pattern.ofName, map_eq_error, or_assoc, or_and_right,
    exists_or]

end Patterns

namespace RuleLists

/-! ## Joined lists -/

theorem toRuleSet_eq (lists : RuleLists) (compile : Compiler) : lists.toRuleSet compile = do
    let allow ← (patterns compile lists.allowTags lists.allowCategories lists.allowNames).mapM id
    let deny ← (patterns compile lists.denyTags lists.denyCategories lists.denyNames).mapM id
    return ⟨allow, deny⟩ := by
  rw [mapM_patterns, mapM_patterns]
  simp [toRuleSet]

/-- **Joined lists describe the patterns of both, or fail as one of them does.** -/
theorem toRuleSet_joined (a b : RuleLists) (compile : Compiler) : Merges (fun r s t => SamePatterns t (r.joined s))
    (a.toRuleSet compile) (b.toRuleSet compile) ((a.joined b).toRuleSet compile) := by
  -- first all allow lists, then all deny lists, as they are made
  rw [toRuleSet_eq, toRuleSet_eq, toRuleSet_eq]
  refine (merges_patterns compile _ _ _ _ _ _).bind fun allow allow' _ hallow => ?_
  refine (merges_patterns compile _ _ _ _ _ _).bind fun deny deny' _ hdeny => ?_
  exact .ok ⟨hallow, hdeny⟩

/-! ## Faulty texts -/

/-- the texts that should be names of tags -/
def tagTexts (lists : RuleLists) : List String := lists.allowTags ++ lists.denyTags

/-- the texts that should be regular expressions -/
def regexTexts (lists : RuleLists) : List String :=
  (lists.allowCategories ++ lists.allowNames) ++ (lists.denyCategories ++ lists.denyNames)

/-- a text of the lists is no pattern of its kind, for this reason -/
def Faulty (lists : RuleLists) (e : PatternError) : Prop :=
  (∃ text ∈ lists.tagTexts, Pattern.ofTag text = .error e) ∨ ∃ text ∈ lists.regexTexts, compileRegex text = .error e

/-- No regular expression of the lists is refused but as invalid. -/
def OnlyInvalid (lists : RuleLists) : Prop :=
  ∀ text ∈ lists.regexTexts, ∀ e, compileRegex text = .error e → ∃ reason, e = .invalid text reason

section Faulty

variable {lists : RuleLists} {e : PatternError}

theorem faulty_iff : lists.Faulty e ↔
    .error e ∈ patterns Regex.compile lists.allowTags lists.allowCategories lists.allowNames ∨
      .error e ∈ patterns Regex.compile lists.denyTags lists.denyCategories lists.denyNames := by
  simp only [Faulty, tagTexts, regexTexts, error_mem_patterns, List.mem_append, or_and_right, exists_or]
  grind

theorem faulty_of_toRuleSet (h : lists.toRuleSet = .error e) : lists.Faulty e := by
  rw [toRuleSet_eq] at h
  rw [faulty_iff]
  rcases bind_eq_error.1 h with hallow | ⟨allow, -, h⟩
  · obtain ⟨_, hmem, rfl⟩ := exists_of_mapM_eq_error hallow
    exact .inl hmem
  · rcases bind_eq_error.1 h with hdeny | ⟨deny, -, h⟩
    · obtain ⟨_, hmem, rfl⟩ := exists_of_mapM_eq_error hdeny
      exact .inr hmem
    · cases h

/-- **Lists describe nothing exactly if one of their texts is faulty.** -/
theorem toRuleSet_fails_iff : (∃ e, lists.toRuleSet = .error e) ↔ ∃ e, lists.Faulty e := by
  constructor
  · exact fun ⟨e, h⟩ => ⟨e, faulty_of_toRuleSet h⟩
  · rintro ⟨e, hfaulty⟩
    cases h : lists.toRuleSet with
    | error e' => exact ⟨e', rfl⟩
    | ok rules =>
      rw [toRuleSet_eq] at h
      obtain ⟨allow, hallow, h⟩ := bind_eq_ok.1 h
      obtain ⟨deny, hdeny, h⟩ := bind_eq_ok.1 h
      rcases faulty_iff.1 hfaulty with hmem | hmem
      · obtain ⟨_, hok⟩ := ok_of_mapM_eq_ok hallow hmem
        cases hok
      · obtain ⟨_, hok⟩ := ok_of_mapM_eq_ok hdeny hmem
        cases hok

/-- A fault names its text, unless a regular expression is refused for another reason. -/
theorem Faulty.exists_invalid (h : lists.Faulty e) (hinvalid : lists.OnlyInvalid) :
    ∃ text ∈ lists.tagTexts ++ lists.regexTexts, ∃ reason, e = .invalid text reason := by
  rcases h with ⟨text, hmem, htag⟩ | ⟨text, hmem, hregex⟩
  · refine ⟨text, List.mem_append_left _ hmem, ?_⟩
    unfold Pattern.ofTag at htag
    split at htag
    · cases htag
    · exact ⟨_, (Except.error.inj htag).symm⟩
  · exact ⟨text, List.mem_append_right _ hmem, hinvalid text hmem e hregex⟩

end Faulty

end RuleLists

end Rule

end MenuBoard
