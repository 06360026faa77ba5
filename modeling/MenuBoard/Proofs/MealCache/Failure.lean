import MenuBoard.Proofs.MealCache.Memo

/-!
When a call for meals fails.

A call ends in a failure exactly if it came to no meal and some source failed in it. So it fails if there are sources
and all of them are asked and fail, and what can be told before the call is enough to see that: as long as sources fail,
the cache stays as it is (`round_failed_iff`).

It fails in one case more. A source that answers without a meal, because the canteen is closed, does not count beside
one that fails (`closed_beside_broken`). Where every source that answers brings a meal, only the failure of all sources
is a failure of the call (`collect_fails_iff`).
-/

namespace MenuBoard.MealCache

open MenuBoard.Calendar

/-- the source was asked and failed -/
def Part.Failed (part : Part) : Prop := ∃ reason, part = .failed reason

/-- the source is asked, as nothing is kept of it that is fresh, and fails -/
def FailsWhenAsked (wish : Wish) (cache : MealCache) (source : Source) : Prop :=
  isDue wish (held cache source.name wish.canteen wish.day) = true ∧
    ∃ reason, (source.ask wish.canteen wish.day).meals = .error reason

section Round

variable {wish : Wish} {sources : List Source} {cache : MealCache}

theorem askedPart_failed_iff {source : Source} :
    (askedPart wish source).Failed ↔ ∃ reason, (source.ask wish.canteen wish.day).meals = .error reason := by
  unfold askedPart
  constructor
  · rintro ⟨reason, h⟩
    split at h
    · cases h
    · next cause hcause => exact ⟨cause, hcause⟩
  · rintro ⟨reason, h⟩
    rw [h]
    exact ⟨reason, rfl⟩

theorem visit_failed_iff {source : Source} : (visit wish source cache).part.Failed ↔ FailsWhenAsked wish cache source := by
  rw [visit_part, FailsWhenAsked, ← askedPart_failed_iff]
  unfold partOf
  split
  · next hdue => exact ⟨fun h => ⟨hdue, h⟩, fun h => h.2⟩
  · next hfresh =>
    constructor
    · rintro ⟨reason, h⟩
      cases h
    · rintro ⟨hdue, -⟩
      exact absurd hdue hfresh

theorem visit_cache_of_failed {source : Source} (h : (visit wish source cache).part.Failed) :
    (visit wish source cache).cache = cache := by
  obtain ⟨reason, hpart⟩ := h
  rw [visit_cache, hpart]

/-- **All sources fail in a round exactly if each of them is asked and fails on its own**: none of them can tell that
others came before it. -/
theorem round_failed_iff : (∀ part ∈ (round wish sources cache).parts, part.Failed) ↔
    ∀ source ∈ sources, FailsWhenAsked wish cache source := by
  induction sources generalizing cache with
  | nil => exact ⟨fun _ source h => absurd h List.not_mem_nil, fun _ part h => absurd h List.not_mem_nil⟩
  | cons source rest ih =>
    have hparts : (round wish (source :: rest) cache).parts =
      (visit wish source cache).part :: (round wish rest (visit wish source cache).cache).parts := rfl
    rw [hparts, List.forall_mem_cons, List.forall_mem_cons, ih]
    refine ⟨fun ⟨hfirst, hrest⟩ => ?_, fun ⟨hfirst, hrest⟩ => ?_⟩
    · rw [visit_cache_of_failed hfirst] at hrest
      exact ⟨visit_failed_iff.1 hfirst, hrest⟩
    · have hfailed := visit_failed_iff.2 hfirst
      rw [visit_cache_of_failed hfailed]
      exact ⟨hfailed, hrest⟩

/-! ## Calls -/

/-- Of as many parts as sources, some is a failure if and only if a failure is reported. -/
theorem failures_ne_nil {parts : List Part} (h : parts.length = sources.length) :
    failures sources parts ≠ [] ↔ ∃ part ∈ parts, part.Failed := by
  induction parts generalizing sources with
  | nil =>
    obtain rfl := List.length_eq_zero_iff.1 h.symm
    simp [failures]
  | cons part parts ih =>
    cases sources with
    | nil => cases h
    | cons source rest =>
      rw [Ne, failures_cons_eq_nil, List.exists_mem_cons_iff, ← ih (Nat.succ.inj h), not_and_or]
      simp [Part.Failed]

theorem collect_eq_error : (∃ failure, (collect wish sources cache).1 = .error failure) ↔
    (∀ part ∈ (collect wish sources cache).2.parts, part.meals = []) ∧
      ∃ part ∈ (collect wish sources cache).2.parts, part.Failed := by
  have hlength : (collect wish sources cache).2.parts.length = sources.length := round_length wish sources cache
  rw [← failures_ne_nil hlength, ← List.flatMap_eq_nil_iff]
  exact outcome_eq_error

theorem collect_eq_ok : (collect wish sources cache).1 = .ok ((collect wish sources cache).2.parts.flatMap Part.meals) ↔
    (∃ part ∈ (collect wish sources cache).2.parts, part.meals ≠ []) ∨
      ∀ part ∈ (collect wish sources cache).2.parts, ¬ part.Failed := by
  have hfails : ¬ (∃ failure, (collect wish sources cache).1 = .error failure) ↔
      (∃ part ∈ (collect wish sources cache).2.parts, part.meals ≠ []) ∨
        ∀ part ∈ (collect wish sources cache).2.parts, ¬ part.Failed := by
    rw [collect_eq_error, not_and_or]
    push Not
    rfl
  rw [← hfails]
  constructor
  · rintro hok ⟨failure, herror⟩
    rw [hok] at herror
    cases herror
  · intro hnot
    cases hcollect : (collect wish sources cache).1 with
    | error failure => exact absurd ⟨failure, hcollect⟩ hnot
    | ok meals => exact congrArg Except.ok (outcome_eq_ok hcollect)

theorem Part.Failed.meals_eq {part : Part} (h : part.Failed) : part.meals = [] := by
  obtain ⟨reason, rfl⟩ := h
  rfl

theorem collect_fails_of_all (hne : sources ≠ []) (h : ∀ source ∈ sources, FailsWhenAsked wish cache source) :
    ∃ failure, (collect wish sources cache).1 = .error failure := by
  have hall : ∀ part ∈ (collect wish sources cache).2.parts, part.Failed := round_failed_iff.2 h
  have hparts : (collect wish sources cache).2.parts ≠ [] := by
    refine List.ne_nil_of_length_pos ?_
    have hlength : (collect wish sources cache).2.parts.length = sources.length := round_length wish sources cache
    rw [hlength]
    exact List.length_pos_of_ne_nil hne
  obtain ⟨part, hpart⟩ := List.exists_mem_of_ne_nil _ hparts
  exact collect_eq_error.2 ⟨fun part hpart => (hall part hpart).meals_eq, part, hpart, hall part hpart⟩

theorem all_fail_of_collect (hmeals : ∀ part ∈ (collect wish sources cache).2.parts, ¬ part.Failed → part.meals ≠ [])
    (h : ∃ failure, (collect wish sources cache).1 = .error failure) :
    sources ≠ [] ∧ ∀ source ∈ sources, FailsWhenAsked wish cache source := by
  obtain ⟨hnone, part, hpart, -⟩ := collect_eq_error.1 h
  constructor
  · rintro rfl
    exact absurd hpart List.not_mem_nil
  · refine round_failed_iff.1 fun part hpart => ?_
    by_contra hanswered
    exact hmeals part hpart hanswered (hnone part hpart)

end Round

/-- **When a call for meals fails**, whatever the cache holds and however the sources behave. It fails exactly if no
source brought a meal and some source was asked and failed, and else returns what all sources brought, kept or given. So it
fails if there are sources and all are asked and fail, and in no other case if every source that answers brings a meal. -/
theorem collect_fails_iff (s : State) (canteen : Whole) (day : Day) :
    let wish := s.wish canteen day
    let called := collect wish s.sources s.cache
    let AllFail := s.sources ≠ [] ∧ ∀ source ∈ s.sources, FailsWhenAsked wish s.cache source
    ((∃ failure, called.1 = .error failure) ↔
      (∀ part ∈ called.2.parts, part.meals = []) ∧ ∃ part ∈ called.2.parts, part.Failed) ∧
    (called.1 = .ok (called.2.parts.flatMap Part.meals) ↔
      (∃ part ∈ called.2.parts, part.meals ≠ []) ∨ ∀ part ∈ called.2.parts, ¬ part.Failed) ∧
    (AllFail → ∃ failure, called.1 = .error failure) ∧
    ((∀ part ∈ called.2.parts, ¬ part.Failed → part.meals ≠ []) →
      ((∃ failure, called.1 = .error failure) ↔ AllFail)) := by
  intro wish called AllFail
  have hfails : AllFail → ∃ failure, called.1 = .error failure := fun ⟨hne, hall⟩ => collect_fails_of_all hne hall
  exact ⟨collect_eq_error, collect_eq_ok, hfails, fun hmeals => ⟨all_fail_of_collect hmeals, hfails⟩⟩

/-- both sources are out of order -/
def bothBroken : State where
  sources := [⟨"OpenMensa", fun _ _ => { meals := .error "slow" }⟩,
    ⟨"OpenMensaMirror", fun _ _ => { meals := .error "offline" }⟩]
  lifetime := 3600

/-- Two sources are out of order: all fail when asked, and so does the call. -/
theorem bothBroken_fails : ∃ day : Day, day.date = (2024, 1, 3) ∧
    let wish := bothBroken.wish (.int 63) day
    let called := collect wish bothBroken.sources bothBroken.cache
    called.2.parts = [.failed "slow", .failed "offline"] ∧
      (bothBroken.sources ≠ [] ∧ ∀ source ∈ bothBroken.sources, FailsWhenAsked wish bothBroken.cache source) ∧
      ∃ failure, called.1 = .error failure := by
  refine ⟨⟨738887, by decide⟩, by decide +kernel, rfl, ?_⟩
  obtain ⟨-, -, hfails, hiff⟩ := collect_fails_iff bothBroken (.int 63) ⟨738887, by decide⟩
  have hmeals : ∀ part ∈ [Part.failed "slow", Part.failed "offline"], ¬ part.Failed → part.meals ≠ [] := by
    intro part hpart hanswered
    simp only [List.mem_cons, List.not_mem_nil, or_false] at hpart
    rcases hpart with rfl | rfl <;> exact absurd ⟨_, rfl⟩ hanswered
  have hall : ∀ source ∈ bothBroken.sources,
      FailsWhenAsked (bothBroken.wish (.int 63) ⟨738887, by decide⟩) bothBroken.cache source := by
    intro source hsource
    simp only [bothBroken, List.mem_cons, List.not_mem_nil, or_false] at hsource
    rcases hsource with rfl | rfl
    · exact ⟨rfl, "slow", rfl⟩
    · exact ⟨rfl, "offline", rfl⟩
  have hfailed := hfails ⟨List.cons_ne_nil _ _, hall⟩
  exact ⟨(hiff hmeals).1 hfailed, hfailed⟩

/-- one source has no meals for a closed canteen, the other is out of order -/
def closedAndBroken : State where
  sources := [⟨"OpenMensa", fun _ _ => { meals := .ok [] }⟩, ⟨"OpenMensaMirror", fun _ _ => { meals := .error "offline" }⟩]
  lifetime := 3600

/-- **An empty answer does not count beside a failure**: the first source answers, and yet the call fails and names it
among its sources. -/
theorem closed_beside_broken : ∃ day : Day, day.date = (2024, 1, 3) ∧
    let wish := closedAndBroken.wish (.int 63) day
    let called := collect wish closedAndBroken.sources closedAndBroken.cache
    called.2.parts = [.given [], .failed "offline"] ∧
      called.1 = .error ⟨["OpenMensa", "OpenMensaMirror"], ["OpenMensaMirror: offline"]⟩ ∧
      ¬ ∀ source ∈ closedAndBroken.sources, FailsWhenAsked wish closedAndBroken.cache source := by
  refine ⟨⟨738887, by decide⟩, by decide +kernel, rfl, rfl, fun hall => ?_⟩
  obtain ⟨-, reason, h⟩ := hall _ List.mem_cons_self
  cases h

end MenuBoard.MealCache
