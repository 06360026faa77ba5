import MenuBoard.Proofs.MealCache.Memo

/-!
Where kept meals come from: a property of all meals that the sources give is one of all meals that the cache holds and
of all that a call brings.
-/

namespace MenuBoard.MealCache

open MenuBoard.Calendar

/-- every meal in the cache has the property -/
def AllMeals (P : Meal → Prop) (cache : MealCache) : Prop := ∀ e ∈ cache, ∀ meal ∈ e.meals, P meal

/-- every meal that the source gives has the property -/
def GivesOnly (P : Meal → Prop) (source : Source) : Prop :=
  ∀ canteen day meals, (source.ask canteen day).meals = .ok meals → ∀ meal ∈ meals, P meal

section Property

variable {P Q : Meal → Prop} {cache : MealCache}

theorem AllMeals.mono (h : AllMeals P cache) (hPQ : ∀ meal, P meal → Q meal) : AllMeals Q cache :=
  fun e he meal hmeal => hPQ meal (h e he meal hmeal)

theorem AllMeals.insert (h : AllMeals P cache) {e : CacheEntry} (he : ∀ meal ∈ e.meals, P meal) :
    AllMeals P (cache.insert e) := by
  intro e' he' meal hmeal
  rcases mem_insert he' with hmem | ⟨-, hmeals, -⟩
  · exact h e' hmem meal hmeal
  · rw [hmeals] at hmeal
    exact he meal hmeal

theorem AllMeals.held (h : AllMeals P cache) {source : String} {canteen : Whole} {day : Day} {time : Int}
    {meals : List Meal} (hheld : held cache source canteen day = some (time, meals)) : ∀ meal ∈ meals, P meal := by
  obtain ⟨e, hfind, heq⟩ := Option.map_eq_some_iff.1 hheld
  obtain ⟨-, rfl⟩ := Prod.mk.inj heq
  exact h e (List.mem_of_find?_eq_some hfind)

theorem AllMeals.visit (h : AllMeals P cache) (wish : Wish) {source : Source} (hsource : GivesOnly P source) :
    (∀ meal ∈ (visit wish source cache).part.meals, P meal) ∧ AllMeals P (visit wish source cache).cache := by
  have hpart : ∀ meal ∈ (MealCache.visit wish source cache).part.meals, P meal := by
    rw [visit_part]
    unfold partOf
    split
    · unfold askedPart
      split
      · next meals hmeals => exact hsource wish.canteen wish.day meals hmeals
      · exact fun meal hmeal => absurd hmeal List.not_mem_nil
    · cases hheld : MealCache.held cache source.name wish.canteen wish.day with
      | none => exact fun meal hmeal => absurd hmeal List.not_mem_nil
      | some known =>
        obtain ⟨time, meals⟩ := known
        exact h.held hheld
  refine ⟨hpart, ?_⟩
  rw [visit_cache]
  split
  · next meals hmeals =>
    rw [hmeals] at hpart
    exact h.insert hpart
  · exact h

theorem AllMeals.round (h : AllMeals P cache) (wish : Wish) {sources : List Source}
    (hsources : ∀ source ∈ sources, GivesOnly P source) :
    (∀ part ∈ (round wish sources cache).parts, ∀ meal ∈ part.meals, P meal) ∧
      AllMeals P (round wish sources cache).cache := by
  induction sources generalizing cache with
  | nil => exact ⟨fun part hpart => absurd hpart List.not_mem_nil, h⟩
  | cons source rest ih =>
    obtain ⟨hfirst, hcache⟩ := h.visit wish (hsources source List.mem_cons_self)
    obtain ⟨hlater, hdone⟩ := ih hcache fun other hother => hsources other (List.mem_cons_of_mem _ hother)
    refine ⟨fun part hpart => ?_, hdone⟩
    rcases List.mem_cons.1 hpart with rfl | hpart
    · exact hfirst
    · exact hlater part hpart

/-- The meals that a call brings, and those of the cache it leaves. -/
theorem AllMeals.collect (h : AllMeals P cache) (wish : Wish) {sources : List Source}
    (hsources : ∀ source ∈ sources, GivesOnly P source) :
    (∀ meals, (collect wish sources cache).1 = .ok meals → ∀ meal ∈ meals, P meal) ∧
      AllMeals P (collect wish sources cache).2.cache := by
  obtain ⟨hparts, hcache⟩ := h.round wish hsources
  refine ⟨fun meals hmeals meal hmeal => ?_, hcache⟩
  rw [outcome_eq_ok hmeals] at hmeal
  obtain ⟨part, hpart, hmem⟩ := List.mem_flatMap.1 hmeal
  exact hparts part hpart meal hmem

end Property

end MenuBoard.MealCache
