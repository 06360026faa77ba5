import MenuBoard.Proofs.MealCache.Memo

/-!
Asking for one canteen after another.

The cache tells canteens apart by what their numbers count as, a source by how they are spelled. Where this comes to the
same, what asking for a canteen brings does not depend on a canteen that was asked for at the same moment before it
(`collect_of_collect`): if it was another one, nothing is kept that concerns this one, and if it was the same one, what
is kept is what the source gives again.
-/

namespace MenuBoard.MealCache

open MenuBoard.Calendar

section Single

variable {wish : Wish} {source : Source} {cache : MealCache} {meals : List Meal}

theorem collect_singleton (wish : Wish) (source : Source) (cache : MealCache) :
    (collect wish [source] cache).1 =
      outcome [source] [partOf wish (held cache source.name wish.canteen wish.day) source] := by
  rw [← visit_part]
  rfl

theorem askedPart_of_given {known : Known} (h : partOf wish known source = .given meals) :
    askedPart wish source = .given meals := by
  unfold partOf at h
  split at h
  · exact h
  · cases h

/-- Meals that a source gave just now are kept, or it gives them again. -/
theorem outcome_given_again (h : askedPart wish source = .given meals) :
    outcome [source] [partOf wish (some (wish.now, meals)) source] = outcome [source] [.given meals] := by
  unfold partOf
  split
  · rw [h]
  · rfl

/-- **Asking for a canteen changes nothing about what asking for another one brings.** -/
theorem collect_of_collect {canteen : Whole} (hsame : wish.canteen.toInt = canteen.toInt → wish.canteen = canteen) :
    (collect { wish with canteen } [source] (collect wish [source] cache).2.cache).1 =
      (collect { wish with canteen } [source] cache).1 := by
  have hcache : (collect wish [source] cache).2.cache = (visit wish source cache).cache := rfl
  rw [collect_singleton, collect_singleton, hcache, visit_cache]
  cases hpart : (visit wish source cache).part with
  | kept meals => rfl
  | failed reason => rfl
  | given meals =>
    rw [visit_part] at hpart
    simp only [held_insert]
    split
    · next hfor =>
      -- the new entry is for this canteen, so it was this canteen that was asked for
      obtain ⟨-, hcount, -⟩ := isFor_iff.1 hfor
      obtain rfl := hsame hcount
      calc outcome [source] [partOf wish (some (wish.now, meals)) source]
          = outcome [source] [.given meals] := outcome_given_again (askedPart_of_given hpart)
        _ = outcome [source] [partOf wish (held cache source.name wish.canteen wish.day) source] := by rw [hpart]
    · rfl

end Single

end MenuBoard.MealCache
