import MenuBoard.Proofs.Json.Fields
import MenuBoard.Settings.File

/-!
What settings that were read can be relied on for.

Whatever a file and the environment hold, the numbers of canteens that come of them are not negative, and no canteen has
two numbers of the feed (`wellFormed_of_load`). A value that is no such number is left out when it is read.
-/

namespace MenuBoard.Settings

/-- each canteen has one number of the feed, and none of the numbers is negative -/
structure IsMapping (pairs : List (Int × Whole)) : Prop where
  distinct : (pairs.map Prod.fst).Nodup
  natural : ∀ pair ∈ pairs, 0 ≤ pair.1 ∧ 0 ≤ pair.2.toInt

structure WellFormed (s : Settings) : Prop where
  feedIds : IsMapping s.feedIds
  canteen : ∀ n, s.defaultCanteen = some (.number n) → 0 ≤ n.toInt

/-! ## Canteens -/

theorem natural?_nonneg {v : Json} {n : Whole} (h : natural? v = some n) : 0 ≤ n.toInt := by
  obtain ⟨-, hle⟩ := Option.filter_eq_some_iff.1 h
  exact of_decide_eq_true hle

/-- A value that names a canteen by its number is that number. -/
theorem natural?_of_readCanteen {v : Json} {n : Whole} (h : (readCanteen v).1 = some (.number n)) : natural? v = some n := by
  unfold readCanteen at h
  cases hnatural : natural? v with
  | none =>
    simp only [hnatural] at h
    split at h
    · cases h
    · split at h <;> cases h
    · cases h
  | some m =>
    simp only [hnatural] at h
    split at h
    · cases h
    · split at h
      · cases h
      · cases h
        rfl
    · cases h
      rfl

theorem canteenFrom_nonneg {environment : Environment} {unset : Option DefaultCanteen} {n : Whole}
    (hunset : unset = some (.number n) → 0 ≤ n.toInt) (h : (canteenFrom environment unset).1 = some (.number n)) :
    0 ≤ n.toInt := by
  unfold canteenFrom at h
  split at h
  · exact natural?_nonneg (natural?_of_readCanteen h)
  · exact hunset h

/-! ## Numbers of the feed -/

theorem setFeedId_eq_assign (canteen : Int) (target : Whole) (held : List (Int × Whole)) :
    setFeedId canteen target held = assign canteen target held := by
  induction held with
  | nil => rfl
  | cons pair rest ih =>
    obtain ⟨c, t⟩ := pair
    unfold setFeedId assign
    by_cases hc : c = canteen <;> simp [hc, ih]

/-- A pair takes the place of another one for its canteen, so the canteens stay distinct. -/
theorem IsMapping.set {pairs : List (Int × Whole)} (h : IsMapping pairs) {canteen : Int} {target : Whole}
    (hcanteen : 0 ≤ canteen) (htarget : 0 ≤ target.toInt) : IsMapping (setFeedId canteen target pairs) := by
  rw [setFeedId_eq_assign]
  refine ⟨nodup_assign canteen target h.distinct, fun pair hpair => ?_⟩
  rcases mem_assign hpair with rfl | hpair
  · exact ⟨hcanteen, htarget⟩
  · exact h.natural pair hpair

/-- A pair is added if both of its sides are natural numbers, and else left out. -/
theorem IsMapping.add {acc : List (Int × Whole) × List Notice} (h : IsMapping acc.1) (pair : String × Json) :
    IsMapping (addFeedId acc pair).1 := by
  unfold addFeedId
  split
  · next canteen target hcanteen htarget => exact h.set (natural?_nonneg hcanteen) (natural?_nonneg htarget)
  · exact h

theorem IsMapping.foldl_add {acc : List (Int × Whole) × List Notice} (h : IsMapping acc.1) (pairs : List (String × Json)) :
    IsMapping (pairs.foldl addFeedId acc).1 := by
  induction pairs generalizing acc with
  | nil => exact h
  | cons pair pairs ih => exact ih (h.add pair)

theorem isMapping_nil : IsMapping [] := ⟨List.nodup_nil, fun _ h => by cases h⟩

theorem isMapping_of_readFeedIds {v : Json} {ids : List (Int × Whole)} {notices : List Notice}
    (h : readFeedIds v = .ok (ids, notices)) : IsMapping ids := by
  unfold readFeedIds at h
  split at h
  · cases h
    exact isMapping_nil
  · cases v with
    | object pairs =>
      obtain rfl : (pairs.foldl addFeedId ([], [])).1 = ids := congrArg Prod.fst (Except.ok.inj h)
      exact isMapping_nil.foldl_add pairs
    | null | bool | int | real | str | list => cases h

/-! ## Settings -/

theorem wellFormed_of_ofJson {v : Json} {settings : Settings} {notices : List Notice}
    (h : ofJson v = .ok (settings, notices)) : settings.WellFormed := by
  obtain ⟨fields, -, h⟩ := bind_eq_ok.1 h
  obtain ⟨filter, -, h⟩ := bind_eq_ok.1 h
  obtain ⟨favorites, -, h⟩ := bind_eq_ok.1 h
  obtain ⟨⟨ids, idNotices⟩, hids, h⟩ := bind_eq_ok.1 h
  cases h
  exact ⟨isMapping_of_readFeedIds hids, fun n hn => natural?_nonneg (natural?_of_readCanteen hn)⟩

/-- The environment sets no numbers of the feed, and a canteen only as a file may. -/
theorem WellFormed.withEnvironment {settings : Settings} (h : settings.WellFormed) (environment : Environment) :
    (settings.withEnvironment environment).1.WellFormed :=
  ⟨h.feedIds, fun n => canteenFrom_nonneg (h.canteen n)⟩

/-- **Settings that were read are well-formed**, whatever files there are and whatever the environment holds. -/
theorem wellFormed_of_load {files : Files} {given : Option String} {environment : Environment} {settings : Settings}
    {notices : List Notice} (h : load files given environment = .ok (settings, notices)) : settings.WellFormed := by
  obtain ⟨⟨value, fileNotices⟩, -, h⟩ := bind_eq_ok.1 h
  obtain ⟨⟨read, valueNotices⟩, hread, h⟩ := bind_eq_ok.1 h
  cases h
  exact (wellFormed_of_ofJson hread).withEnvironment environment

end MenuBoard.Settings
