import MenuBoard.Board.Service
import MenuBoard.Proofs.Board.Rejection
import MenuBoard.Proofs.Board.Within
import MenuBoard.Proofs.MealCache.Repeat

/-!
Asking for all canteens at once.

From a single source, the menus of several canteens are those that each of them has for itself at the same moment
(`outcome_serve`): what was fetched for the earlier ones changes nothing for the later ones. A lookup of one canteen or of
all of them settles the same day and the same rules, so all canteens at once have the menus of each, and fail as the first
of them does (`lookup_everywhere`).

The last step needs feed numbers of which no two count the same without being spelled the same, as `1` and `true` do:
the feed is asked by the spelling, and the cache goes by the count (`lookup_everywhere_mixes_up`).
-/

namespace MenuBoard.Board

open MenuBoard.Phrase MenuBoard.Rule MenuBoard.Calendar

/-! ## Canteens that the feed knows -/

/-- the canteens of the table for which the feed has a number -/
def knownToFeed (settings : Settings) : List Canteen :=
  Canteen.known.filter fun canteen => (target? settings canteen).isSome

/-- numbers that count the same are spelled the same -/
def SpelledAlike (targets : List (Canteen × Whole)) : Prop :=
  ∀ a ∈ targets, ∀ b ∈ targets, a.2.toInt = b.2.toInt → a.2 = b.2

/-- The numbers of all canteens that the feed knows are told apart by what they count as. -/
def Unambiguous (settings : Settings) : Prop := SpelledAlike (available settings Canteen.known)

instance (targets : List (Canteen × Whole)) : Decidable (SpelledAlike targets) :=
  inferInstanceAs (Decidable (∀ a ∈ targets, ∀ b ∈ targets, a.2.toInt = b.2.toInt → a.2 = b.2))

instance (settings : Settings) : Decidable (Unambiguous settings) :=
  inferInstanceAs (Decidable (SpelledAlike (available settings Canteen.known)))

theorem SpelledAlike.tail {target : Canteen × Whole} {rest : List (Canteen × Whole)} (h : SpelledAlike (target :: rest)) :
    SpelledAlike rest := fun a ha b hb => h a (List.mem_cons_of_mem target ha) b (List.mem_cons_of_mem target hb)

theorem spelledAlike_singleton (target : Canteen × Whole) : SpelledAlike [target] := by
  intro a ha b hb _
  rw [List.mem_singleton.1 ha, List.mem_singleton.1 hb]

section Targets

variable {settings : Settings} {canteens : List Canteen} {canteen : Canteen} {id : Whole}

theorem mem_available : (canteen, id) ∈ available settings canteens ↔
    canteen ∈ canteens ∧ target? settings canteen = some id := by
  unfold available
  rw [List.mem_filterMap]
  constructor
  · rintro ⟨other, hmem, hother⟩
    obtain ⟨id', hid, heq⟩ := Option.map_eq_some_iff.1 hother
    cases heq
    exact ⟨hmem, hid⟩
  · rintro ⟨hmem, hid⟩
    exact ⟨canteen, hmem, by rw [hid, Option.map_some]⟩

theorem map_fst_available (settings : Settings) (canteens : List Canteen) :
    (available settings canteens).map Prod.fst = canteens.filter fun canteen => (target? settings canteen).isSome := by
  induction canteens with
  | nil => rfl
  | cons canteen rest ih =>
    unfold available at *
    cases h : target? settings canteen <;> simp [h, ih]

theorem isSome_find?_of_known (hcanteen : canteen ∈ Canteen.known) : (Canteen.find? canteen.id).isSome = true := by
  have htable : ∀ c ∈ Canteen.known, (Canteen.find? c.id).isSome = true := by decide
  exact htable canteen hcanteen

theorem target?_of_known (hcanteen : canteen ∈ Canteen.known) :
    ∃ n, canteen.id = .number n ∧ target? settings canteen = feedId? settings n := by
  have hsingle : ∀ c ∈ Canteen.known, c.id ≠ .all := by decide
  cases hid : canteen.id with
  | all => exact absurd hid (hsingle canteen hcanteen)
  | number n =>
    refine ⟨n, rfl, ?_⟩
    have hfound := isSome_find?_of_known hcanteen
    rw [hid] at hfound
    unfold target?
    simp only [hid, hfound, if_true]
    cases feedId? settings n <;> rfl

theorem amPark_mem_knownToFeed (settings : Settings) : Canteen.amPark ∈ knownToFeed settings := by
  have hpark : Canteen.amPark ∈ Canteen.known := by decide
  obtain ⟨n, hid, htarget⟩ := @target?_of_known settings _ hpark
  obtain rfl : 106 = n := CanteenId.number.inj hid
  have hsome : (feedId? settings 106).isSome = true := by
    unfold feedId?
    split <;> rfl
  exact List.mem_filter.2 ⟨hpark, by rw [htarget, hsome]⟩

theorem mem_knownToFeed {target : Canteen × Whole} (h : target ∈ available settings Canteen.known) :
    target.1 ∈ knownToFeed settings := by
  rw [knownToFeed, ← map_fst_available]
  exact List.mem_map_of_mem h

theorem available_known_ne_nil (settings : Settings) : available settings Canteen.known ≠ [] := by
  intro hnil
  have hmem := amPark_mem_knownToFeed settings
  rw [knownToFeed, ← map_fst_available, hnil] at hmem
  cases hmem

/-- The feed numbers that are known are spelled as numbers, so all are if those configured are. -/
theorem feedId?_eq_int (h : ∀ pair ∈ settings.feedIds, ∃ n, pair.2 = .int n) {n : Int}
    (hid : feedId? settings n = some id) : ∃ m, id = .int m := by
  unfold feedId? at hid
  split at hid
  · next _ target hfind =>
    obtain rfl := Option.some.inj hid
    exact h _ (List.mem_of_find?_eq_some hfind)
  · obtain ⟨pair, -, rfl⟩ := Option.map_eq_some_iff.1 hid
    exact ⟨pair.2, rfl⟩

theorem target?_eq_int (h : ∀ pair ∈ settings.feedIds, ∃ n, pair.2 = .int n)
    (hid : target? settings canteen = some id) : ∃ n, id = .int n := by
  unfold target? at hid
  split at hid
  · cases hid
  · next n hnumber =>
    split at hid
    · next target hfeed =>
      obtain rfl := Option.some.inj hid
      exact feedId?_eq_int h hfeed
    · split at hid
      · cases hid
      · exact ⟨n, (Option.some.inj hid).symm⟩

/-- Numbers that are all spelled as numbers do not mix up, whichever canteens they are for. -/
theorem spelledAlike_of_numbers (h : ∀ pair ∈ settings.feedIds, ∃ n, pair.2 = .int n)
    (canteens : List Canteen) : SpelledAlike (available settings canteens) := by
  rintro ⟨canteen, id⟩ hmem ⟨canteen', id'⟩ hmem' hcount
  obtain ⟨n, rfl⟩ := target?_eq_int h (mem_available.1 hmem).2
  obtain ⟨m, rfl⟩ := target?_eq_int h (mem_available.1 hmem').2
  exact congrArg Whole.int hcount

theorem unambiguous_of_numbers (h : ∀ pair ∈ settings.feedIds, ∃ n, pair.2 = .int n) : Unambiguous settings :=
  spelledAlike_of_numbers h Canteen.known

end Targets

/-! ## Serving from a single source -/

/-- the menu of a target, served from a cache -/
def menuAt (settings : Settings) (around : Surroundings) (plan : Plan) (cache : MealCache) (target : Canteen × Whole) :
    Except RequestError Menu :=
  ((MealCache.collect (plan.wish settings around target.2) around.sources cache).1.mapError .noMeals).map
    (menuOf plan target.1)

section Serve

variable {settings : Settings} {source : Source} {now : Int} {plan : Plan} {targets : List (Canteen × Whole)}

/-- **From a single source, the menus of several canteens are those that each has for itself.** -/
theorem outcome_serve (h : SpelledAlike targets) (cache : MealCache) :
    (serve settings ⟨[source], now⟩ plan targets cache).outcome =
      targets.mapM (menuAt settings ⟨[source], now⟩ plan cache) := by
  induction targets generalizing cache with
  | nil => rfl
  | cons target rest ih =>
    obtain ⟨canteen, id⟩ := target
    rw [List.mapM_cons]
    cases hcollect : (MealCache.collect (plan.wish settings ⟨[source], now⟩ id) [source] cache).1 with
    | error failure =>
      rw [serve_cons_of_error hcollect]
      simp only [menuAt, hcollect]
      rfl
    | ok meals =>
      have hrest := ih h.tail
        (MealCache.collect (plan.wish settings ⟨[source], now⟩ id) [source] cache).2.cache
      -- what was fetched for the first canteen changes nothing for the others
      have hsame : rest.mapM (menuAt settings ⟨[source], now⟩ plan
          (MealCache.collect (plan.wish settings ⟨[source], now⟩ id) [source] cache).2.cache) =
          rest.mapM (menuAt settings ⟨[source], now⟩ plan cache) := by
        refine mapM_congr fun other hother => ?_
        have hcount := h (canteen, id) List.mem_cons_self other (List.mem_cons_of_mem _ hother)
        have hkept := @MealCache.collect_of_collect (plan.wish settings ⟨[source], now⟩ id) source cache other.2 hcount
        exact congrArg (fun outcome => (outcome.mapError RequestError.noMeals).map (menuOf plan other.1)) hkept
      rw [serve_cons_of_ok hcollect]
      simp only
      rw [hrest, hsame]
      simp only [menuAt, hcollect]
      cases rest.mapM (menuAt settings ⟨[source], now⟩ plan cache) <;> rfl

theorem canteens_of_serve {around : Surroundings} {cache : MealCache} {menus : List Menu}
    (h : (serve settings around plan targets cache).outcome = .ok menus) :
    menus.map Menu.canteen = targets.map Prod.fst := by
  induction targets generalizing cache menus with
  | nil =>
    obtain rfl := Except.ok.inj h
    rfl
  | cons target rest ih =>
    obtain ⟨canteen, id⟩ := target
    cases hcollect : (MealCache.collect (plan.wish settings around id) around.sources cache).1 with
    | error failure =>
      rw [serve_cons_of_error hcollect] at h
      cases h
    | ok meals =>
      rw [serve_cons_of_ok hcollect] at h
      obtain ⟨later, hlater, rfl⟩ := map_eq_ok.1 h
      rw [List.map_cons, List.map_cons, ih hlater]
      rfl

theorem outcome_servePlan {around : Surroundings} {cache : MealCache} (h : available settings plan.canteens ≠ []) :
    (servePlan settings around plan cache).outcome =
      (serve settings around plan (available settings plan.canteens) cache).outcome.map
        fun menus => { query := plan.query, menus } := by
  have hsome : (available settings plan.canteens).isEmpty = false := by simpa using h
  simp [servePlan, hsome]

end Serve

/-! ## Lookups with a canteen in front -/

/-- what a lookup comes to, with the canteens of a name in front of its phrase -/
def lookupWithin (board : Board) (around : Surroundings) (today : Day) (request : MenuRequest) (cache : MealCache)
    (name : String) : Except RequestError MenuAnswer :=
  (board.lookup around today (request.within name) cache).outcome

section Within

variable {board : Board} {source : Source} {now : Int} {today : Day} {request : MenuRequest} {query : Query}
  {notices : List Notice} {cache : MealCache} {canteen : Canteen} {name : String}

theorem outcome_lookup_within (hread : readPhrase request.phrase = .ok (query, notices))
    (hname : canteenNames.Spells canteen name.toList) {targets : List (Canteen × Whole)}
    (htargets : available board.settings (if canteen.id = .all then Canteen.known else [canteen]) = targets)
    (hsome : targets ≠ []) (halike : SpelledAlike targets) :
    board.lookupWithin ⟨[source], now⟩ today request cache name =
      settle board today request query >>= fun settled =>
        (targets.mapM (menuAt board.settings ⟨[source], now⟩ (planFor request query canteen settled) cache)).map
          fun menus => { query := { query with location := some canteen }, menus } := by
  unfold lookupWithin
  cases hsettle : settle board today request query with
  | error error =>
    have hplan : board.plan today (request.within name) = .error error := by
      rw [plan_within hread hname, hsettle]
      rfl
    simp only [lookup, hplan]
    rfl
  | ok settled =>
    have hplan : board.plan today (request.within name) = .ok (planFor request query canteen settled) := by
      rw [plan_within hread hname, hsettle]
      rfl
    have hcanteens : available board.settings (planFor request query canteen settled).canteens = targets := htargets
    rw [lookup_of_plan hplan]
    simp only
    rw [outcome_servePlan (hcanteens.symm ▸ hsome), hcanteens, outcome_serve halike]
    rfl

theorem outcome_lookup_single (hread : readPhrase request.phrase = .ok (query, notices))
    (hname : canteenNames.Spells canteen name.toList) {id : Whole}
    (hid : (canteen, id) ∈ available board.settings Canteen.known) :
    board.lookupWithin ⟨[source], now⟩ today request cache name =
      settle board today request query >>= fun settled =>
        (menuAt board.settings ⟨[source], now⟩ (planFor request query canteen settled) cache (canteen, id)).map
          fun menu => { query := { query with location := some canteen }, menus := [menu] } := by
  obtain ⟨hknown, hnumber⟩ := mem_available.1 hid
  obtain ⟨n, hsingle, -⟩ := @target?_of_known board.settings _ hknown
  have htargets : available board.settings (if canteen.id = .all then Canteen.known else [canteen]) = [(canteen, id)] := by
    rw [hsingle, if_neg (fun h => by cases h)]
    simp [available, hnumber]
  rw [outcome_lookup_within hread hname htargets (List.cons_ne_nil _ _) (spelledAlike_singleton _)]
  refine congrArg (settle board today request query >>= ·) (funext fun settled => ?_)
  rw [List.mapM_cons]
  cases menuAt board.settings ⟨[source], now⟩ (planFor request query canteen settled) cache (canteen, id) <;> rfl

theorem outcome_lookup_all (hread : readPhrase request.phrase = .ok (query, notices))
    (hclear : Unambiguous board.settings) :
    board.lookupWithin ⟨[source], now⟩ today request cache "all" =
      settle board today request query >>= fun settled =>
        ((available board.settings Canteen.known).mapM
          (menuAt board.settings ⟨[source], now⟩ (planFor request query .everywhere settled) cache)).map
            fun menus => { query := { query with location := some .everywhere }, menus } :=
  outcome_lookup_within hread spells_all rfl (available_known_ne_nil _) hclear

theorem lookup_all_ne_unavailable {around : Surroundings} (hread : readPhrase request.phrase = .ok (query, notices))
    (canteens : List Canteen) : board.lookupWithin around today request cache "all" ≠ .error (.unavailable canteens) := by
  intro h
  unfold lookupWithin at h
  cases hplan : board.plan today (request.within "all") with
  | error error =>
    simp only [lookup, hplan] at h
    obtain rfl := Except.error.inj h
    rcases plan_eq_error hplan with ⟨_, h⟩ | h | h | ⟨_, h⟩ <;> cases h
  | ok plan =>
    obtain ⟨settled, -, rfl⟩ := map_eq_ok.1 ((plan_within hread spells_all).symm.trans hplan)
    rw [lookup_of_plan hplan] at h
    rcases servePlan_eq_error h with ⟨hnone, -⟩ | ⟨-, -, -, failure, herror, -, -⟩
    · exact available_known_ne_nil board.settings hnone
    · cases herror

/-- The menus of all canteens are those of the canteens that the feed knows, one for each. -/
theorem canteens_of_lookup_all {around : Surroundings} (hread : readPhrase request.phrase = .ok (query, notices))
    {answer : MenuAnswer} (h : board.lookupWithin around today request cache "all" = .ok answer) :
    answer.menus.map Menu.canteen = knownToFeed board.settings := by
  unfold lookupWithin at h
  cases hplan : board.plan today (request.within "all") with
  | error error =>
    simp only [lookup, hplan] at h
    cases h
  | ok plan =>
    obtain ⟨settled, -, rfl⟩ := map_eq_ok.1 ((plan_within hread spells_all).symm.trans hplan)
    rw [lookup_of_plan hplan] at h
    simp only at h
    rw [outcome_servePlan (available_known_ne_nil board.settings)] at h
    obtain ⟨menus, hmenus, rfl⟩ := map_eq_ok.1 h
    exact (canteens_of_serve hmenus).trans (map_fst_available _ _)

/-! ## All canteens and each of them -/

section Each

variable {names : Canteen → String}

theorem lookup_all_eq_ok (hread : readPhrase request.phrase = .ok (query, notices))
    (hnames : ∀ canteen ∈ knownToFeed board.settings, canteenNames.Spells canteen (names canteen).toList)
    (hclear : Unambiguous board.settings) {answers : Canteen → MenuAnswer}
    (h : ∀ canteen ∈ knownToFeed board.settings,
      board.lookupWithin ⟨[source], now⟩ today request cache (names canteen) = .ok (answers canteen)) :
    ∃ answer, board.lookupWithin ⟨[source], now⟩ today request cache "all" = .ok answer ∧
      answer.menus = (knownToFeed board.settings).flatMap fun canteen => (answers canteen).menus := by
  have heach : ∀ target ∈ available board.settings Canteen.known, ∃ settled menu,
      settle board today request query = .ok settled ∧
        menuAt board.settings ⟨[source], now⟩ (planFor request query .everywhere settled) cache target = .ok menu ∧
        (answers target.1).menus = [menu] := by
    rintro ⟨canteen, id⟩ htarget
    have hknown := mem_knownToFeed htarget
    have hanswer := h canteen hknown
    rw [outcome_lookup_single hread (hnames canteen hknown) htarget] at hanswer
    obtain ⟨settled, hsettle, hanswer⟩ := bind_eq_ok.1 hanswer
    obtain ⟨menu, hmenu, heq⟩ := map_eq_ok.1 hanswer
    exact ⟨settled, menu, hsettle, hmenu, congrArg MenuAnswer.menus heq.symm⟩
  obtain ⟨first, hfirst⟩ := List.exists_mem_of_ne_nil _ (available_known_ne_nil board.settings)
  obtain ⟨settled, -, hsettle, -⟩ := heach first hfirst
  have hmenus : (available board.settings Canteen.known).mapM
      (menuAt board.settings ⟨[source], now⟩ (planFor request query .everywhere settled) cache) =
        .ok ((available board.settings Canteen.known).flatMap fun target => (answers target.1).menus) := by
    refine mapM_eq_ok fun target htarget => ?_
    obtain ⟨settled', menu, hsettle', hmenu, hanswer⟩ := heach target htarget
    obtain rfl := Except.ok.inj (hsettle.symm.trans hsettle')
    exact ⟨menu, hmenu, hanswer⟩
  rw [outcome_lookup_all hread hclear]
  refine ⟨_, bind_eq_ok.2 ⟨settled, hsettle, map_eq_ok.2 ⟨_, hmenus, rfl⟩⟩, ?_⟩
  rw [knownToFeed, ← map_fst_available, List.flatMap_map]

/-- The first canteen that fails for want of meals lets the lookup of all canteens fail as it does. -/
theorem lookup_all_eq_error (hread : readPhrase request.phrase = .ok (query, notices))
    (hnames : ∀ canteen ∈ knownToFeed board.settings, canteenNames.Spells canteen (names canteen).toList)
    (hclear : Unambiguous board.settings) {before after : List Canteen} {failure : SourceFailure}
    (hsplit : knownToFeed board.settings = before ++ canteen :: after)
    (hbefore : ∀ earlier ∈ before, ∀ failure',
      board.lookupWithin ⟨[source], now⟩ today request cache (names earlier) ≠ .error (.noMeals failure'))
    (h : board.lookupWithin ⟨[source], now⟩ today request cache (names canteen) = .error (.noMeals failure)) :
    board.lookupWithin ⟨[source], now⟩ today request cache "all" = .error (.noMeals failure) := by
  have htargets : (available board.settings Canteen.known).map Prod.fst = before ++ canteen :: after :=
    (map_fst_available _ _).trans hsplit
  obtain ⟨earlier, others, hall, rfl, hothers⟩ := List.map_eq_append_iff.1 htargets
  obtain ⟨target, later, rfl, rfl, -⟩ := List.map_eq_cons_iff.1 hothers
  have hsingle : ∀ target' ∈ earlier ++ target :: later,
      board.lookupWithin ⟨[source], now⟩ today request cache (names target'.1) =
        settle board today request query >>= fun settled =>
          (menuAt board.settings ⟨[source], now⟩ (planFor request query target'.1 settled) cache target').map
            fun menu => { query := { query with location := some target'.1 }, menus := [menu] } := by
    intro target' htarget'
    rw [← hall] at htarget'
    exact outcome_lookup_single hread (hnames _ (mem_knownToFeed htarget')) htarget'
  rw [outcome_lookup_all hread hclear, hall]
  rw [hsingle target (List.mem_append_right _ List.mem_cons_self)] at h
  rcases bind_eq_error.1 h with hsettle | ⟨settled, hsettle, hfails⟩
  · exact bind_eq_error.2 (.inl hsettle)
  · refine bind_eq_error.2 (.inr ⟨settled, hsettle, map_eq_error.2 ?_⟩)
    refine mapM_eq_error (fun target' htarget' => ?_) (map_eq_error.1 hfails)
    cases hmenu : menuAt board.settings ⟨[source], now⟩ (planFor request query .everywhere settled) cache target' with
    | ok menu => exact ⟨menu, rfl⟩
    | error error =>
      -- it would have failed alone as well
      obtain ⟨failure', -, rfl⟩ := mapError_eq_error.1 (map_eq_error.1 hmenu)
      refine absurd ?_ (hbefore target'.1 (List.mem_map_of_mem htarget') failure')
      rw [hsingle target' (List.mem_append_left _ htarget')]
      exact bind_eq_error.2 (.inr ⟨settled, hsettle, map_eq_error.2 hmenu⟩)

end Each

end Within

/-- **Asking for all canteens is asking for each.** In any state and from a single source, a phrase behind `at all` is
answered by the menus that it has behind the name of each canteen that the feed knows, and fails as the first of them
does, unless numbers of canteens count the same that are not spelled the same. Whatever the numbers are, there is
somebody to ask, and no menu is of all canteens. -/
theorem lookup_everywhere {board : Board} {request : MenuRequest} {query : Query} {notices : List Notice}
    (hread : readPhrase request.phrase = .ok (query, notices)) {names : Canteen → String}
    (hnames : ∀ canteen ∈ knownToFeed board.settings, canteenNames.Spells canteen (names canteen).toList)
    (source : Source) (now : Int) (today : Day) (cache : MealCache) :
    .amPark ∈ knownToFeed board.settings ∧
      (∀ canteens, board.lookupWithin ⟨[source], now⟩ today request cache "all" ≠ .error (.unavailable canteens)) ∧
      (∀ answer, board.lookupWithin ⟨[source], now⟩ today request cache "all" = .ok answer →
        ∀ menu ∈ answer.menus, menu.canteen.id ≠ .all) ∧
      (Unambiguous board.settings →
        (∀ answers : Canteen → MenuAnswer,
          (∀ canteen ∈ knownToFeed board.settings,
            board.lookupWithin ⟨[source], now⟩ today request cache (names canteen) = .ok (answers canteen)) →
          ∃ answer, board.lookupWithin ⟨[source], now⟩ today request cache "all" = .ok answer ∧
            answer.menus = (knownToFeed board.settings).flatMap fun canteen => (answers canteen).menus) ∧
        ∀ before canteen after failure, knownToFeed board.settings = before ++ canteen :: after →
          (∀ earlier ∈ before, ∀ failure',
            board.lookupWithin ⟨[source], now⟩ today request cache (names earlier) ≠ .error (.noMeals failure')) →
          board.lookupWithin ⟨[source], now⟩ today request cache (names canteen) = .error (.noMeals failure) →
          board.lookupWithin ⟨[source], now⟩ today request cache "all" = .error (.noMeals failure)) := by
  refine ⟨amPark_mem_knownToFeed _, lookup_all_ne_unavailable hread, fun answer hanswer menu hmenu => ?_, fun hclear =>
    ⟨fun answers h => lookup_all_eq_ok hread hnames hclear h, fun before canteen after failure hsplit hbefore h =>
      lookup_all_eq_error hread hnames hclear hsplit hbefore h⟩⟩
  have hmem : menu.canteen ∈ knownToFeed board.settings := by
    rw [← canteens_of_lookup_all hread hanswer]
    exact List.mem_map_of_mem hmenu
  obtain ⟨n, hid, -⟩ := @target?_of_known board.settings _ (List.mem_filter.1 hmem).1
  rw [hid]
  exact fun h => by cases h

/-- a word for each of two canteens -/
def nickname (canteen : Canteen) : String := if canteen = .academica then "academica" else "park"

theorem spells_nickname : ∀ canteen ∈ [Canteen.academica, Canteen.amPark],
    canteenNames.Spells canteen (nickname canteen).toList := by
  intro canteen hcanteen
  rcases List.mem_cons.1 hcanteen with rfl | hcanteen
  · exact spells_of_mem_forms (by decide +kernel)
  · obtain rfl := List.mem_singleton.1 hcanteen
    exact spells_of_mem_forms (by decide +kernel)

/-- the numbers of the dishes on each menu -/
def MenuAnswer.dishes (answer : MenuAnswer) : List (List Int) := answer.menus.map fun menu => menu.meals.map (·.meal.id)

/-- the day on which the canteens are compared -/
def sampleDay : Day := ⟨738887, Nat.le_of_ble_eq_true rfl⟩

/-- what a service comes to for a phrase, with the canteens of a name in front -/
def Service.answer (s : Service) (phrase name : String) : Except RequestError MenuAnswer :=
  s.board.lookupWithin s.around sampleDay { phrase } s.cache name

/-- two canteens with one feed number, for which the feed has two dishes, the first with fish -/
def sharedKitchen : Service where
  board := { settings := { feedIds := [(118, .int 63)] }, filter := {}, favorites := {} }
  table := [("https://openmensa.org/api/v2/canteens/63/days/2024-01-03/meals", .response {
    body := "[\x7b\"id\": 1, \"notes\": [\"mit Fischsauce\"]\x7d, \x7b\"id\": 2\x7d]" })]

/-- Both canteens have the dish without fish, though the feed is asked once. -/
theorem sharedKitchen_everywhere :
    (∃ read, readPhrase "no fish" = .ok read) ∧
      (∀ canteen ∈ knownToFeed sharedKitchen.board.settings, canteenNames.Spells canteen (nickname canteen).toList) ∧
      Unambiguous sharedKitchen.board.settings ∧ ∃ answers : Canteen → MenuAnswer, ∃ answer,
        (∀ canteen ∈ knownToFeed sharedKitchen.board.settings,
          sharedKitchen.answer "no fish" (nickname canteen) = .ok (answers canteen)) ∧
        sharedKitchen.answer "no fish" "all" = .ok answer ∧
        answer.menus = (knownToFeed sharedKitchen.board.settings).flatMap (fun canteen => (answers canteen).menus) ∧
        answer.dishes = [[2], [2]] := by
  have hknown : knownToFeed sharedKitchen.board.settings = [.academica, .amPark] := by decide +kernel
  have hclear : Unambiguous sharedKitchen.board.settings :=
    unambiguous_of_numbers fun pair hpair => ⟨63, by rw [List.mem_singleton.1 hpair]⟩
  have hread : (readPhrase "no fish").map (fun _ => ()) = .ok () := by decide +kernel
  have hacademica : (sharedKitchen.answer "no fish" "academica").map MenuAnswer.dishes = .ok [[2]] := by decide +kernel
  have hpark : (sharedKitchen.answer "no fish" "park").map MenuAnswer.dishes = .ok [[2]] := by decide +kernel
  obtain ⟨read, hread, -⟩ := map_eq_ok.1 hread
  obtain ⟨first, hfirst, hdishes⟩ := map_eq_ok.1 hacademica
  obtain ⟨second, hsecond, hdishes'⟩ := map_eq_ok.1 hpark
  have hnames : ∀ canteen ∈ knownToFeed sharedKitchen.board.settings,
      canteenNames.Spells canteen (nickname canteen).toList := hknown ▸ spells_nickname
  have hanswers : ∀ canteen ∈ knownToFeed sharedKitchen.board.settings,
      sharedKitchen.answer "no fish" (nickname canteen) = .ok (if canteen = .academica then first else second) := by
    rw [hknown]
    simp [nickname, hfirst, hsecond, Canteen.academica, Canteen.amPark]
  obtain ⟨-, -, -, heach⟩ := @lookup_everywhere sharedKitchen.board { phrase := "no fish" } _ _ hread nickname hnames
    (Feed.source sharedKitchen.table.session (.int 10)) 0 sampleDay []
  obtain ⟨answer, hanswer, hmenus⟩ := (heach hclear).1 _ hanswers
  refine ⟨⟨read, hread⟩, hnames, hclear, _, answer, hanswers, hanswer, hmenus, ?_⟩
  rw [hknown] at hmenus
  unfold MenuAnswer.dishes at *
  rw [hmenus]
  simp [hdishes, hdishes', Canteen.academica, Canteen.amPark]

/-- two canteens whose feed numbers count the same, one of them spelled `true`, and a dish under either spelling -/
def twoSpellings : Service where
  board := { settings := { feedIds := [(118, .int 1), (106, .flag true)] }, filter := {}, favorites := {} }
  table := [("https://openmensa.org/api/v2/canteens/1/days/2024-01-03/meals", .response { body := "[\x7b\"id\": 1\x7d]" }),
    ("https://openmensa.org/api/v2/canteens/True/days/2024-01-03/meals", .response { body := "[\x7b\"id\": 2\x7d]" })]

/-- Behind each name the canteens have different dishes, and all at once they have the same. -/
theorem lookup_everywhere_mixes_up :
    ¬ Unambiguous twoSpellings.board.settings ∧ ∃ answers : Canteen → MenuAnswer, ∃ answer,
      (∀ canteen ∈ knownToFeed twoSpellings.board.settings,
        canteenNames.Spells canteen (nickname canteen).toList ∧
          twoSpellings.answer "" (nickname canteen) = .ok (answers canteen)) ∧
      twoSpellings.answer "" "all" = .ok answer ∧
      answer.menus ≠ (knownToFeed twoSpellings.board.settings).flatMap fun canteen => (answers canteen).menus := by
  have hknown : knownToFeed twoSpellings.board.settings = [.academica, .amPark] := by decide +kernel
  have hacademica : (twoSpellings.answer "" "academica").map MenuAnswer.dishes = .ok [[1]] := by decide +kernel
  have hpark : (twoSpellings.answer "" "park").map MenuAnswer.dishes = .ok [[2]] := by decide +kernel
  have hall : (twoSpellings.answer "" "all").map MenuAnswer.dishes = .ok [[1], [1]] := by decide +kernel
  obtain ⟨first, hfirst, hdishes⟩ := map_eq_ok.1 hacademica
  obtain ⟨second, hsecond, hdishes'⟩ := map_eq_ok.1 hpark
  obtain ⟨answer, hanswer, hmixed⟩ := map_eq_ok.1 hall
  refine ⟨by decide +kernel, fun canteen => if canteen = .academica then first else second, answer, ?_, hanswer, ?_⟩
  · rw [hknown]
    refine fun canteen hcanteen => ⟨spells_nickname canteen hcanteen, ?_⟩
    rcases List.mem_cons.1 hcanteen with rfl | hcanteen
    · exact hfirst
    · obtain rfl := List.mem_singleton.1 hcanteen
      exact hsecond
  · intro hmenus
    rw [hknown] at hmenus
    unfold MenuAnswer.dishes at *
    rw [hmenus] at hmixed
    simp [hdishes, hdishes', Canteen.academica, Canteen.amPark] at hmixed

end MenuBoard.Board
