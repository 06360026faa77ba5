import MenuBoard.Proofs.Board.Target
import MenuBoard.Proofs.Calendar.Text
import MenuBoard.Proofs.Settings.WellFormed

/-!
The addresses that the feed is asked at.

Every call of a lookup asks for a canteen that the request asks for, under the number that the feed has for it, and for the
day that the request asks for (`mem_calls_lookup`, `goesBy_of_target?`). With settings as they are read a canteen goes by one
number at most (`GoesBy.unique`), and no such number is negative, so what stands in the address are digits
(`lookup_addresses`). A number that was given as `true` or `false` is not spelled in digits, and neither is it in the address
(`lookup_address_true`).
-/

namespace MenuBoard

open MenuBoard.Calendar

/-! ## Who is called -/

namespace MealCache

variable {wish : Wish}

theorem mem_calls_round {sources : List Source} {cache : MealCache} {call : Call}
    (h : call ∈ (round wish sources cache).calls) : ∃ source ∈ sources, call ∈ (source.ask wish.canteen wish.day).calls := by
  induction sources generalizing cache with
  | nil => cases h
  | cons source rest ih =>
    rcases List.mem_append.1 h with hfirst | hlater
    · rw [visit_calls] at hfirst
      split at hfirst
      · exact ⟨source, List.mem_cons_self, hfirst⟩
      · cases hfirst
    · obtain ⟨other, hother, hcall⟩ := ih hlater
      exact ⟨other, List.mem_cons_of_mem _ hother, hcall⟩

end MealCache

namespace Board

section Calls

variable {settings : Settings} {around : Surroundings} {plan : Plan} {cache : MealCache} {call : Call}

theorem mem_calls_serve {targets : List (Canteen × Whole)} (h : call ∈ (serve settings around plan targets cache).calls) :
    ∃ target ∈ targets, ∃ source ∈ around.sources, call ∈ (source.ask target.2 plan.day).calls := by
  induction targets generalizing cache with
  | nil => cases h
  | cons target rest ih =>
    obtain ⟨canteen, id⟩ := target
    have hfirst : call ∈ (MealCache.collect (plan.wish settings around id) around.sources cache).2.calls →
        ∃ target ∈ (canteen, id) :: rest, ∃ source ∈ around.sources, call ∈ (source.ask target.2 plan.day).calls :=
      fun hcall => ⟨(canteen, id), List.mem_cons_self, MealCache.mem_calls_round hcall⟩
    cases hcollect : (MealCache.collect (plan.wish settings around id) around.sources cache).1 with
    | error failure =>
      rw [serve_cons_of_error hcollect] at h
      exact hfirst h
    | ok meals =>
      rw [serve_cons_of_ok hcollect] at h
      rcases List.mem_append.1 h with hcall | hlater
      · exact hfirst hcall
      · obtain ⟨target, htarget, hcall⟩ := ih hlater
        exact ⟨target, List.mem_cons_of_mem _ htarget, hcall⟩

theorem mem_calls_servePlan (h : call ∈ (servePlan settings around plan cache).calls) :
    ∃ target ∈ available settings plan.canteens, ∃ source ∈ around.sources,
      call ∈ (source.ask target.2 plan.day).calls := by
  unfold servePlan at h
  simp only at h
  split at h
  · cases h
  · exact mem_calls_serve h

theorem mem_calls_lookup {board : Board} {today : Day} {request : MenuRequest}
    (h : call ∈ (board.lookup around today request cache).calls) : ∃ plan, board.plan today request = .ok plan ∧
      ∃ target ∈ available board.settings plan.canteens, ∃ source ∈ around.sources,
        call ∈ (source.ask target.2 plan.day).calls := by
  cases hplan : board.plan today request with
  | error error =>
    rw [(lookup_of_plan_error hplan).2] at h
    cases h
  | ok plan =>
    rw [lookup_of_plan hplan] at h
    exact ⟨plan, rfl, mem_calls_servePlan h⟩

end Calls

/-! ## Numbers that canteens go by -/

/-- the number that a canteen is asked for by: the configured one; the known one, if none is configured; and its own, if it
is the configured canteen, the table does not have it, and it has no other -/
inductive GoesBy (settings : Settings) (canteen : Canteen) : Whole → Prop where
  | configured {n : Int} {target : Whole} : canteen.id = .number n → (n, target) ∈ settings.feedIds →
      GoesBy settings canteen target
  | known {n m : Int} : canteen.id = .number n → (∀ pair ∈ settings.feedIds, pair.1 ≠ n) → (n, m) ∈ knownFeedIds →
      GoesBy settings canteen (.int m)
  | own {n : Whole} : settings.defaultCanteen = some (.number n) → canteen.id = .number n.toInt → canteen ∉ Canteen.known →
      (∀ pair ∈ settings.feedIds, pair.1 ≠ n.toInt) → (∀ pair ∈ knownFeedIds, pair.1 ≠ n.toInt) →
      GoesBy settings canteen (.int n.toInt)

section GoesBy

variable {settings : Settings} {canteen : Canteen} {id : Whole}

theorem id_defaultCanteen (n : Whole) : (defaultCanteen (.number n)).id = .number n.toInt := by
  unfold defaultCanteen
  cases hfind : Canteen.find? (.number n.toInt) with
  | none => simp [hfind]
  | some found =>
    have hkey := List.find?_some hfind
    simpa [hfind] using hkey

theorem goesBy_of_feedId? {n : Int} (hnumber : canteen.id = .number n) (h : feedId? settings n = some id) :
    GoesBy settings canteen id := by
  unfold feedId? at h
  split at h
  · next m target hfind =>
    obtain rfl := Option.some.inj h
    have hkey := List.find?_some hfind
    obtain rfl : m = n := eq_of_beq hkey
    exact .configured hnumber (List.mem_of_find?_eq_some hfind)
  · next hnone =>
    obtain ⟨⟨m, target⟩, hfind, rfl⟩ := Option.map_eq_some_iff.1 h
    have hkey := List.find?_some hfind
    obtain rfl : m = n := eq_of_beq hkey
    refine .known hnumber (fun pair hpair => ?_) (List.mem_of_find?_eq_some hfind)
    simpa using List.find?_eq_none.1 hnone pair hpair

theorem feedId?_eq_none {n : Int} (h : feedId? settings n = none) :
    (∀ pair ∈ settings.feedIds, pair.1 ≠ n) ∧ ∀ pair ∈ knownFeedIds, pair.1 ≠ n := by
  unfold feedId? at h
  split at h
  · cases h
  · next hnone =>
    rw [Option.map_eq_none_iff] at h
    exact ⟨fun pair hpair => by simpa using List.find?_eq_none.1 hnone pair hpair,
      fun pair hpair => by simpa using List.find?_eq_none.1 h pair hpair⟩

/-- **A canteen that a request can come to is asked for by the number that it goes by.** -/
theorem goesBy_of_target? (hcanteen : canteen ∈ askable settings) (h : target? settings canteen = some id) :
    GoesBy settings canteen id := by
  unfold target? at h
  split at h
  · cases h
  · next n hnumber =>
    split at h
    · next target hfeed =>
      obtain rfl := Option.some.inj h
      exact goesBy_of_feedId? hnumber hfeed
    · next hfeed =>
      split at h
      · cases h
      · next hbeyond =>
        -- the table does not have the canteen, so it is the configured one
        obtain rfl := Option.some.inj h
        have hunknown : canteen ∉ Canteen.known := fun hknown => hbeyond (isSome_find?_of_known hknown)
        have hdefault := (List.mem_append.1 hcanteen).resolve_left hunknown
        obtain ⟨choice, hchoice, rfl⟩ := Option.map_eq_some_iff.1 (Option.mem_toList.1 hdefault)
        cases choice with
        | all => cases hnumber
        | number m =>
          obtain rfl : m.toInt = n := CanteenId.number.inj ((id_defaultCanteen m).symm.trans hnumber)
          obtain ⟨hconfigured, hknown⟩ := feedId?_eq_none hfeed
          exact .own hchoice hnumber hunknown hconfigured hknown

theorem GoesBy.nonneg (h : GoesBy settings canteen id) (hsettings : settings.WellFormed) : 0 ≤ id.toInt := by
  cases h with
  | configured _ hmem => exact (hsettings.feedIds.natural _ hmem).2
  | known _ _ hmem =>
    have hknown : ∀ pair ∈ knownFeedIds, 0 ≤ pair.2 := by decide
    exact hknown _ hmem
  | own hdefault =>
    have hnatural := hsettings.canteen _ hdefault
    exact hnatural

theorem GoesBy.eq_int (h : GoesBy settings canteen id) (hnumbers : ∀ pair ∈ settings.feedIds, ∃ n, pair.2 = .int n) :
    ∃ n, id = .int n := by
  cases h with
  | configured _ hmem => exact hnumbers _ hmem
  | known => exact ⟨_, rfl⟩
  | own => exact ⟨_, rfl⟩

/-- No canteen goes by two numbers. -/
theorem GoesBy.unique {other : Whole} (hsettings : settings.WellFormed) (h : GoesBy settings canteen id)
    (h' : GoesBy settings canteen other) : id = other := by
  have hnumber : ∀ {n m : Int}, canteen.id = .number n → canteen.id = .number m → n = m :=
    fun hn hm => CanteenId.number.inj (hn.symm.trans hm)
  cases h with
  | configured hid hmem =>
    cases h' with
    | configured hid' hmem' =>
      obtain rfl := hnumber hid hid'
      exact congrArg Prod.snd (List.inj_on_of_nodup_map hsettings.feedIds.distinct hmem hmem' rfl)
    | known hid' hnone _ => exact absurd (hnumber hid hid') (hnone _ hmem)
    | own _ hid' _ hnone _ => exact absurd (hnumber hid hid') (hnone _ hmem)
  | known hid hnone hmem =>
    cases h' with
    | configured hid' hmem' => exact absurd (hnumber hid' hid) (hnone _ hmem')
    | known hid' _ hmem' =>
      obtain rfl := hnumber hid hid'
      have hdistinct : (knownFeedIds.map Prod.fst).Nodup := by decide
      exact congrArg (Whole.int ∘ Prod.snd) (List.inj_on_of_nodup_map hdistinct hmem hmem' rfl)
    | own _ hid' _ _ hnone' => exact absurd (hnumber hid hid') (hnone' _ hmem)
  | own _ hid _ hnone hnone' =>
    cases h' with
    | configured hid' hmem' => exact absurd (hnumber hid' hid) (hnone _ hmem')
    | known hid' _ hmem' => exact absurd (hnumber hid' hid) (hnone' _ hmem')
    | own _ hid' _ _ _ => exact congrArg Whole.int (hnumber hid hid')

end GoesBy

/-! ## Addresses -/

/-- the address of the meals under a number of the feed, in digits, on a day -/
def IsAddressOf (n : Nat) (day : Day) (address : String) : Prop :=
  ∃ digits date, IsDecimal n digits ∧ IsIsoDate day date ∧ address.toList =
    "https://openmensa.org/api/v2/canteens/".toList ++ (digits ++ ("/days/".toList ++ (date ++ "/meals".toList)))

/-- The address is that of a canteen and the day that a query asks for. -/
def IsAskedFor (settings : Settings) (today : Day) (query : Query) (address : String) : Prop :=
  ∃ canteens day, canteensOf settings query = .ok canteens ∧ dayOf today query = .ok day ∧
    ∃ canteen ∈ canteens, ∃ id n, GoesBy settings canteen id ∧ id.toInt = Int.ofNat n ∧ IsAddressOf n day address

theorem isAddressOf_address (n : Nat) (day : Day) : IsAddressOf n day (Feed.address (.int n) day) := by
  refine ⟨(toString n).toList, day.text.toList, isDecimal_toString n, day.isIsoDate_text, ?_⟩
  have haddress : Feed.address (.int n) day =
      "https://openmensa.org/api/v2/canteens/" ++ toString n ++ "/days/" ++ day.text ++ "/meals" := rfl
  rw [haddress]
  simp only [String.toList_append, List.append_assoc]

theorem address_fetch (session : Feed.Session) (timeout id : Whole) (day : Day) :
    (Feed.fetch session timeout id day).call.address = Feed.address id day := by
  unfold Feed.fetch
  simp only
  split <;> rfl

/-- **Only well-formed addresses are asked at.** Whatever files and environment the settings were read from, in any state
and whatever the feed replies, every call of a lookup is at the address of a canteen and the day that the phrase asks for,
with the canteen's number in digits, unless a number of the settings is given as `true` or `false`. -/
theorem lookup_addresses {files : Settings.Files} {given : Option String} {environment : Settings.Environment}
    {settings : Settings} {notices : List Notice} {board : Board}
    (hload : Settings.load files given environment = .ok (settings, notices)) (hboard : ofSettings settings = .ok board)
    (hnumbers : ∀ pair ∈ settings.feedIds, ∃ n, pair.2 = .int n) (session : Feed.Session) (timeout : Whole) (now : Int)
    (cache : MealCache) (today : Day) (request : MenuRequest) :
    ∀ call ∈ (board.lookup ⟨[Feed.source session timeout], now⟩ today request cache).calls,
      ∃ query notices, readPhrase request.phrase = .ok (query, notices) ∧ IsAskedFor settings today query call.address := by
  intro call hcall
  obtain ⟨-, -, rfl, -⟩ := rules_of_ofSettings hboard
  obtain ⟨plan, hplan, ⟨canteen, id⟩, htarget, source, hsource, hasked⟩ := mem_calls_lookup hcall
  obtain ⟨query, notices', hread, hcanteens, hday⟩ := exists_query_of_plan hplan
  obtain ⟨hcanteen, hid⟩ := mem_available.1 htarget
  have hgoes := goesBy_of_target? (mem_askable_of_plan hplan hcanteen) hid
  obtain ⟨n, rfl⟩ := hgoes.eq_int hnumbers
  obtain ⟨m, rfl⟩ := Int.eq_ofNat_of_zero_le (hgoes.nonneg (Settings.wellFormed_of_load hload))
  rw [List.mem_singleton.1 hsource] at hasked
  have hcall : IsAddressOf m plan.day call.address := by
    rw [List.mem_singleton.1 hasked, address_fetch]
    exact isAddressOf_address m plan.day
  exact ⟨query, notices', hread, plan.canteens, plan.day, hcanteens, hday, canteen, hcanteen, _, m, hgoes, rfl,
    hcall⟩

/-- files that all hold this text -/
def filesOf (text : String) : Settings.Files := fun _ => some (text.toList.map fun c => c.toNat.toUInt8)

/-- the feed that knows no canteen -/
def silentFeed : Surroundings := ⟨[Feed.source (Table.session []) (.int 10)], 0⟩

/-- Texts are read as the numbers they spell, negative numbers are left out, and the configured canteen is asked for by its
own number. -/
theorem lookup_address_seventySeven : ∃ settings notices board,
    Settings.load (filesOf "\x7b\"default_canteen_id\": \" 0077 \", \"openmensa_ids\": \x7b\"118\": -4\x7d\x7d") none
        (fun _ => none) = .ok (settings, notices) ∧
      ofSettings settings = .ok board ∧ (∀ pair ∈ settings.feedIds, ∃ n, pair.2 = .int n) ∧
      (∀ call ∈ (board.lookup silentFeed sampleDay { phrase := "on tomorrow" } []).calls, ∃ query notices,
        readPhrase "on tomorrow" = .ok (query, notices) ∧ IsAskedFor settings sampleDay query call.address) ∧
      (board.lookup silentFeed sampleDay { phrase := "on tomorrow" } []).calls =
        [⟨"https://openmensa.org/api/v2/canteens/77/days/2024-01-04/meals", .int 10⟩] := by
  have hread : (Settings.load (filesOf
      "\x7b\"default_canteen_id\": \" 0077 \", \"openmensa_ids\": \x7b\"118\": -4\x7d\x7d") none (fun _ => none)).map
        Prod.fst = .ok { defaultCanteen := some (.number (.int 77)) } := by decide +kernel
  obtain ⟨⟨settings, notices⟩, hload, rfl⟩ := map_eq_ok.1 hread
  have hnumbers : ∀ pair ∈ ([] : List (Int × Whole)), ∃ n, pair.2 = .int n := fun _ h => by cases h
  exact ⟨_, notices, _, hload, rfl, hnumbers, lookup_addresses hload rfl hnumbers _ _ _ _ _ _, by decide +kernel⟩

/-- An address with `True` in the place of the digits is that of no number. -/
theorem not_isAddressOf_true (n : Nat) (day : Day) :
    ¬ IsAddressOf n day "https://openmensa.org/api/v2/canteens/True/days/2024-01-03/meals" := by
  rintro ⟨digits, date, hdigits, -, haddress⟩
  have hsplit : "https://openmensa.org/api/v2/canteens/True/days/2024-01-03/meals".toList =
      "https://openmensa.org/api/v2/canteens/".toList ++ "True/days/2024-01-03/meals".toList := by decide +kernel
  have hrest := List.append_cancel_left (hsplit.symm.trans haddress)
  cases digits with
  | nil => exact hdigits.ne_nil rfl
  | cons c more =>
    obtain rfl : 'T' = c := (List.cons.inj hrest).1
    have hdigit := hdigits.digits 'T' List.mem_cons_self
    cases hdigit

/-- A number that is given as `true` is asked for as `True`. -/
theorem lookup_address_true : ∃ settings notices board,
    Settings.load (filesOf "\x7b\"openmensa_ids\": \x7b\"106\": true\x7d\x7d") none (fun _ => none) =
        .ok (settings, notices) ∧
      ofSettings settings = .ok board ∧ ∃ call ∈ (board.lookup silentFeed sampleDay { phrase := "at park" } []).calls,
        ¬ ∃ query notices, readPhrase "at park" = .ok (query, notices) ∧
          IsAskedFor settings sampleDay query call.address := by
  have hread : (Settings.load (filesOf "\x7b\"openmensa_ids\": \x7b\"106\": true\x7d\x7d") none (fun _ => none)).map
      Prod.fst = .ok { feedIds := [(106, .flag true)] } := by decide +kernel
  obtain ⟨⟨settings, notices⟩, hload, rfl⟩ := map_eq_ok.1 hread
  have hcalls : (lookup { settings := { feedIds := [(106, .flag true)] }, filter := {}, favorites := {} } silentFeed sampleDay
      { phrase := "at park" } []).calls =
        [⟨"https://openmensa.org/api/v2/canteens/True/days/2024-01-03/meals", .int 10⟩] := by decide +kernel
  refine ⟨_, notices, _, hload, rfl, _, hcalls ▸ List.mem_singleton_self _, ?_⟩
  rintro ⟨query, -, -, canteens, day, -, -, canteen, -, id, n, -, -, haddress⟩
  exact not_isAddressOf_true n day haddress

end Board

end MenuBoard
