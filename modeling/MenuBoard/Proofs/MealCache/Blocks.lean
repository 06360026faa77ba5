import Mathlib.Data.List.Induction
import MenuBoard.Proofs.MealCache.Memo

/-!
Which source the meals of a call come from.

The meals of a call are made up of one block for each source, in the order of the sources. The block of a source is empty,
as the source was asked and failed, or the source gave it, now or less than a lifetime ago (`IsBlockOf`). What is kept bears
the name of a source and tells nothing else of it. So all that can be told of a kept block is that a source of that name
gave it (`holds_run`), and a source answers for itself if no other one bears its name (`blocks_of_sources`).

Where two sources share a name, the second one is not asked, and the meals of the first one are returned a second time in
its place (`unnamed_answers_for_another`).
-/

namespace MenuBoard.MealCache

open MenuBoard.Calendar

/-! ## Blocks -/

/-- a call for a canteen's meals -/
def State.call (s : State) (canteen : Whole) (day : Day) : Except SourceFailure (List Meal) × Round :=
  collect (s.wish canteen day) s.sources s.cache

/-- In a call the source at this place is asked, and these are the meals that it gives. -/
structure Gives (s : State) (index : Nat) (canteen : Whole) (day : Day) (meals : List Meal) : Prop where
  part : (s.call canteen day).2.parts[index]? = some (.given meals)
  answer : ∃ source, s.sources[index]? = some source ∧ (source.ask canteen day).meals = .ok meals

/-- In some call of the run, made at this time, the source at this place gave these meals. -/
def Gave (start : State) (events : List Event) (index : Nat) (canteen : Whole) (day : Day) (time : Int)
    (meals : List Meal) : Prop :=
  ∃ before, before ++ [.get canteen day] <+: events ∧ (run start before).now = time ∧
    Gives (run start before) index canteen day meals

/-- What the part of the source at this place should be, in a call after a run: it fails, it gives its meals, or it gave
them in a call for the same canteen and day, less than a lifetime ago. Canteens are the same if they count the same. -/
def IsBlockOf (start : State) (events : List Event) (canteen : Whole) (day : Day) (index : Nat) : Part → Prop
  | .failed reason => ∃ source, (run start events).sources[index]? = some source ∧
      (source.ask canteen day).meals = .error reason
  | .given meals => Gives (run start events) index canteen day meals
  | .kept meals => ∃ asked time, asked.toInt = canteen.toInt ∧
      (run start events).now - time < (run start events).lifetime ∧
      Gave start (events ++ [.get canteen day]) index asked day time meals

/-- The sources at two places bear one name. -/
def SameName (sources : List Source) (index other : Nat) : Prop :=
  ∃ name, (sources.map Source.name)[index]? = some name ∧ (sources.map Source.name)[other]? = some name

theorem Gave.append {start : State} {events : List Event} {index : Nat} {canteen : Whole} {day : Day} {time : Int}
    {meals : List Meal} (h : Gave start events index canteen day time meals) (more : List Event) :
    Gave start (events ++ more) index canteen day time meals := by
  obtain ⟨before, hbefore, htime, hgives⟩ := h
  exact ⟨before, hbefore.trans (List.prefix_append events more), htime, hgives⟩

/-! ## One call -/

/-- what may be said of an entry: by its source's name, the number its canteen counts as, its day, its time and its meals -/
abbrev Record := (source : String) → (canteen : Int) → (day : Day) → (time : Int) → (meals : List Meal) → Prop

/-- It can be said of every entry. -/
def Holds (P : Record) (cache : MealCache) : Prop := ∀ e ∈ cache, P e.source e.canteen.toInt e.day e.time e.meals

/-- A part tells how its source fared, and a kept one what can be said of the entry that it is kept in. -/
def Accounts (P : Record) (wish : Wish) (source : Source) : Part → Prop
  | .failed reason => (source.ask wish.canteen wish.day).meals = .error reason
  | .given meals => (source.ask wish.canteen wish.day).meals = .ok meals
  | .kept meals => ∃ time, wish.now - time < wish.lifetime ∧ P source.name wish.canteen.toInt wish.day time meals

section Call

variable {P Q : Record} {wish : Wish} {source : Source} {cache : MealCache}

theorem Holds.mono (h : Holds P cache) (hPQ : ∀ source canteen day time meals, P source canteen day time meals →
    Q source canteen day time meals) : Holds Q cache := by
  intro e he
  exact hPQ _ _ _ _ _ (h e he)

theorem Holds.insert (h : Holds P cache) {e : CacheEntry} (he : P e.source e.canteen.toInt e.day e.time e.meals) :
    Holds P (cache.insert e) := by
  intro e' he'
  rcases mem_insert he' with hmem | ⟨htime, hmeals, hkey⟩
  · exact h e' hmem
  · -- an older entry that is replaced spells its canteen in its own way
    have hfor : e.isFor e'.source e'.canteen e'.day = true := by rw [← hkey]; exact isFor_self e'
    obtain ⟨hsource, hcanteen, hday⟩ := isFor_iff.1 hfor
    rw [htime, hmeals, ← hsource, ← hcanteen, ← hday]
    exact he

theorem Holds.held (h : Holds P cache) {name : String} {canteen : Whole} {day : Day} {time : Int} {meals : List Meal}
    (hheld : held cache name canteen day = some (time, meals)) : P name canteen.toInt day time meals := by
  obtain ⟨e, hfind, heq⟩ := Option.map_eq_some_iff.1 hheld
  obtain ⟨rfl, rfl⟩ := Prod.mk.inj heq
  unfold find? at hfind
  have hfor : e.isFor name canteen day = true := by simpa using List.find?_some hfind
  obtain ⟨rfl, hcanteen, rfl⟩ := isFor_iff.1 hfor
  rw [← hcanteen]
  exact h e (List.mem_of_find?_eq_some hfind)

theorem Holds.visit_accounts (h : Holds P cache) (wish : Wish) (source : Source) :
    Accounts P wish source (visit wish source cache).part := by
  rw [visit_part]
  unfold partOf
  by_cases hdue : isDue wish (MealCache.held cache source.name wish.canteen wish.day) = true
  · rw [if_pos hdue]
    unfold askedPart
    split
    · assumption
    · assumption
  · rw [if_neg hdue]
    cases hheld : MealCache.held cache source.name wish.canteen wish.day with
    | none => simp [hheld, isDue] at hdue
    | some known =>
      obtain ⟨time, meals⟩ := known
      have hfresh : wish.now - time < wish.lifetime := by simpa [hheld, isDue] using hdue
      exact ⟨time, hfresh, h.held hheld⟩

/-- What can be said of every entry, and of the meals that are given in a round, can be said of every entry after it, and
every part accounts for its source. -/
theorem Holds.round {sources : List Source} (h : Holds P cache)
    (hgiven : ∀ (index : Nat) (source : Source) (meals : List Meal), sources[index]? = some source →
      (round wish sources cache).parts[index]? = some (.given meals) →
      (source.ask wish.canteen wish.day).meals = .ok meals → P source.name wish.canteen.toInt wish.day wish.now meals) :
    Holds P (round wish sources cache).cache ∧
      ∀ (index : Nat) (source : Source) (part : Part), sources[index]? = some source →
        (round wish sources cache).parts[index]? = some part → Accounts P wish source part := by
  induction sources generalizing cache with
  | nil => exact ⟨h, by simp⟩
  | cons source rest ih =>
    have hfirst := h.visit_accounts wish source
    have hnext : Holds P (visit wish source cache).cache := by
      rw [visit_cache]
      cases hpart : (visit wish source cache).part with
      | kept meals => exact h
      | failed reason => exact h
      | given meals =>
        rw [hpart] at hfirst
        exact h.insert (hgiven 0 source meals rfl (congrArg some hpart) hfirst)
    obtain ⟨hcache, hparts⟩ := ih hnext fun index => hgiven (index + 1)
    refine ⟨hcache, fun index other part hother hpart => ?_⟩
    cases index with
    | zero =>
      obtain rfl := Option.some.inj hother
      obtain rfl := Option.some.inj hpart
      exact hfirst
    | succ index => exact hparts index other part hother hpart

end Call

/-! ## Runs -/

/-- A source of this name gave these meals in a call of the run. -/
def GivenBy (start : State) (events : List Event) : Record := fun name canteen day time meals =>
  ∃ index asked, (start.sources.map Source.name)[index]? = some name ∧ asked.toInt = canteen ∧
    Gave start events index asked day time meals

section Run

variable {start : State}

theorem run_snoc (s : State) (events : List Event) (e : Event) : run s (events ++ [e]) = (step (run s events) e).1 := by
  simp [run, List.foldl_append]

theorem names_run (s : State) (events : List Event) : (run s events).sources.map Source.name = s.sources.map Source.name := by
  induction events using List.reverseRecOn with
  | nil => rfl
  | append_singleton events e ih =>
    rw [run_snoc, ← ih]
    cases e with
    | advance seconds => rfl
    | behave index ask => exact names_modify _ index ask
    | get canteen day => rfl

theorem GivenBy.append {events : List Event} {name : String} {canteen : Int} {day : Day} {time : Int} {meals : List Meal}
    (h : GivenBy start events name canteen day time meals) (more : List Event) :
    GivenBy start (events ++ more) name canteen day time meals := by
  obtain ⟨index, asked, hname, hasked, hgave⟩ := h
  exact ⟨index, asked, hname, hasked, hgave.append more⟩

theorem holds_call {events : List Event} (h : Holds (GivenBy start events) (run start events).cache) (canteen : Whole)
    (day : Day) :
    let s := run start events
    Holds (GivenBy start (events ++ [.get canteen day])) (s.call canteen day).2.cache ∧
      ∀ (index : Nat) (source : Source) (part : Part), s.sources[index]? = some source →
        (s.call canteen day).2.parts[index]? = some part →
        Accounts (GivenBy start (events ++ [.get canteen day])) (s.wish canteen day) source part := by
  intro s
  have hkept : Holds (GivenBy start (events ++ [.get canteen day])) s.cache :=
    h.mono fun _ _ _ _ _ hgiven => hgiven.append _
  apply hkept.round
  intro index source meals hsource hpart hanswer
  have hname : (start.sources.map Source.name)[index]? = some source.name := by
    rw [← names_run start events, List.getElem?_map]
    exact congrArg (Option.map Source.name) hsource
  exact ⟨index, canteen, hname, rfl, events, List.prefix_rfl, rfl, hpart, source, hsource, hanswer⟩

/-- **Every entry of the cache was given by a source of its name** in some call of the run. -/
theorem holds_run (hcache : start.cache = []) (events : List Event) :
    Holds (GivenBy start events) (run start events).cache := by
  induction events using List.reverseRecOn with
  | nil =>
    intro e he
    have hnone : (run start []).cache = [] := hcache
    simp [hnone] at he
  | append_singleton events e ih =>
    rw [run_snoc]
    cases e with
    | advance seconds => exact ih.mono fun _ _ _ _ _ hgiven => hgiven.append _
    | behave index ask => exact ih.mono fun _ _ _ _ _ hgiven => hgiven.append _
    | get canteen day => exact (holds_call ih canteen day).1

end Run

/-- **The block of a source is its own if no other source bears its name.** After every run, whatever the sources are
called, the meals of a call are made up of one block for each source, in their order. The block of a source is empty, as
the source failed in this call, or a source of the same name gave it, now or less than a lifetime ago; and if there is no
other source of that name, it was this source. -/
theorem blocks_of_sources (sources : List Source) (lifetime now : Int) (events : List Event) (canteen : Whole) (day : Day) :
    let start : State := { sources, lifetime, now }
    let called := (run start events).call canteen day
    called.2.parts.length = sources.length ∧
      (∀ meals, called.1 = .ok meals → meals = called.2.parts.flatMap Part.meals) ∧
      ∀ (index : Nat) (part : Part), called.2.parts[index]? = some part →
        (∃ other, SameName sources index other ∧ IsBlockOf start events canteen day other part) ∧
        ((∀ other, SameName sources index other → other = index) → IsBlockOf start events canteen day index part) := by
  intro start called
  have hnames : (run start events).sources.map Source.name = sources.map Source.name := names_run start events
  have hlength : called.2.parts.length = sources.length := by
    have hsources : (run start events).sources.length = sources.length := by simpa using congrArg List.length hnames
    exact (round_length _ _ _).trans hsources
  refine ⟨hlength, fun meals hmeals => outcome_eq_ok hmeals, fun index part hpart => ?_⟩
  have hblock : ∃ other, SameName sources index other ∧ IsBlockOf start events canteen day other part := by
    have hindex : index < (run start events).sources.length := by
      obtain ⟨hlt, -⟩ := List.getElem?_eq_some_iff.1 hpart
      exact (round_length _ _ _) ▸ hlt
    have hsource := List.getElem?_eq_getElem hindex
    have hname : (sources.map Source.name)[index]? = some ((run start events).sources[index]).name := by
      rw [← hnames, List.getElem?_map, hsource, Option.map_some]
    have haccounts := (holds_call (holds_run rfl events) canteen day).2 index _ part hsource hpart
    cases part with
    | failed reason => exact ⟨index, ⟨_, hname, hname⟩, _, hsource, haccounts⟩
    | given meals => exact ⟨index, ⟨_, hname, hname⟩, hpart, _, hsource, haccounts⟩
    | kept meals =>
      obtain ⟨time, hfresh, other, asked, hother, hasked, hgave⟩ := haccounts
      exact ⟨other, ⟨_, hname, hother⟩, asked, time, hasked, hfresh, hgave⟩
  refine ⟨hblock, fun hunique => ?_⟩
  obtain ⟨other, hsame, hother⟩ := hblock
  rw [← hunique other hsame]
  exact hother

/-- a source that has one meal on every day -/
def serving (name : String) (meal : Meal) : Source := ⟨name, fun _ _ => { meals := .ok [meal] }⟩

def lentils : Meal := { id := 1, name := "Linsen" }

def rice : Meal := { id := 2, name := "Reis" }

/-- A source and its mirror are asked, and after nearly an hour both are still answered for by what they gave themselves. -/
theorem mirror_answers_for_itself : ∃ day : Day, day.date = (2024, 1, 3) ∧
    let sources := [serving "OpenMensa" lentils, serving "OpenMensaMirror" rice]
    let start : State := { sources, lifetime := 3600, now := 0 }
    let events := [.get (.int 63) day, .advance 3599]
    let called := (run start events).call (.int 63) day
    (called.1 = .ok [lentils, rice] ∧ [lentils, rice] = called.2.parts.flatMap Part.meals) ∧
      called.2.parts[1]? = some (.kept [rice]) ∧ (∀ other, SameName sources 1 other → other = 1) ∧
      IsBlockOf start events (.int 63) day 1 (.kept [rice]) := by
  refine ⟨⟨738887, by decide⟩, by decide +kernel, ?_⟩
  intro sources start events called
  have hown : ∀ other, SameName sources 1 other → other = 1 := by
    rintro other ⟨name, hname, hother⟩
    obtain rfl : "OpenMensaMirror" = name := Option.some.inj hname
    rcases other with _ | _ | other
    · exact absurd (Option.some.inj hother) (by decide)
    · rfl
    · cases hother
  obtain ⟨-, hmeals, hblocks⟩ := blocks_of_sources sources 3600 0 events (.int 63) ⟨738887, by decide⟩
  have hcalled : called.1 = .ok [lentils, rice] := rfl
  exact ⟨⟨hcalled, hmeals _ hcalled⟩, rfl, hown, (hblocks 1 (.kept [rice]) rfl).2 hown⟩

/-- **One source may answer for another one of its name.** Two sources that were given no name of their own are asked for
the first time. The second one has rice, but it is not asked, and the lentils of the first one are returned in its place. -/
theorem unnamed_answers_for_another : ∃ day : Day, day.date = (2024, 1, 3) ∧
    let start : State := { sources := [serving "Unknown" lentils, serving "Unknown" rice], lifetime := 3600 }
    let called := (run start []).call (.int 63) day
    called.1 = .ok [lentils, lentils] ∧ called.2.parts = [.given [lentils], .kept [lentils]] ∧
      ¬ ∀ (index : Nat) (part : Part), called.2.parts[index]? = some part → IsBlockOf start [] (.int 63) day index part := by
  refine ⟨⟨738887, by decide⟩, by decide +kernel, rfl, rfl, fun hblocks => ?_⟩
  obtain ⟨asked, time, -, -, before, hbefore, -, -, source, hsource, hanswer⟩ := hblocks 1 (.kept [lentils]) rfl
  -- the call is the first one, so there is no other in which the second source could have given lentils
  have hlength : before.length + 1 ≤ 1 := by simpa using hbefore.length_le
  obtain rfl : before = [] := List.eq_nil_of_length_eq_zero (by omega)
  obtain rfl := Option.some.inj hsource
  exact absurd (congrArg (List.map Meal.id) (Except.ok.inj hanswer)) (by decide)

end MenuBoard.MealCache
