import Mathlib.Data.List.Basic
import MenuBoard.MealCache.Run

/-!
The cache as a memo table.

The reference keeps every successful fetch for ever, and looks for the last one of a source, canteen and day when it
is asked. All sources of a call are judged by what was known before the call. The cache keeps one entry for each
source, canteen and day, and its sources are visited one after the other, each with the cache that the one before it
left.

`Refines` relates the two; `step_refines` says that every event keeps it, `run_refines_memo` that every run does, and
that every call is answered as the reference answers it.
-/

namespace MenuBoard.MealCache

open MenuBoard.Calendar

/-! ## The reference -/

/-- a successful fetch: of which source, for which canteen and day, when, and what it brought -/
structure Fetch where
  source : String
  canteen : Int
  day : Day
  time : Int
  meals : List Meal

def Fetch.isOf (f : Fetch) (source : String) (canteen : Int) (day : Day) : Bool :=
  f.source == source && f.canteen == canteen && f.day == day

/-- when something was last fetched, and the meals it brought -/
abbrev Known := Option (Int × List Meal)

/-- the last of the fetches of a source for a canteen and a day -/
def last? (fetches : List Fetch) (source : String) (canteen : Int) (day : Day) : Known :=
  (fetches.filter (·.isOf source canteen day)).getLast?.map fun f => (f.time, f.meals)

/-- nothing was fetched yet, or the last fetch is a lifetime ago or longer -/
def isDue (wish : Wish) : Known → Bool
  | none => true
  | some (time, _) => wish.lifetime ≤ wish.now - time

/-- the part of a source that is asked -/
def askedPart (wish : Wish) (source : Source) : Part :=
  match (source.ask wish.canteen wish.day).meals with
  | .ok meals => .given meals
  | .error reason => .failed reason

/-- the part of a source of which this is known -/
def partOf (wish : Wish) (known : Known) (source : Source) : Part :=
  if isDue wish known then askedPart wish source else .kept (known.elim [] Prod.snd)

/-- the fetch that a part stands for, if it is a successful one -/
def fetchOf? (wish : Wish) (source : Source) : Part → Option Fetch
  | .given meals => some ⟨source.name, wish.canteen.toInt, wish.day, wish.now, meals⟩
  | _ => none

/-- the reference in use: all successful fetches so far, in their order -/
structure Memo where
  sources : List Source
  lifetime : Int
  now : Int := 0
  fetches : List Fetch := []

namespace Memo

def wish (m : Memo) (canteen : Whole) (day : Day) : Wish where
  canteen := canteen
  day := day
  now := m.now
  lifetime := m.lifetime

/-- what is known of a source for a canteen and a day -/
def known (m : Memo) (source : String) (canteen : Whole) (day : Day) : Known :=
  last? m.fetches source canteen.toInt day

/-- a source's part in a call -/
def part (m : Memo) (canteen : Whole) (day : Day) (source : Source) : Part :=
  partOf (m.wish canteen day) (m.known source.name canteen day) source

def step (m : Memo) : Event → Memo
  | .advance seconds => { m with now := m.now + seconds }
  | .behave index ask => { m with sources := m.sources.modify index fun source => { source with ask } }
  | .get canteen day =>
    let fetched := m.sources.filterMap fun source => fetchOf? (m.wish canteen day) source (m.part canteen day source)
    { m with fetches := m.fetches ++ fetched }

def run (m : Memo) (events : List Event) : Memo := events.foldl step m

end Memo

/-! ## What the cache holds -/

/-- when an entry was made, and its meals -/
def held (cache : MealCache) (source : String) (canteen : Whole) (day : Day) : Known :=
  (cache.find? source canteen day).map fun e => (e.time, e.meals)

/-- no two entries are for the same source, canteen and day -/
def Distinct (cache : MealCache) : Prop := cache.Pairwise fun e e' => e'.isFor e.source e.canteen e.day = false

theorem isFor_iff {e : CacheEntry} {source : String} {canteen : Whole} {day : Day} :
    e.isFor source canteen day = true ↔ e.source = source ∧ e.canteen.toInt = canteen.toInt ∧ e.day = day := by
  simp [CacheEntry.isFor, and_assoc]

theorem isFor_self (e : CacheEntry) : e.isFor e.source e.canteen e.day = true := isFor_iff.2 ⟨rfl, rfl, rfl⟩

theorem isFor_trans {e e' : CacheEntry} {source : String} {canteen : Whole} {day : Day}
    (h : e.isFor source canteen day = true) (h' : e'.isFor source canteen day = true) :
    e.isFor e'.source e'.canteen e'.day = true := by
  obtain ⟨hs, hc, hd⟩ := isFor_iff.1 h
  obtain ⟨hs', hc', hd'⟩ := isFor_iff.1 h'
  exact isFor_iff.2 ⟨hs.trans hs'.symm, hc.trans hc'.symm, hd.trans hd'.symm⟩

theorem isFor_congr {e e' : CacheEntry} (h : e.isFor e'.source e'.canteen e'.day = true) (source : String) (canteen : Whole)
    (day : Day) : e.isFor source canteen day = e'.isFor source canteen day := by
  obtain ⟨hsource, hcanteen, hday⟩ := isFor_iff.1 h
  simp [CacheEntry.isFor, hsource, hcanteen, hday]

theorem held_cons (e : CacheEntry) (cache : MealCache) (source : String) (canteen : Whole) (day : Day) :
    held (e :: cache) source canteen day =
      if e.isFor source canteen day then some (e.time, e.meals) else held cache source canteen day := by
  cases h : e.isFor source canteen day <;> simp [held, find?, h]

/-- A new entry is found under its key, and changes nothing under another one. -/
theorem held_insert (cache : MealCache) (e : CacheEntry) (source : String) (canteen : Whole) (day : Day) :
    held (cache.insert e) source canteen day =
      if e.isFor source canteen day then some (e.time, e.meals) else held cache source canteen day := by
  induction cache with
  | nil => exact held_cons e [] source canteen day
  | cons old rest ih =>
    unfold insert
    by_cases hsame : old.isFor e.source e.canteen e.day = true
    · -- the older entry keeps its place and takes over time and meals
      have hkey := isFor_congr hsame source canteen day
      have hnew : CacheEntry.isFor { old with time := e.time, meals := e.meals } source canteen day =
        e.isFor source canteen day := hkey
      rw [if_pos hsame, held_cons, held_cons, hkey, hnew]
      split <;> rfl
    · rw [if_neg hsame, held_cons, ih, held_cons]
      by_cases hold : old.isFor source canteen day = true
      · have hne : e.isFor source canteen day = false := by
          refine Bool.eq_false_iff.2 fun he => ?_
          exact hsame (isFor_trans hold he)
        simp only [hold, hne, if_true, Bool.false_eq_true, if_false]
      · simp only [hold, Bool.false_eq_true, if_false]

theorem mem_insert {cache : MealCache} {e e' : CacheEntry} (h : e' ∈ cache.insert e) :
    e' ∈ cache ∨ (e'.time = e.time ∧ e'.meals = e.meals ∧
      ∀ source canteen day, e'.isFor source canteen day = e.isFor source canteen day) := by
  induction cache with
  | nil =>
    obtain rfl := List.mem_singleton.1 h
    exact .inr ⟨rfl, rfl, fun _ _ _ => rfl⟩
  | cons old rest ih =>
    unfold insert at h
    split at h
    · next hsame =>
      rcases List.mem_cons.1 h with rfl | hmem
      · exact .inr ⟨rfl, rfl, isFor_congr hsame⟩
      · exact .inl (List.mem_cons_of_mem _ hmem)
    · rcases List.mem_cons.1 h with rfl | hmem
      · exact .inl List.mem_cons_self
      · exact (ih hmem).imp_left (List.mem_cons_of_mem _)

/-- A new entry takes the place of an older one, so the entries stay distinct. -/
theorem Distinct.insert {cache : MealCache} (h : Distinct cache) (e : CacheEntry) : Distinct (cache.insert e) := by
  unfold Distinct at *
  induction cache with
  | nil => exact List.pairwise_singleton _ _
  | cons old rest ih =>
    obtain ⟨hold, hrest⟩ := List.pairwise_cons.1 h
    unfold MealCache.insert
    split
    · exact List.pairwise_cons.2 ⟨hold, hrest⟩
    · next hother =>
      refine List.pairwise_cons.2 ⟨fun e' he' => ?_, ih hrest⟩
      rcases mem_insert he' with hmem | ⟨-, -, hkey⟩
      · exact hold e' hmem
      · rw [hkey]
        refine Bool.eq_false_iff.2 fun hfor => ?_
        exact hother (isFor_trans (isFor_self old) hfor)

/-- Every entry of distinct ones is the one that is found under its key. -/
theorem Distinct.held_eq {cache : MealCache} (h : Distinct cache) {e : CacheEntry} (he : e ∈ cache) :
    held cache e.source e.canteen e.day = some (e.time, e.meals) := by
  induction cache with
  | nil => cases he
  | cons old rest ih =>
    obtain ⟨hold, hrest⟩ := List.pairwise_cons.1 h
    rw [held_cons]
    rcases List.mem_cons.1 he with rfl | hmem
    · exact if_pos (isFor_self e)
    · have hother : old.isFor e.source e.canteen e.day = false := by
        refine Bool.eq_false_iff.2 fun hfor => ?_
        have hback := isFor_trans (isFor_self e) hfor
        rw [hold e hmem] at hback
        cases hback
      rw [hother]
      exact ih hrest hmem

/-! ## One round -/

theorem last?_append (a b : List Fetch) (source : String) (canteen : Int) (day : Day) :
    last? (a ++ b) source canteen day = (last? b source canteen day).or (last? a source canteen day) := by
  unfold last?
  rw [List.filter_append, List.getLast?_append, Option.map_or]

theorem last?_singleton (f : Fetch) (source : String) (canteen : Int) (day : Day) :
    last? [f] source canteen day = if f.isOf source canteen day then some (f.time, f.meals) else none := by
  cases h : f.isOf source canteen day <;> simp [last?, h]

theorem last?_eq_none {fetches : List Fetch} {source : String} (h : ∀ f ∈ fetches, f.source ≠ source) (canteen : Int)
    (day : Day) : last? fetches source canteen day = none := by
  have hnil : fetches.filter (·.isOf source canteen day) = [] := by
    refine List.filter_eq_nil_iff.2 fun f hf hof => h f hf ?_
    simp only [Fetch.isOf, Bool.and_eq_true, beq_iff_eq] at hof
    exact hof.1.1
  unfold last?
  rw [hnil]
  rfl

/-- the visit of a source that is asked -/
def asked (wish : Wish) (source : Source) (cache : MealCache) : Visit :=
  match (source.ask wish.canteen wish.day).meals with
  | .ok meals =>
    { part := .given meals
      cache := cache.insert { source := source.name, canteen := wish.canteen, day := wish.day, time := wish.now, meals }
      calls := (source.ask wish.canteen wish.day).calls
      notices := (source.ask wish.canteen wish.day).notices }
  | .error reason =>
    { part := .failed reason
      cache
      calls := (source.ask wish.canteen wish.day).calls
      notices := (source.ask wish.canteen wish.day).notices ++ [.sourceFailed source.name reason] }

/-- A source is asked exactly if what the cache holds of it is due. -/
theorem visit_eq (wish : Wish) (source : Source) (cache : MealCache) : visit wish source cache =
    if isDue wish (held cache source.name wish.canteen wish.day) then asked wish source cache
    else { part := .kept ((held cache source.name wish.canteen wish.day).elim [] Prod.snd), cache } := by
  unfold visit held
  cases hfind : cache.find? source.name wish.canteen wish.day with
  | none => rfl
  | some e =>
    by_cases hfresh : wish.now - e.time < wish.lifetime
    · have hdue : isDue wish (some (e.time, e.meals)) = false := decide_eq_false (by omega)
      have hkept : (some e).filter (·.isFresh wish.lifetime wish.now) = some e :=
        Option.filter_some_pos (decide_eq_true hfresh)
      rw [Option.map_some, hdue, hkept]
      rfl
    · have hdue : isDue wish (some (e.time, e.meals)) = true := decide_eq_true (by omega)
      have hstale : e.isFresh wish.lifetime wish.now = false := decide_eq_false hfresh
      have hgone : (some e).filter (·.isFresh wish.lifetime wish.now) = none := by simp [hstale]
      rw [Option.map_some, hdue, hgone]
      rfl

theorem visit_part (wish : Wish) (source : Source) (cache : MealCache) :
    (visit wish source cache).part = partOf wish (held cache source.name wish.canteen wish.day) source := by
  rw [visit_eq]
  unfold partOf
  split
  · unfold asked askedPart
    split <;> rfl
  · rfl

theorem visit_calls (wish : Wish) (source : Source) (cache : MealCache) : (visit wish source cache).calls =
    if isDue wish (held cache source.name wish.canteen wish.day) then (source.ask wish.canteen wish.day).calls else [] := by
  rw [visit_eq]
  split
  · unfold asked
    split <;> rfl
  · rfl

theorem visit_cache (wish : Wish) (source : Source) (cache : MealCache) :
    (visit wish source cache).cache = match (visit wish source cache).part with
      | .given meals => cache.insert
          { source := source.name, canteen := wish.canteen, day := wish.day, time := wish.now, meals }
      | _ => cache := by
  rw [visit_eq]
  split
  · unfold asked
    cases (source.ask wish.canteen wish.day).meals <;> rfl
  · rfl

theorem held_visit (wish : Wish) (source : Source) (cache : MealCache) (name : String) (canteen : Whole) (day : Day) :
    held (visit wish source cache).cache name canteen day =
      (last? (fetchOf? wish source (visit wish source cache).part).toList name canteen.toInt day).or
        (held cache name canteen day) := by
  rw [visit_cache]
  cases (visit wish source cache).part with
  | kept meals => rfl
  | failed reason => rfl
  | given meals =>
    have hlast : last? (fetchOf? wish source (.given meals)).toList name canteen.toInt day =
        if CacheEntry.isFor ⟨source.name, wish.canteen, wish.day, wish.now, meals⟩ name canteen day
        then some (wish.now, meals) else none := last?_singleton _ name canteen.toInt day
    rw [held_insert, hlast]
    split <;> rfl

theorem Distinct.visit {cache : MealCache} (h : Distinct cache) (wish : Wish) (source : Source) :
    Distinct (visit wish source cache).cache := by
  rw [visit_cache]
  split
  · exact h.insert _
  · exact h

theorem source_of_fetchOf? {wish : Wish} {source : Source} {part : Part} {f : Fetch}
    (h : fetchOf? wish source part = some f) : f.source = source.name := by
  cases part with
  | kept meals => cases h
  | failed reason => cases h
  | given meals =>
    obtain rfl := Option.some.inj h
    rfl

theorem last?_fetchOf?_eq_none {wish : Wish} {source : Source} {name : String} (h : source.name ≠ name) (part : Part)
    (canteen : Int) (day : Day) : last? (fetchOf? wish source part).toList name canteen day = none := by
  refine last?_eq_none (fun f hf => ?_) canteen day
  rw [source_of_fetchOf? (Option.mem_toList.1 hf)]
  exact h

theorem held_visit_of_ne {wish : Wish} {source : Source} {name : String} (h : source.name ≠ name) (cache : MealCache)
    (canteen : Whole) (day : Day) :
    held (visit wish source cache).cache name canteen day = held cache name canteen day := by
  rw [held_visit, last?_fetchOf?_eq_none h, Option.none_or]

/-- the successful fetches of a call, all judged by what the cache held before it -/
def fetchesOf (wish : Wish) (sources : List Source) (cache : MealCache) : List Fetch :=
  sources.filterMap fun source =>
    fetchOf? wish source (partOf wish (held cache source.name wish.canteen wish.day) source)

theorem fetchesOf_cons (wish : Wish) (source : Source) (rest : List Source) (cache : MealCache) :
    fetchesOf wish (source :: rest) cache =
      (fetchOf? wish source (visit wish source cache).part).toList ++ fetchesOf wish rest cache := by
  rw [visit_part]
  unfold fetchesOf
  rw [List.filterMap_cons]
  cases fetchOf? wish source (partOf wish (held cache source.name wish.canteen wish.day) source) <;> rfl

theorem last?_fetchesOf_eq_none {wish : Wish} {sources : List Source} {name : String}
    (h : name ∉ sources.map Source.name) (cache : MealCache) (canteen : Int) (day : Day) :
    last? (fetchesOf wish sources cache) name canteen day = none := by
  refine last?_eq_none (fun f hf hname => h ?_) canteen day
  obtain ⟨source, hmem, hfetch⟩ := List.mem_filterMap.1 hf
  rw [← hname, source_of_fetchOf? hfetch]
  exact List.mem_map_of_mem hmem

/-- Of the fetches of a call, a source's own is the last one for it. -/
theorem last?_fetchesOf {wish : Wish} {sources : List Source} (hnames : (sources.map Source.name).Nodup)
    {source : Source} (hmem : source ∈ sources) (cache : MealCache) :
    last? (fetchesOf wish sources cache) source.name wish.canteen.toInt wish.day =
      (fetchOf? wish source (partOf wish (held cache source.name wish.canteen wish.day) source)).map
        fun f => (f.time, f.meals) := by
  induction sources with
  | nil => cases hmem
  | cons other rest ih =>
    obtain ⟨hnotin, hrest⟩ := List.nodup_cons.1 hnames
    rw [fetchesOf_cons, last?_append, visit_part]
    rcases List.mem_cons.1 hmem with rfl | hmem
    · rw [last?_fetchesOf_eq_none hnotin, Option.none_or]
      cases partOf wish (held cache source.name wish.canteen wish.day) source with
      | kept meals => rfl
      | failed reason => rfl
      | given meals => simp [fetchOf?, last?_singleton, Fetch.isOf]
    · have hne : other.name ≠ source.name := fun hname => hnotin (hname ▸ List.mem_map_of_mem hmem)
      rw [last?_fetchOf?_eq_none hne, Option.or_none, ih hrest hmem]

/-- what a round should come to, if every source is judged by what the cache held before it -/
structure RoundSpec (wish : Wish) (sources : List Source) (cache : MealCache) (r : Round) : Prop where
  parts : r.parts = sources.map fun source => partOf wish (held cache source.name wish.canteen wish.day) source
  calls : r.calls = (sources.filter fun source => isDue wish (held cache source.name wish.canteen wish.day)).flatMap
    fun source => (source.ask wish.canteen wish.day).calls
  held : ∀ name canteen day, held r.cache name canteen day =
    (last? (fetchesOf wish sources cache) name canteen.toInt day).or (held cache name canteen day)
  distinct : Distinct cache → Distinct r.cache

/-- **A round is a call of the reference.** Its sources are visited one after the other, but as their names differ
each is judged by what was held before. -/
theorem round_spec {wish : Wish} {sources : List Source} (hnames : (sources.map Source.name).Nodup) (cache : MealCache) :
    RoundSpec wish sources cache (round wish sources cache) := by
  induction sources generalizing cache with
  | nil => exact ⟨rfl, rfl, fun _ _ _ => rfl, id⟩
  | cons source rest ih =>
    obtain ⟨hnotin, hrest⟩ := List.nodup_cons.1 hnames
    have later := ih hrest (visit wish source cache).cache
    have hsame : ∀ other ∈ rest, MealCache.held (visit wish source cache).cache other.name wish.canteen wish.day =
        MealCache.held cache other.name wish.canteen wish.day := by
      intro other hother
      refine held_visit_of_ne (fun hname => hnotin ?_) cache wish.canteen wish.day
      exact hname ▸ List.mem_map_of_mem hother
    have hfetches : fetchesOf wish rest (visit wish source cache).cache = fetchesOf wish rest cache := by
      refine List.filterMap_congr fun other hother => ?_
      rw [hsame other hother]
    constructor
    case parts =>
      rw [List.map_cons, ← visit_part]
      refine congrArg (_ :: ·) (later.parts.trans ?_)
      refine List.map_congr_left fun other hother => ?_
      rw [hsame other hother]
    case calls =>
      have hdue := List.filter_congr fun other (hother : other ∈ rest) => congrArg (isDue wish) (hsame other hother)
      have hcalls : (round wish (source :: rest) cache).calls =
        (visit wish source cache).calls ++ (round wish rest (visit wish source cache).cache).calls := rfl
      rw [hcalls, later.calls, hdue, visit_calls, List.filter_cons]
      split <;> rfl
    case held =>
      intro name canteen day
      rw [fetchesOf_cons, last?_append, Option.or_assoc, ← held_visit, ← hfetches]
      exact later.held name canteen day
    case distinct => exact fun h => later.distinct (h.visit wish source)

/-! ## Runs -/

/-- the cache stands where the reference stands -/
structure Refines (s : State) (m : Memo) : Prop where
  sources : s.sources = m.sources
  lifetime : s.lifetime = m.lifetime
  now : s.now = m.now
  /-- The cache holds the last successful fetch of every source, canteen and day. -/
  held : ∀ source canteen day, held s.cache source canteen day = m.known source canteen day
  /-- The cache holds one entry for each of them. -/
  distinct : Distinct s.cache

/-- a call of the cache for a canteen's meals is a call of the reference -/
structure Answers (s : State) (m : Memo) (canteen : Whole) (day : Day) : Prop where
  parts : (collect (s.wish canteen day) s.sources s.cache).2.parts = m.sources.map (m.part canteen day)
  /-- Exactly the sources that are due are asked. -/
  calls : (collect (s.wish canteen day) s.sources s.cache).2.calls =
    (m.sources.filter fun source => isDue (m.wish canteen day) (m.known source.name canteen day)).flatMap
      fun source => (source.ask canteen day).calls
  /-- The meals are those of all sources, kept or given, in their order. -/
  meals : ∀ meals, (collect (s.wish canteen day) s.sources s.cache).1 = .ok meals →
    meals = m.sources.flatMap fun source => (m.part canteen day source).meals
  /-- Only if there is no meal and a source failed does the call fail. -/
  fails : (∃ failure, (collect (s.wish canteen day) s.sources s.cache).1 = .error failure) ↔
    (m.sources.flatMap fun source => (m.part canteen day source).meals) = [] ∧
      ∃ source ∈ m.sources, ∃ reason, m.part canteen day source = .failed reason
  /-- A failure leaves what is held as it was. -/
  failed : ∀ source ∈ m.sources, ∀ reason, m.part canteen day source = .failed reason →
    MealCache.held (collect (s.wish canteen day) s.sources s.cache).2.cache source.name canteen day =
      m.known source.name canteen day
  /-- What a source gives is held, whatever becomes of the call. -/
  given : ∀ source ∈ m.sources, ∀ meals, m.part canteen day source = .given meals →
    MealCache.held (collect (s.wish canteen day) s.sources s.cache).2.cache source.name canteen day = some (m.now, meals)

/-- A call that comes to meals comes to those of all parts. -/
theorem outcome_eq_ok {sources : List Source} {parts : List Part} {meals : List Meal}
    (h : outcome sources parts = .ok meals) : meals = parts.flatMap Part.meals := by
  unfold outcome at h
  simp only at h
  split at h
  · cases h
  · exact (Except.ok.inj h).symm

theorem failures_cons_eq_nil {source : Source} {rest : List Source} {part : Part} {parts : List Part} :
    failures (source :: rest) (part :: parts) = [] ↔ (∀ reason, part ≠ .failed reason) ∧ failures rest parts = [] := by
  unfold failures
  rw [List.zip_cons_cons]
  cases part <;> simp

theorem failures_map_ne_nil {sources : List Source} {part : Source → Part} :
    failures sources (sources.map part) ≠ [] ↔ ∃ source ∈ sources, ∃ reason, part source = .failed reason := by
  induction sources with
  | nil => simp [failures]
  | cons source rest ih =>
    rw [List.map_cons, Ne, failures_cons_eq_nil, List.exists_mem_cons_iff, ← ih, not_and_or]
    simp

theorem outcome_eq_error {sources : List Source} {parts : List Part} :
    (∃ failure, outcome sources parts = .error failure) ↔ parts.flatMap Part.meals = [] ∧ failures sources parts ≠ [] := by
  simp only [outcome]
  split
  · next h => simpa using h
  · next h => simpa using h

section Step

variable {s : State} {m : Memo}

theorem Refines.known_eq (h : Refines s m) (canteen : Whole) (day : Day) (name : String) :
    MealCache.held s.cache name (m.wish canteen day).canteen (m.wish canteen day).day = m.known name canteen day :=
  h.held name canteen day

/-- A call on the cache does what the reference says of each source. -/
theorem Refines.collect_spec (h : Refines s m) (hnames : (m.sources.map Source.name).Nodup) (canteen : Whole) (day : Day) :
    RoundSpec (m.wish canteen day) m.sources s.cache (collect (s.wish canteen day) s.sources s.cache).2 := by
  have hwish : s.wish canteen day = m.wish canteen day := by
    unfold State.wish Memo.wish
    rw [h.now, h.lifetime]
  rw [hwish, h.sources]
  exact round_spec hnames s.cache

theorem Refines.fetches_eq (h : Refines s m) (canteen : Whole) (day : Day) :
    fetchesOf (m.wish canteen day) m.sources s.cache =
      m.sources.filterMap fun source => fetchOf? (m.wish canteen day) source (m.part canteen day source) := by
  refine List.filterMap_congr fun source _ => ?_
  rw [h.known_eq, Memo.part]

theorem Refines.answers (h : Refines s m) (hnames : (m.sources.map Source.name).Nodup) (canteen : Whole) (day : Day) :
    Answers s m canteen day := by
  have hspec := h.collect_spec hnames canteen day
  have hparts : (collect (s.wish canteen day) s.sources s.cache).2.parts = m.sources.map (m.part canteen day) := by
    rw [hspec.parts]
    refine List.map_congr_left fun source _ => ?_
    rw [h.known_eq, Memo.part]
  have hheld : ∀ source ∈ m.sources,
      MealCache.held (collect (s.wish canteen day) s.sources s.cache).2.cache source.name canteen day =
        ((fetchOf? (m.wish canteen day) source (m.part canteen day source)).map fun f => (f.time, f.meals)).or
          (m.known source.name canteen day) := by
    intro source hmem
    have hlast := @last?_fetchesOf (m.wish canteen day) _ hnames source hmem s.cache
    rw [h.known_eq] at hlast
    rw [hspec.held, h.held]
    exact congrArg (Option.or · _) hlast
  constructor
  case parts => exact hparts
  case calls =>
    rw [hspec.calls]
    simp only [h.known_eq]
    rfl
  case meals =>
    intro meals hok
    rw [outcome_eq_ok hok]
    exact (congrArg (List.flatMap Part.meals) hparts).trans (List.flatMap_map _ _ _)
  case fails =>
    rw [← failures_map_ne_nil, ← List.flatMap_map, ← hparts, ← h.sources]
    exact outcome_eq_error
  case failed =>
    intro source hmem reason hpart
    rw [hheld source hmem, hpart]
    rfl
  case given =>
    intro source hmem meals hpart
    rw [hheld source hmem, hpart]
    rfl

theorem names_modify (sources : List Source) (index : Nat) (ask : Whole → Day → SourceAnswer) :
    (sources.modify index fun source => { source with ask }).map Source.name = sources.map Source.name := by
  induction sources generalizing index with
  | nil => cases index <;> rfl
  | cons source rest ih =>
    cases index with
    | zero => rfl
    | succ index => exact congrArg (source.name :: ·) (ih index)

theorem Memo.names_step (m : Memo) (e : Event) : (m.step e).sources.map Source.name = m.sources.map Source.name := by
  cases e with
  | advance seconds => rfl
  | behave index ask => exact names_modify m.sources index ask
  | get canteen day => rfl

/-- Every event keeps the cache where the reference stands. -/
theorem step_refines (h : Refines s m) (hnames : (m.sources.map Source.name).Nodup) (e : Event) :
    Refines (step s e).1 (m.step e) := by
  cases e with
  | advance seconds =>
    exact { h with now := congrArg (· + seconds) h.now }
  | behave index ask =>
    refine { h with sources := ?_ }
    simp only [step, Memo.step, h.sources]
  | get canteen day =>
    have hspec := h.collect_spec hnames canteen day
    refine { h with held := fun source canteen' day' => ?_, distinct := hspec.distinct h.distinct }
    have hknown : (m.step (.get canteen day)).known source canteen' day' =
        (last? (fetchesOf (m.wish canteen day) m.sources s.cache) source canteen'.toInt day').or
          (m.known source canteen' day') := by
      rw [h.fetches_eq]
      exact last?_append _ _ source canteen'.toInt day'
    rw [hknown, ← h.held]
    exact hspec.held source canteen' day'

theorem foldl_refines (h : Refines s m) (hnames : (m.sources.map Source.name).Nodup) (events : List Event) :
    Refines (run s events) (m.run events) ∧ ((m.run events).sources.map Source.name).Nodup := by
  induction events generalizing s m with
  | nil => exact ⟨h, hnames⟩
  | cons e events ih =>
    have hnext : ((m.step e).sources.map Source.name).Nodup := by rwa [m.names_step]
    exact ih (step_refines h hnames e) hnext

end Step

/-- **The cache refines the reference.** After every run of a cache whose sources have different names, it holds the last
successful fetch of every source, canteen and day, and nothing else, and every call is answered as the reference answers
it. -/
theorem run_refines_memo {sources : List Source} (hnames : (sources.map Source.name).Nodup) (lifetime start : Int)
    (events : List Event) :
    Refines (run { sources, lifetime, now := start } events) (Memo.run { sources, lifetime, now := start } events) ∧
      (∀ e ∈ (run { sources, lifetime, now := start } events).cache,
        (Memo.run { sources, lifetime, now := start } events).known e.source e.canteen e.day = some (e.time, e.meals)) ∧
      ∀ canteen day, Answers (run { sources, lifetime, now := start } events)
        (Memo.run { sources, lifetime, now := start } events) canteen day := by
  have hstart : Refines { sources, lifetime, now := start } { sources, lifetime, now := start } :=
    ⟨rfl, rfl, rfl, fun _ _ _ => rfl, List.Pairwise.nil⟩
  obtain ⟨hrefines, hstill⟩ := foldl_refines hstart hnames events
  refine ⟨hrefines, fun e he => ?_, hrefines.answers hstill⟩
  rw [← hrefines.held]
  exact hrefines.distinct.held_eq he

/-- An empty answer is kept as any other is, and a source that fails leaves nothing behind. -/
theorem empty_answer_is_held :
    ["OpenMensa", "OpenMensaMirror"].Nodup ∧ ∃ s m,
      s = run { sources := [⟨"OpenMensa", fun _ _ => { meals := .ok [] }⟩,
        ⟨"OpenMensaMirror", fun _ _ => { meals := .error "offline" }⟩], lifetime := 60 }
          [.get (.int 106) ⟨0, Nat.zero_le _⟩, .advance 59] ∧
      m = Memo.run { sources := [⟨"OpenMensa", fun _ _ => { meals := .ok [] }⟩,
        ⟨"OpenMensaMirror", fun _ _ => { meals := .error "offline" }⟩], lifetime := 60 }
          [.get (.int 106) ⟨0, Nat.zero_le _⟩, .advance 59] ∧
      Refines s m ∧ Answers s m (.int 106) ⟨0, Nat.zero_le _⟩ ∧
      held s.cache "OpenMensa" (.int 106) ⟨0, Nat.zero_le _⟩ = some (0, []) ∧
      held s.cache "OpenMensaMirror" (.int 106) ⟨0, Nat.zero_le _⟩ = none := by
  have hnames : ["OpenMensa", "OpenMensaMirror"].Nodup := by decide
  obtain ⟨hrefines, -, hanswers⟩ := @run_refines_memo [⟨"OpenMensa", fun _ _ => { meals := .ok [] }⟩,
    ⟨"OpenMensaMirror", fun _ _ => { meals := .error "offline" }⟩] hnames 60 0
      [.get (.int 106) ⟨0, Nat.zero_le _⟩, .advance 59]
  exact ⟨hnames, _, _, rfl, rfl, hrefines, hanswers _ _, rfl, rfl⟩

end MenuBoard.MealCache
