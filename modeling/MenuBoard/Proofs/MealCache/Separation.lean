import MenuBoard.Proofs.MealCache.Memo

/-!
Calls for different canteens or days do not concern each other.

A cache, and a run of it, can be restricted to one canteen and one day: of the entries those for them are left, and of
the calls those that ask for them. The restriction is exact. An event of the restricted run does on the restricted cache
what it does on the whole one (`step_about`), and a call for others leaves the restricted cache as it is
(`step_about_of_other`).

So whatever else was asked for in a run, every call for the canteen and the day brings what it would have brought
without it (`transcript_without_others`). Sources may share a name, and the lifetime may be anything.
-/

namespace MenuBoard

open MenuBoard.Calendar

/-- Canteen and day are those of the entry, whatever its source; canteens are the same if they count the same. -/
def CacheEntry.isAbout (canteen : Whole) (day : Day) (e : CacheEntry) : Bool :=
  e.canteen.toInt == canteen.toInt && e.day == day

namespace MealCache

/-! ## Restriction to a canteen and a day -/

/-- the entries for a canteen and a day -/
def about (canteen : Whole) (day : Day) (cache : MealCache) : MealCache := cache.filter (·.isAbout canteen day)

def Visit.about (canteen : Whole) (day : Day) (v : Visit) : Visit := { v with cache := v.cache.about canteen day }

def Round.about (canteen : Whole) (day : Day) (r : Round) : Round := { r with cache := r.cache.about canteen day }

def State.about (canteen : Whole) (day : Day) (s : State) : State := { s with cache := s.cache.about canteen day }

/-- A reply in which the cache holds nothing else; what was asked, called and answered stays in full. -/
def aboutReply (canteen : Whole) (day : Day) (reply : Reply) : Reply :=
  reply.map fun collected => (collected.1, collected.2.about canteen day)

def Wish.isAbout (canteen : Whole) (day : Day) (wish : Wish) : Bool :=
  wish.canteen.toInt == canteen.toInt && wish.day == day

/-- The event does not ask for another canteen or another day. -/
def Event.isAbout (canteen : Whole) (day : Day) : Event → Bool
  | .get canteen' day' => canteen'.toInt == canteen.toInt && day' == day
  | .advance _ | .behave _ _ => true

section Restriction

variable {canteen : Whole} {day : Day}

theorem about_cons (e : CacheEntry) (cache : MealCache) :
    about canteen day (e :: cache) = if e.isAbout canteen day then e :: cache.about canteen day else cache.about canteen day :=
  List.filter_cons

theorem isAbout_of_isFor {e : CacheEntry} {source : String} {canteen' : Whole} {day' : Day}
    (h : e.isFor source canteen' day' = true) :
    e.isAbout canteen day = (canteen'.toInt == canteen.toInt && day' == day) := by
  obtain ⟨-, hcount, hday⟩ := isFor_iff.1 h
  rw [CacheEntry.isAbout, hcount, hday]

theorem find?_about {wish : Wish} (h : wish.isAbout canteen day = true) (source : String) (cache : MealCache) :
    (cache.about canteen day).find? source wish.canteen wish.day = cache.find? source wish.canteen wish.day := by
  unfold find? about
  rw [List.find?_filter]
  congr 1
  funext e
  cases hfor : e.isFor source wish.canteen wish.day with
  | true => rw [isAbout_of_isFor hfor]; simpa [Wish.isAbout] using h
  | false => simp

theorem insert_cons_of_isFor {old e : CacheEntry} (h : old.isFor e.source e.canteen e.day = true) (rest : MealCache) :
    insert (old :: rest) e = { old with time := e.time, meals := e.meals } :: rest := if_pos h

theorem insert_cons_of_other {old e : CacheEntry} (h : ¬ old.isFor e.source e.canteen e.day = true) (rest : MealCache) :
    insert (old :: rest) e = old :: insert rest e := if_neg h

/-- A new entry is left if it is about the canteen and the day, and then takes the place it takes anyway. -/
theorem about_insert (cache : MealCache) (e : CacheEntry) :
    (cache.insert e).about canteen day =
      if e.isAbout canteen day then (cache.about canteen day).insert e else cache.about canteen day := by
  induction cache with
  | nil => exact about_cons e []
  | cons old rest ih =>
    by_cases hsame : old.isFor e.source e.canteen e.day = true
    · -- the older entry stays where it is, left or not as the new one is
      have hkey : old.isAbout canteen day = e.isAbout canteen day := isAbout_of_isFor hsame
      have hnew : CacheEntry.isAbout canteen day { old with time := e.time, meals := e.meals } =
        e.isAbout canteen day := hkey
      rw [insert_cons_of_isFor hsame, about_cons, about_cons, hkey, hnew]
      split
      · rw [insert_cons_of_isFor hsame]
      · rfl
    · rw [insert_cons_of_other hsame, about_cons, about_cons, ih]
      cases old.isAbout canteen day with
      | false => rfl
      | true =>
        simp only [if_true]
        split
        · rw [insert_cons_of_other hsame]
        · rfl

/-! ## Calls -/

theorem visit_about {wish : Wish} (h : wish.isAbout canteen day = true) (source : Source) (cache : MealCache) :
    visit wish source (cache.about canteen day) = (visit wish source cache).about canteen day := by
  unfold visit
  rw [find?_about h]
  split
  · rfl
  · simp only
    split
    · next meals hmeals =>
      have hentry : CacheEntry.isAbout canteen day ⟨source.name, wish.canteen, wish.day, wish.now, meals⟩ = true := h
      simp only [Visit.about, about_insert, hentry, if_true]
    · rfl

theorem visit_about_of_other {wish : Wish} (h : wish.isAbout canteen day = false) (source : Source) (cache : MealCache) :
    (visit wish source cache).cache.about canteen day = cache.about canteen day := by
  rw [visit_cache]
  split
  · next meals hmeals =>
    have hentry : CacheEntry.isAbout canteen day ⟨source.name, wish.canteen, wish.day, wish.now, meals⟩ = false := h
    rw [about_insert, hentry]
    rfl
  · rfl

theorem round_about {wish : Wish} (h : wish.isAbout canteen day = true) (sources : List Source) (cache : MealCache) :
    round wish sources (cache.about canteen day) = (round wish sources cache).about canteen day := by
  induction sources generalizing cache with
  | nil => rfl
  | cons source rest ih =>
    unfold round
    rw [visit_about h]
    simp only [Visit.about, ih]
    rfl

theorem round_about_of_other {wish : Wish} (h : wish.isAbout canteen day = false) (sources : List Source)
    (cache : MealCache) : (round wish sources cache).cache.about canteen day = cache.about canteen day := by
  induction sources generalizing cache with
  | nil => rfl
  | cons source rest ih => exact (ih (visit wish source cache).cache).trans (visit_about_of_other h source cache)

/-! ## Runs -/

/-- Every event that is left does on the restricted cache what it does on the whole one. -/
theorem step_about {e : Event} (h : e.isAbout canteen day = true) (s : State) :
    step (s.about canteen day) e = ((step s e).1.about canteen day, aboutReply canteen day (step s e).2) := by
  cases e with
  | advance seconds => rfl
  | behave index ask => rfl
  | get canteen' day' =>
    have hwish : (s.wish canteen' day').isAbout canteen day = true := h
    have hround := round_about hwish s.sources s.cache
    simp only [step, collect, State.about, State.wish] at hround ⊢
    rw [hround]
    rfl

/-- A call for others leaves the restricted cache as it is. -/
theorem step_about_of_other {e : Event} (h : e.isAbout canteen day = false) (s : State) :
    (step s e).1.about canteen day = s.about canteen day := by
  cases e with
  | advance seconds => cases h
  | behave index ask => cases h
  | get canteen' day' =>
    have hwish : (s.wish canteen' day').isAbout canteen day = false := h
    have hround := round_about_of_other hwish s.sources s.cache
    simp only [step, collect, State.about, hround]

/-- the events of a run, each with what it brings -/
def transcript (s : State) : List Event → List (Event × Reply)
  | [] => []
  | e :: events => (e, (step s e).2) :: transcript (step s e).1 events

/-- the part of a transcript without calls for others, with the restricted cache in every reply -/
def aboutTranscript (canteen : Whole) (day : Day) (entries : List (Event × Reply)) : List (Event × Reply) :=
  (entries.filter fun entry => entry.1.isAbout canteen day).map fun entry => (entry.1, aboutReply canteen day entry.2)

/-- **The restriction is exact**: what is left of a run is the run of what is left. -/
theorem transcript_about (s : State) (events : List Event) :
    transcript (s.about canteen day) (events.filter (·.isAbout canteen day)) =
      aboutTranscript canteen day (transcript s events) := by
  induction events generalizing s with
  | nil => rfl
  | cons e events ih =>
    cases h : e.isAbout canteen day with
    | true => simp [transcript, aboutTranscript, h, step_about h, ih]
    | false =>
      rw [List.filter_cons_of_neg (Bool.eq_false_iff.1 h), ← step_about_of_other h s, ih]
      simp [transcript, aboutTranscript, h]

theorem run_about (s : State) (events : List Event) :
    run (s.about canteen day) (events.filter (·.isAbout canteen day)) = (run s events).about canteen day := by
  induction events generalizing s with
  | nil => rfl
  | cons e events ih =>
    have hrun : run s (e :: events) = run (step s e).1 events := rfl
    cases h : e.isAbout canteen day with
    | true =>
      have hstep : (step (s.about canteen day) e).1 = (step s e).1.about canteen day := congrArg Prod.fst (step_about h s)
      rw [List.filter_cons_of_pos h, hrun, ← ih, ← hstep]
      rfl
    | false =>
      rw [List.filter_cons_of_neg (Bool.eq_false_iff.1 h), hrun, ← ih, step_about_of_other h s]

theorem events_of_transcript (s : State) (events : List Event) : (transcript s events).map Prod.fst = events := by
  induction events generalizing s with
  | nil => rfl
  | cons e events ih => rw [transcript, List.map_cons, ih]

end Restriction

/-- **Calls for other canteens or days do not matter.** If all of them are left out of a run, every other event brings
what it brought: the same meals or the same failure, by the same parts of the sources, with the same calls, and with the
same entries for the canteen and the day in the cache. -/
theorem transcript_without_others (s : State) (events : List Event) (canteen : Whole) (day : Day) :
    ((transcript s events).filter fun entry => entry.1.isAbout canteen day).map
        (fun entry => (entry.1, aboutReply canteen day entry.2)) =
      (transcript s (events.filter (·.isAbout canteen day))).map (fun entry => (entry.1, aboutReply canteen day entry.2)) ∧
    (run s events).cache.about canteen day =
      (run s (events.filter (·.isAbout canteen day))).cache.about canteen day := by
  have hkept : ∀ entry ∈ transcript s (events.filter (·.isAbout canteen day)), entry.1.isAbout canteen day = true := by
    intro entry hentry
    have hmem : entry.1 ∈ (transcript s (events.filter (·.isAbout canteen day))).map Prod.fst :=
      List.mem_map_of_mem hentry
    rw [events_of_transcript] at hmem
    exact (List.mem_filter.1 hmem).2
  have htwice : (events.filter (·.isAbout canteen day)).filter (·.isAbout canteen day) =
      events.filter (·.isAbout canteen day) := by
    simp only [List.filter_filter, Bool.and_self]
  constructor
  · have hall := @transcript_about canteen day s (events.filter (·.isAbout canteen day))
    rw [htwice, aboutTranscript, List.filter_eq_self.2 hkept] at hall
    exact (transcript_about s events).symm.trans hall
  · have hall := @run_about canteen day s (events.filter (·.isAbout canteen day))
    rw [htwice] at hall
    exact congrArg State.cache ((run_about s events).symm.trans hall)

end MealCache

end MenuBoard
