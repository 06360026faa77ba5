import Mathlib.Data.List.Nodup
import MenuBoard.Proofs.Phrase.CompletePart

/-!
Where a rejection points, and what it asks for.

Behind the complete part of a rejected phrase every alternative has failed. At most one of them has found its opener, and
then its argument has failed behind that, further into the phrase than all others; otherwise all four have failed at the
place itself (`ofStops_of_stuck`). `Reports` says which of the two a rejection is, in terms of the phrase alone, and
`rejection_reports` that it is so for every phrase that is rejected.
-/

namespace MenuBoard.Phrase

open MenuBoard.Text MenuBoard.Calendar

/-! ## The stops furthest into a phrase -/

theorem ofStops_of_least {length least : Nat} {stops : List Stop} (hmem : ∃ stop ∈ stops, stop.left.length = least)
    (hle : ∀ stop ∈ stops, least ≤ stop.left.length) : Rejection.ofStops length stops =
      ⟨length - least, ((stops.filter (·.left.length == least)).map (·.expected)).eraseDups⟩ := by
  have hmin : (stops.map (·.left.length)).min? = some least := by
    refine List.min?_eq_some_iff.2 ⟨List.mem_map.2 hmem, fun n hn => ?_⟩
    obtain ⟨stop, hstop, rfl⟩ := List.mem_map.1 hn
    exact hle stop hstop
  simp only [Rejection.ofStops, hmin, Option.getD_some]

/-- Of stops at one place and one further on, the latter is reported. -/
theorem ofStops_of_further (length : Nat) (before after : List Stop) (stop : Stop)
    (h : ∀ s ∈ before ++ after, stop.left.length < s.left.length) :
    Rejection.ofStops length (before ++ stop :: after) = ⟨length - stop.left.length, [stop.expected]⟩ := by
  have hnone : ∀ {stops : List Stop}, (∀ s ∈ stops, stop.left.length < s.left.length) →
      stops.filter (·.left.length == stop.left.length) = [] := fun hstops =>
    List.filter_eq_nil_iff.2 fun s hs heq => (hstops s hs).ne' (beq_iff_eq.1 heq)
  rw [ofStops_of_least ⟨stop, by simp, rfl⟩ ?_]
  · rw [List.filter_append, List.filter_cons_of_pos (by simp),
      hnone fun s hs => h s (List.mem_append_left after hs), hnone fun s hs => h s (List.mem_append_right before hs)]
    rfl
  · intro s hs
    rcases List.mem_append.1 hs with hs | hs
    · exact (h s (List.mem_append_left after hs)).le
    · rcases List.mem_cons.1 hs with rfl | hs
      · exact le_rfl
      · exact (h s (List.mem_append_right before hs)).le

/-! ## How the readers fail -/

theorem Reading.map_eq_error {α β : Type} {f : α → β} {r : Reading α} {stops : List Stop} :
    Reading.map f r = .error stops ↔ r = .error stops := by
  rcases r with stops' | found <;> simp [Reading.map]

theorem firstOf_eq_error {α : Type} {reader : List Char → Reading α} {others : List (List Char → Reading α)}
    {text : List Char} {stops : List Stop} : firstOf (reader :: others) text = .error stops ↔
      ∃ first more, reader text = .error first ∧ firstOf others text = .error more ∧ stops = first ++ more := by
  rw [firstOf]
  cases reader text with
  | ok found => simp
  | error first =>
    cases firstOf others text with
    | ok found => simp
    | error more => simp [eq_comm]

theorem readWord_eq_error {α : Type} {v : Vocabulary α} {name : String} {text : List Char} {stops : List Stop}
    (h : readWord v name text = .error stops) : stops = [⟨text, name⟩] := by
  unfold readWord at h
  split at h
  · cases h
  · exact (Except.error.inj h).symm

/-- four digits, two and two with hyphens between, where a word may end, that are the date of no day -/
def NoSuchDay (text : List Char) : Prop :=
  ∃ year month n y m d rest, text = y ++ '-' :: (m ++ '-' :: (d ++ rest)) ∧ SpellsNumber 4 year y ∧
    SpellsNumber 2 month m ∧ SpellsNumber 2 n d ∧ atWordEnd rest = true ∧ isDate year month n = false

theorem noSuchDay_iff {text : List Char} : NoSuchDay text ↔
    ∃ year month n rest, writtenDate? text = some ((year, month, n), rest) ∧ Day.ofDate? year month n = none := by
  have hno {year month n : Nat} : isDate year month n = false ↔ Day.ofDate? year month n = none := by
    constructor
    · intro hdate
      simp [Day.ofDate?, hdate]
    · intro hnone
      refine Bool.eq_false_iff.2 fun hdate => ?_
      obtain ⟨day, hday⟩ := Day.exists_ofDate? hdate
      rw [hnone] at hday
      cases hday
  constructor
  · rintro ⟨year, month, n, y, m, d, rest, htext, hy, hm, hd, hend, hdate⟩
    exact ⟨year, month, n, rest, writtenDate?_eq_some.2 ⟨y, m, d, htext, hy, hm, hd, hend⟩, hno.1 hdate⟩
  · rintro ⟨year, month, n, rest, hwritten, hnone⟩
    obtain ⟨y, m, d, htext, hy, hm, hd, hend⟩ := writtenDate?_eq_some.1 hwritten
    exact ⟨year, month, n, y, m, d, rest, htext, hy, hm, hd, hend, hno.2 hnone⟩

/-! ## Openers -/

/-- the words that stand before an argument -/
def openers : List Keyword := [atWord, noWord, onWord]

theorem openers_forms : ∀ k ∈ openers, k.forms = [[k.literal.toList]] ∧ Lettered [k.literal.toList] := by decide +kernel

theorem openers_distinct : ∀ k ∈ openers, ∀ k' ∈ openers,
    k.literal.toList.map caseKey = k'.literal.toList.map caseKey → k = k' := by decide +kernel

theorem openers_length : ∀ k ∈ openers, k.words.flatten.length = 2 := by decide +kernel

/-- what is asked for behind an opener, where its argument cannot be read -/
inductive Asks : Keyword → List Char → String → Prop
  | canteen {rest : List Char} : Asks atWord rest "canteen name"
  | ingredient {rest : List Char} : Asks noWord rest "pig, fish or alcohol"
  | noSuchDay {rest : List Char} (h : NoSuchDay rest) : Asks onWord rest "a valid yyyy-mm-dd date"
  | day {rest : List Char} (h : ¬ NoSuchDay rest) : Asks onWord rest "today, tomorrow, yyyy-mm-dd or a weekday"

/-- A day that cannot be read is asked for in one of two ways, a date that there is not differently from all else. -/
theorem exists_asks_of_readDate {text : List Char} {stops : List Stop} (h : readDate text = .error stops) :
    ∃ wanted, Asks onWord text wanted ∧ stops = [⟨text, wanted⟩] := by
  unfold readDate at h
  split at h
  · cases h
  · split at h
    · next year month n rest hwritten =>
      split at h
      · cases h
      · next hnone =>
        exact ⟨_, .noSuchDay (noSuchDay_iff.2 ⟨year, month, n, rest, hwritten, hnone⟩), (Except.error.inj h).symm⟩
    · next hnot =>
      refine ⟨_, .day fun hno => ?_, readWord_eq_error h⟩
      obtain ⟨year, month, n, rest, hwritten, -⟩ := noSuchDay_iff.1 hno
      rw [hnot] at hwritten
      cases hwritten

/-- Where the alternative of an opener stops: behind the opener, if it stands there, and else before it. -/
structure OpenerStop (k : Keyword) (left : List Char) (stop : Stop) : Prop where
  behind : ∀ rest, k.StandsAt left rest → stop.left = rest ∧ Asks k rest stop.expected
  before : (∀ rest, ¬ k.StandsAt left rest) → stop = ⟨left, s!"'{k.literal}'"⟩

section Opener

variable {k k' : Keyword} {left rest rest' : List Char} {stops : List Stop}

theorem standsAt_iff (hk : k ∈ openers) : k.StandsAt left rest ↔ k.match? left = some rest :=
  (match?_eq_some_iff (openers_forms k hk).1).symm

/-- One opener at most stands at a place. -/
theorem opener_eq_of_standsAt (hk : k ∈ openers) (hk' : k' ∈ openers) (h : k.StandsAt left rest)
    (h' : k'.StandsAt left rest') : k = k' := by
  have hfirst : ∀ k ∈ openers, ∀ rest, k.StandsAt left rest → firstWord left = k.literal.toList.map caseKey := by
    rintro k hk rest ⟨head, tail, rfl, hhead, hend, -⟩
    obtain ⟨hforms, hword⟩ := openers_forms k hk
    obtain ⟨hne, halpha⟩ := hword _ List.mem_cons_self
    exact firstWord_append hne halpha ((spells_opener hforms).1 hhead) hend
  exact openers_distinct k hk k' hk' ((hfirst k hk rest h).symm.trans (hfirst k' hk' rest' h'))

theorem length_lt_of_standsAt (hk : k ∈ openers) (h : k.StandsAt left rest) : rest.length < left.length := by
  have hle := Keyword.length_match? ((standsAt_iff hk).1 h)
  have hlength := openers_length k hk
  omega

theorem exists_openerStop {α : Type} {argument : List Char → Reading α} (hk : k ∈ openers)
    (hargument : ∀ {rest stops}, argument rest = .error stops → ∃ wanted, Asks k rest wanted ∧ stops = [⟨rest, wanted⟩])
    (h : readAfter k argument left = .error stops) : ∃ stop, stops = [stop] ∧ OpenerStop k left stop := by
  unfold readAfter at h
  split at h
  · next rest hmatch =>
    obtain ⟨wanted, hasks, rfl⟩ := hargument h
    have hstands := (standsAt_iff hk).2 hmatch
    refine ⟨_, rfl, fun rest' h' => ?_, fun hnone => absurd hstands (hnone rest)⟩
    rw [standsAt_iff hk, hmatch] at h'
    obtain rfl := Option.some.inj h'
    exact ⟨rfl, hasks⟩
  · next hmatch =>
    obtain rfl := Except.error.inj h
    refine ⟨_, rfl, fun rest' h' => ?_, fun _ => rfl⟩
    rw [standsAt_iff hk, hmatch] at h'
    cases h'

/-- Every alternative stops once: three before or behind their openers, the last at the place itself. -/
theorem stops_of_readContent (h : readContent left = .error stops) : ∃ first second third,
    OpenerStop atWord left first ∧ OpenerStop noWord left second ∧ OpenerStop onWord left third ∧
      stops = [first, second, third, ⟨left, "vegan, vegetarian or flexible"⟩] := by
  obtain ⟨stops1, more1, hlocation, h1, rfl⟩ := firstOf_eq_error.1 h
  obtain ⟨stops2, more2, hexclude, h2, rfl⟩ := firstOf_eq_error.1 h1
  obtain ⟨stops3, more3, hdate, h3, rfl⟩ := firstOf_eq_error.1 h2
  obtain ⟨stops4, more4, hdiet, h4, rfl⟩ := firstOf_eq_error.1 h3
  obtain rfl := Except.error.inj h4
  obtain ⟨first, rfl, hfirst⟩ := exists_openerStop (by decide)
    (fun h => ⟨_, .canteen, readWord_eq_error h⟩) (Reading.map_eq_error.1 hlocation)
  obtain ⟨second, rfl, hsecond⟩ := exists_openerStop (by decide)
    (fun h => ⟨_, .ingredient, readWord_eq_error h⟩) (Reading.map_eq_error.1 hexclude)
  obtain ⟨third, rfl, hthird⟩ := exists_openerStop (by decide) (fun h => exists_asks_of_readDate h)
    (Reading.map_eq_error.1 hdate)
  obtain rfl := readWord_eq_error (Reading.map_eq_error.1 hdiet)
  exact ⟨first, second, third, hfirst, hsecond, hthird, rfl⟩

/-- **A stuck place is reported in one of two ways**: by an opener that stands there, at its argument, or else by all four
alternatives, at the place itself. -/
theorem ofStops_of_stuck (h : readContent left = .error stops) (length : Nat) :
    (∀ k ∈ openers, ∀ rest, k.StandsAt left rest →
      ∃ wanted, Asks k rest wanted ∧ Rejection.ofStops length stops = ⟨length - rest.length, [wanted]⟩) ∧
    ((∀ k ∈ openers, ∀ rest, ¬ k.StandsAt left rest) → Rejection.ofStops length stops =
      ⟨length - left.length, ["'at'", "'no'", "'on'", "vegan, vegetarian or flexible"]⟩) := by
  obtain ⟨first, second, third, hfirst, hsecond, hthird, rfl⟩ := stops_of_readContent h
  constructor
  · intro k hk rest hstands
    have hlt := length_lt_of_standsAt hk hstands
    -- no other opener stands there, so the other alternatives have stopped before theirs
    have hother : ∀ k' ∈ openers, k' ≠ k → ∀ stop, OpenerStop k' left stop → rest.length < stop.left.length := by
      intro k' hk' hne stop hstop
      rw [hstop.before fun rest' h' => hne (opener_eq_of_standsAt hk' hk h' hstands)]
      exact hlt
    have hmine : ∀ stop, OpenerStop k left stop → stop.left = rest ∧ Asks k rest stop.expected := fun stop hstop =>
      hstop.behind rest hstands
    simp only [openers, List.mem_cons, List.not_mem_nil, or_false] at hk
    rcases hk with rfl | rfl | rfl
    · obtain ⟨rfl, hasks⟩ := hmine first hfirst
      refine ⟨_, hasks, ofStops_of_further length [] _ first ?_⟩
      simp [hlt, hother noWord (by decide) (by decide) second hsecond, hother onWord (by decide) (by decide) third hthird]
    · obtain ⟨rfl, hasks⟩ := hmine second hsecond
      refine ⟨_, hasks, ofStops_of_further length [first] _ second ?_⟩
      simp [hlt, hother atWord (by decide) (by decide) first hfirst, hother onWord (by decide) (by decide) third hthird]
    · obtain ⟨rfl, hasks⟩ := hmine third hthird
      refine ⟨_, hasks, ofStops_of_further length [first, second] _ third ?_⟩
      simp [hlt, hother atWord (by decide) (by decide) first hfirst, hother noWord (by decide) (by decide) second hsecond]
  · intro hnone
    rw [hfirst.before (hnone atWord (by decide)), hsecond.before (hnone noWord (by decide)),
      hthird.before (hnone onWord (by decide)), ofStops_of_least ⟨_, List.mem_cons_self, rfl⟩ (by simp)]
    simp only [List.filter_cons, beq_self_eq_true, if_true, List.filter_nil, List.map_cons, List.map_nil]
    exact congrArg (Rejection.mk _) (by decide +kernel)

end Opener

/-! ## Rejections -/

/-- What a rejection says of a phrase whose complete part is `front`. If an opener stands behind this, it points behind the
opener and its blanks and asks for its argument alone; otherwise it points behind the complete part and asks for all that a
clause may begin with. -/
structure Reports (front left : List Char) (r : Rejection) : Prop where
  argument : ∀ k ∈ openers, ∀ rest, k.StandsAt left rest →
    ∃ wanted, Asks k rest wanted ∧ r = ⟨(front ++ left).length - rest.length, [wanted]⟩
  clause : (∀ k ∈ openers, ∀ rest, ¬ k.StandsAt left rest) →
    r = ⟨front.length, ["'at'", "'no'", "'on'", "vegan, vegetarian or flexible"]⟩

/-- A rejection points behind the complete part of its phrase, and asks for something, and for nothing twice. -/
structure PointsBehind (front left : List Char) (r : Rejection) : Prop where
  complete : front.length ≤ r.position
  inside : r.position ≤ (front ++ left).length
  expects : r.expected ≠ []
  distinct : r.expected.Nodup

theorem Reports.pointsBehind {front left : List Char} {r : Rejection} (h : Reports front left r) :
    PointsBehind front left r := by
  by_cases hstands : ∃ k ∈ openers, ∃ rest, k.StandsAt left rest
  · obtain ⟨k, hk, rest, hrest⟩ := hstands
    obtain ⟨wanted, -, rfl⟩ := h.argument k hk rest hrest
    have hlt := length_lt_of_standsAt hk hrest
    refine ⟨?_, Nat.sub_le _ _, List.cons_ne_nil _ _, List.nodup_singleton _⟩
    simp only [List.length_append]
    omega
  · obtain rfl := h.clause fun k hk rest hrest => hstands ⟨k, hk, rest, hrest⟩
    have hdistinct : ["'at'", "'no'", "'on'", "vegan, vegetarian or flexible"].Nodup := by decide +kernel
    refine ⟨le_rfl, ?_, List.cons_ne_nil _ _, hdistinct⟩
    rw [List.length_append]
    exact Nat.le_add_right _ _

/-- **A rejection points at the right place and asks for the right things.** A phrase that is rejected has a complete part,
behind which something is left; what the rejection says follows from this part and from the words behind it. -/
theorem rejection_reports {phrase : List Char} {r : Rejection} (h : tokenize phrase = .error r) :
    ∃ front left clauses, phrase = front ++ left ∧ CompletePart front left clauses ∧ left ≠ [] ∧ Reports front left r ∧
      PointsBehind front left r := by
  obtain ⟨front, left, clauses, stops, rfl, hcomplete, hne, hstuck, rfl⟩ := exists_completePart h
  obtain ⟨hargument, hclause⟩ := ofStops_of_stuck hstuck (front ++ left).length
  have hreports : Reports front left (Rejection.ofStops (front ++ left).length stops) := by
    refine ⟨hargument, fun hnone => ?_⟩
    rw [hclause hnone, List.length_append, Nat.add_sub_cancel]
  exact ⟨front, left, clauses, rfl, hcomplete, hne, hreports, hreports.pointsBehind⟩

/-- A day that the calendar does not have, behind a canteen whose name begins with another one. -/
theorem february_30_is_reported :
    tokenize "at schönauer straße on 2023-02-30".toList = .error ⟨23, ["a valid yyyy-mm-dd date"]⟩ ∧
      ∃ front left clauses, "at schönauer straße on 2023-02-30".toList = front ++ left ∧
        CompletePart front left clauses ∧ left ≠ [] ∧ Reports front left ⟨23, ["a valid yyyy-mm-dd date"]⟩ ∧
        PointsBehind front left ⟨23, ["a valid yyyy-mm-dd date"]⟩ := by
  have hrejected : tokenize "at schönauer straße on 2023-02-30".toList = .error ⟨23, ["a valid yyyy-mm-dd date"]⟩ := by
    decide +kernel
  exact ⟨hrejected, rejection_reports hrejected⟩

end MenuBoard.Phrase
