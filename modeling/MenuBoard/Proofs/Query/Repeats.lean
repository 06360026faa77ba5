import MenuBoard.Proofs.Phrase.Tiling
import MenuBoard.Proofs.Query.Merge

/-!
No canteen and no day of a phrase is passed over in silence.

A query keeps the first canteen and the first day of its phrase. A clause is a further one if a clause of its kind stands before
it (`Clause.IsFurther`); a further canteen or day is reported, with the place where it stands (`Clause.notice?`).
`notices_ofClauses` says that these are all notices, in the order of the phrase, by induction on the clauses, the last one taken
first: whether it is reported depends only on what stands before it (`notices_snoc`). `Accounts` puts this beside the query:
every canteen and every day of a phrase is either kept or reported (`parse_accounts_for`). What is written for debugging alone
is no notice.
-/

namespace MenuBoard

open MenuBoard.Phrase MenuBoard.Calendar MenuBoard.Text

/-- a clause of the same kind stands before it -/
def Phrase.Clause.IsFurther (clauses : List Clause) (c : Clause) : Prop :=
  ∃ earlier ∈ clauses, earlier.start < c.start ∧ earlier.content.kindName = c.content.kindName

instance (clauses : List Clause) (c : Clause) : Decidable (c.IsFurther clauses) :=
  inferInstanceAs (Decidable (∃ earlier ∈ clauses, earlier.start < c.start ∧ earlier.content.kindName = c.content.kindName))

/-- the notice of a clause that is not kept, with the place where it stands; ingredients and diets have none -/
def Phrase.Clause.notice? (c : Clause) : Option Notice :=
  match c.content with
  | .location canteen => some (.repeatedLocation canteen.name c.start)
  | .date _ => some (.repeatedDate c.start)
  | .exclude _ => none
  | .restriction _ => none

/-- how many of the clauses are of a kind -/
def countKind (kind : String) (clauses : List Clause) : Nat := clauses.countP (·.content.kindName == kind)

/-- Query and notices account for the clauses of a phrase: of canteens and of days the first one is kept, and each further one
is reported, once, in the order of the phrase and with the place where it stands. -/
structure Accounts (phrase : List Char) (clauses : List Clause) (query : Query) (notices : List Notice) : Prop where
  location : query.location = firstLocation (clauses.map (·.content))
  date : query.date = firstDate (clauses.map (·.content))
  /-- A canteen or a day that is no further one is kept. -/
  keptLocation : ∀ c ∈ clauses, ∀ canteen, c.content = .location canteen → ¬ c.IsFurther clauses → query.location = some canteen
  keptDate : ∀ c ∈ clauses, ∀ choice, c.content = .date choice → ¬ c.IsFurther clauses → query.date = some choice
  reported : notices = (clauses.filter (·.IsFurther clauses)).filterMap Clause.notice?
  info : ∀ notice ∈ notices, notice.level = .info
  count : notices.length = (countKind "location" clauses - 1) + (countKind "date" clauses - 1)
  silent : countKind "location" clauses ≤ 1 → countKind "date" clauses ≤ 1 → notices = []
  /-- Without the clauses on ingredients and diets the notices are the same. -/
  others : (Query.ofClauses (clauses.filter (·.notice?.isSome))).2 = notices
  rising : clauses.Pairwise (·.start < ·.start)
  places : ∀ c ∈ clauses, c.StandsAlone phrase

namespace Query

/-! ## One more clause -/

theorem countKind_append (kind : String) (clauses more : List Clause) :
    countKind kind (clauses ++ more) = countKind kind clauses + countKind kind more := List.countP_append

theorem countKind_pos {kind : String} {clauses : List Clause} :
    0 < countKind kind clauses ↔ ∃ c ∈ clauses, c.content.kindName = kind := by
  simp only [countKind, List.countP_pos_iff, beq_iff_eq]

theorem isSome_location? (content : Content) : content.location?.isSome = true ↔ content.kindName = "location" := by
  cases content <;> simp [Content.location?, Content.kindName]

theorem isSome_date? (content : Content) : content.date?.isSome = true ↔ content.kindName = "date" := by
  cases content <;> simp [Content.date?, Content.kindName]

theorem isSome_first {β : Type} {named : Content → Option β} {kind : String}
    (hnamed : ∀ content, (named content).isSome = true ↔ content.kindName = kind) (clauses : List Clause) :
    ((clauses.map (·.content)).filterMap named).head?.isSome = true ↔ 0 < countKind kind clauses := by
  rw [List.isSome_head?, ne_eq, List.filterMap_eq_nil_iff, countKind_pos]
  simp only [List.forall_mem_map, ← hnamed, Option.isSome_iff_ne_none, not_forall, exists_prop]

theorem isSome_location_ofClauses (clauses : List Clause) :
    (ofClauses clauses).1.location.isSome = true ↔ 0 < countKind "location" clauses := by
  rw [location_ofClauses]
  exact isSome_first isSome_location? clauses

theorem isSome_date_ofClauses (clauses : List Clause) :
    (ofClauses clauses).1.date.isSome = true ↔ 0 < countKind "date" clauses := by
  rw [date_ofClauses]
  exact isSome_first isSome_date? clauses

/-- **One more clause is reported** exactly if one of its kind stands before it. -/
theorem notices_snoc (clauses : List Clause) (c : Clause) : (ofClauses (clauses ++ [c])).2 =
    (ofClauses clauses).2 ++ if 0 < countKind c.content.kindName clauses then c.notice?.toList else [] := by
  have hadd : ofClauses (clauses ++ [c]) = add (ofClauses clauses) c := by
    unfold ofClauses
    rw [List.foldl_append, List.foldl_cons, List.foldl_nil]
  have hlocation := isSome_location_ofClauses clauses
  have hdate := isSome_date_ofClauses clauses
  rw [hadd]
  obtain ⟨content, start, stop⟩ := c
  cases content with
  | location canteen =>
    simp only [Content.kindName, ← hlocation]
    cases h : (ofClauses clauses).1.location <;> simp [add, h, Clause.notice?]
  | date choice =>
    simp only [Content.kindName, ← hdate]
    cases h : (ofClauses clauses).1.date <;> simp [add, h, Clause.notice?]
  | exclude ingredient => simp [add, Clause.notice?]
  | restriction diet => simp [add, Clause.notice?]

/-! ## All clauses -/

/-- **The notices are those of the further clauses**, in the order of the clauses. -/
theorem notices_ofClauses {clauses : List Clause} (h : clauses.Pairwise (·.start < ·.start)) :
    (ofClauses clauses).2 = (clauses.filter (·.IsFurther clauses)).filterMap Clause.notice? := by
  induction clauses using List.reverseRecOn with
  | nil => rfl
  | append_singleton clauses c ih =>
    obtain ⟨hbefore, -, hlast⟩ := List.pairwise_append.1 h
    have hlast (earlier : Clause) (hearlier : earlier ∈ clauses) : earlier.start < c.start :=
      hlast earlier hearlier c (List.mem_singleton_self c)
    -- what stands behind a clause makes it no further one
    have hsame : clauses.filter (·.IsFurther (clauses ++ [c])) = clauses.filter (·.IsFurther clauses) := by
      refine List.filter_congr fun d hd => decide_eq_decide.2 ?_
      have hnot : ¬ c.start < d.start := Nat.lt_asymm (hlast d hd)
      simp [Clause.IsFurther, or_and_right, exists_or, hnot]
    have hfurther : c.IsFurther (clauses ++ [c]) ↔ 0 < countKind c.content.kindName clauses := by
      simp only [Clause.IsFurther, List.mem_append, List.mem_singleton, or_and_right, exists_or, exists_eq_left,
        Nat.lt_irrefl, false_and, or_false, countKind_pos]
      exact exists_congr fun earlier => and_congr_right fun hearlier => and_iff_right (hlast earlier hearlier)
    rw [notices_snoc, ih hbefore, List.filter_append, List.filterMap_append, hsame]
    congr 1
    by_cases hkind : 0 < countKind c.content.kindName clauses
    · have hlater : [c].filter (·.IsFurther (clauses ++ [c])) = [c] := by simp [hfurther, hkind]
      rw [if_pos hkind, hlater]
      cases hnotice : c.notice? <;> simp [hnotice]
    · have hfirst : [c].filter (·.IsFurther (clauses ++ [c])) = [] := by simp [hfurther, hkind]
      rw [if_neg hkind, hfirst]
      rfl

theorem length_notices (clauses : List Clause) : (ofClauses clauses).2.length =
    (countKind "location" clauses - 1) + (countKind "date" clauses - 1) := by
  induction clauses using List.reverseRecOn with
  | nil => rfl
  | append_singleton clauses c ih =>
    rw [notices_snoc, List.length_append, ih, countKind_append, countKind_append]
    obtain ⟨content, start, stop⟩ := c
    cases content with
    | location canteen =>
      have hone : countKind "location" [⟨.location canteen, start, stop⟩] = 1 := rfl
      have hnone : countKind "date" [⟨.location canteen, start, stop⟩] = 0 := rfl
      have hkind : (Content.location canteen).kindName = "location" := rfl
      rw [hone, hnone, hkind]
      by_cases hbefore : 0 < countKind "location" clauses <;> simp [hbefore, Clause.notice?] <;> omega
    | date choice =>
      have hnone : countKind "location" [⟨.date choice, start, stop⟩] = 0 := rfl
      have hone : countKind "date" [⟨.date choice, start, stop⟩] = 1 := rfl
      have hkind : (Content.date choice).kindName = "date" := rfl
      rw [hone, hnone, hkind]
      by_cases hbefore : 0 < countKind "date" clauses <;> simp [hbefore, Clause.notice?] <;> omega
    | exclude ingredient => simp [Clause.notice?, countKind, Content.kindName]
    | restriction diet => simp [Clause.notice?, countKind, Content.kindName]

theorem isSome_notice? (c : Clause) :
    c.notice?.isSome = true ↔ c.content.kindName = "location" ∨ c.content.kindName = "date" := by
  obtain ⟨content, start, stop⟩ := c
  cases content <;> simp [Clause.notice?, Content.kindName]

/-- **Ingredients and diets cause no notice**: without their clauses the notices are the same. -/
theorem notices_filter (clauses : List Clause) :
    (ofClauses (clauses.filter (·.notice?.isSome))).2 = (ofClauses clauses).2 := by
  induction clauses using List.reverseRecOn with
  | nil => rfl
  | append_singleton clauses c ih =>
    rw [List.filter_append, notices_snoc]
    cases hnotice : c.notice? with
    | none =>
      rw [List.filter_cons_of_neg (by simp [hnotice]), List.filter_nil, List.append_nil, ih]
      simp
    | some notice =>
      have hsome : c.notice?.isSome = true := by rw [hnotice]; rfl
      have hcount : countKind c.content.kindName (clauses.filter (·.notice?.isSome)) =
          countKind c.content.kindName clauses := by
        unfold countKind
        rw [List.countP_filter]
        refine List.countP_congr fun d _ => ?_
        rw [Bool.and_eq_true, beq_iff_eq, isSome_notice?]
        refine and_iff_left_of_imp fun hsame => ?_
        rw [hsame]
        exact (isSome_notice? c).1 hsome
      have hkept : [c].filter (·.notice?.isSome) = [c] := List.filter_cons_of_pos hsome
      rw [hkept, notices_snoc, ih, hcount, hnotice]

/-! ## Accounts of a phrase -/

/-- What a clause names is the first of its kind if no clause of the kind stands before it. -/
theorem first_of_not_further {β : Type} {named : Content → Option β} {kind : String}
    (hnamed : ∀ content, (named content).isSome = true ↔ content.kindName = kind) {clauses : List Clause}
    (hrising : clauses.Pairwise (·.start < ·.start)) {c : Clause} (hc : c ∈ clauses) (hfirst : ¬ c.IsFurther clauses) {b : β}
    (hb : named c.content = some b) : ((clauses.map (·.content)).filterMap named).head? = some b := by
  obtain ⟨before, after, rfl⟩ := List.append_of_mem hc
  have hkind : c.content.kindName = kind := (hnamed _).1 (by rw [hb]; rfl)
  have hnone : (before.map (·.content)).filterMap named = [] := by
    refine List.filterMap_eq_nil_iff.2 (List.forall_mem_map.2 fun earlier hearlier => ?_)
    refine Option.not_isSome_iff_eq_none.1 fun hsome => hfirst ?_
    have hstart : earlier.start < c.start := (List.pairwise_append.1 hrising).2.2 earlier hearlier c List.mem_cons_self
    exact ⟨earlier, List.mem_append_left _ hearlier, hstart, ((hnamed _).1 hsome).trans hkind.symm⟩
  rw [List.map_append, List.filterMap_append, hnone, List.map_cons, List.filterMap_cons_some hb]
  rfl

theorem rising_of_tiles {start : Nat} {phrase : List Char} {clauses : List Clause} (h : Tiles start phrase clauses) :
    clauses.Pairwise (·.start < ·.start) := by
  have hnext : clauses.IsChain fun a b => a.start < b.start := by
    refine h.adjacent.imp_of_mem_imp fun a b ha _ hstart => ?_
    rw [hstart]
    exact (h.each a ha).advances
  have hstarts : (clauses.map Clause.start).IsChain (· < ·) := (List.isChain_map Clause.start).2 hnext
  exact List.pairwise_map.1 hstarts.pairwise

theorem level_of_notice? {c : Clause} {notice : Notice} (h : c.notice? = some notice) : notice.level = .info := by
  unfold Clause.notice? at h
  split at h <;> cases h <;> rfl

/-- **No canteen and no day disappears silently**: a phrase that is read has a query and notices that account for its clauses. -/
theorem parse_accounts_for {phrase : List Char} {clauses : List Clause} (h : tokenize phrase = .ok clauses) :
    ∃ query notices, parse phrase = .ok (query, notices) ∧ Accounts phrase clauses query notices := by
  obtain ⟨lead, hlead, -, hread⟩ := clausesFrom_of_tokenize h
  have htiles : Tiles lead.length phrase clauses := hlead ▸ tiles_of_clausesFrom hread
  have hrising := rising_of_tiles htiles
  have hreported := notices_ofClauses hrising
  refine ⟨(ofClauses clauses).1, (ofClauses clauses).2, parse_eq_ok h, ?_⟩
  constructor
  case location => exact location_ofClauses
  case date => exact date_ofClauses
  case keptLocation =>
    intro c hc canteen hcontent hfirst
    rw [location_ofClauses]
    exact first_of_not_further isSome_location? hrising hc hfirst (by rw [hcontent]; rfl)
  case keptDate =>
    intro c hc choice hcontent hfirst
    rw [date_ofClauses]
    exact first_of_not_further isSome_date? hrising hc hfirst (by rw [hcontent]; rfl)
  case reported => exact hreported
  case info =>
    intro notice hnotice
    rw [hreported] at hnotice
    obtain ⟨c, -, hc⟩ := List.mem_filterMap.1 hnotice
    exact level_of_notice? hc
  case count => exact length_notices clauses
  case silent =>
    intro hlocations hdates
    apply List.eq_nil_of_length_eq_zero
    rw [length_notices]
    omega
  case others => exact notices_filter clauses
  case rising => exact hrising
  case places => exact htiles.each

/-- Of three canteens and two days the first ones are kept, and the others are reported as they come; the diet that is named
twice is not. -/
theorem parse_all_and_park : ∃ clauses query notices,
    tokenize " at all on sat vegan at park on today at all veggie".toList = .ok clauses ∧
      parse " at all on sat vegan at park on today at all veggie".toList = .ok (query, notices) ∧
      Accounts " at all on sat vegan at park on today at all veggie".toList clauses query notices ∧
      query.location = some .everywhere ∧ query.date = some (.weekday 5) ∧
      (notices.map fun notice => (notice.level, notice.message)) =
        [(.info, "Ignoring repeated location 'Mensa am Park' at position 21"),
          (.info, "Ignoring repeated date clause at position 29"),
          (.info, "Ignoring repeated location 'Alle Mensen' at position 38")] := by
  have hclauses : tokenize " at all on sat vegan at park on today at all veggie".toList =
      .ok [⟨.location .everywhere, 1, 8⟩, ⟨.date (.weekday 5), 8, 15⟩, ⟨.restriction .vegan, 15, 21⟩,
        ⟨.location .amPark, 21, 29⟩, ⟨.date .today, 29, 38⟩, ⟨.location .everywhere, 38, 45⟩,
        ⟨.restriction .vegetarian, 45, 51⟩] := by decide +kernel
  obtain ⟨query, notices, hparse, haccounts⟩ := parse_accounts_for hclauses
  refine ⟨_, query, notices, hclauses, hparse, haccounts, haccounts.location, haccounts.date, ?_⟩
  rw [haccounts.reported]
  decide +kernel

end Query

end MenuBoard
