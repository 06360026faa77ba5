import MenuBoard.Proofs.Settings.RegexList
import MenuBoard.Proofs.Settings.WellFormed

/-!
Which numbers of the feed a file sets.

A file gives pairs of a canteen and the feed's number for it, and different texts may mean the same canteen (`106`, ` 1_06 `).
A pair counts if both of its sides are natural numbers (`mappingOf?`), and then it is assigned: so of the pairs of a canteen the
last one that counts is kept, in the place of the first one that does. A pair that does not count changes nothing, and is
reported. `foldl_addFeedId` says so of the loop over the pairs, and `feedIds_of_load` of settings that are loaded.
-/

namespace MenuBoard

/-- the notice of a pair that is left out -/
def Notice.dropsFeedId : Notice → Bool
  | .invalidFeedId _ _ => true
  | _ => false

namespace Settings

/-- the canteen and the feed's number for it that a pair stands for, if both are natural numbers -/
def mappingOf? (pair : String × Json) : Option (Int × Whole) := do
  let canteen ← natural? (.str pair.1)
  let target ← natural? pair.2
  return (canteen.toInt, target)

/-- the pairs of an object; other values have none -/
def pairsOf : Json → List (String × Json)
  | .object pairs => pairs
  | _ => []

/-- the notices of the pairs that do not count, one for each and in their order -/
def droppedPairs (pairs : List (String × Json)) : List Notice :=
  (pairs.filter fun pair => (mappingOf? pair).isNone).map fun pair => .invalidFeedId pair.1 pair.2

/-- What becomes of pairs: of each canteen the last pair that counts is kept, in the order of the first ones that do, and a
warning is given for each that does not. -/
structure FeedIdsFrom (pairs : List (String × Json)) (ids : List (Int × Whole)) (notices : List Notice) : Prop where
  assigned : Assigned (pairs.filterMap mappingOf?) ids
  absent : ∀ canteen, canteen ∉ ids.map Prod.fst ↔ ∀ pair ∈ pairs, ∀ target, mappingOf? pair ≠ some (canteen, target)
  reported : notices.filter Notice.dropsFeedId = droppedPairs pairs
  warned : ∀ notice ∈ droppedPairs pairs, notice.level = .warning

/-! ## The loop over the pairs -/

theorem addFeedId_of_some {pair : String × Json} {mapping : Int × Whole} (h : mappingOf? pair = some mapping)
    (acc : List (Int × Whole) × List Notice) : addFeedId acc pair = (assign mapping.1 mapping.2 acc.1, acc.2) := by
  obtain ⟨canteen, hcanteen, h⟩ := Option.bind_eq_some_iff.1 h
  obtain ⟨target, htarget, h⟩ := Option.bind_eq_some_iff.1 h
  obtain rfl := Option.some.inj h
  simp only [addFeedId, hcanteen, htarget, setFeedId_eq_assign]

theorem addFeedId_of_none {pair : String × Json} (h : mappingOf? pair = none) (acc : List (Int × Whole) × List Notice) :
    addFeedId acc pair = (acc.1, acc.2 ++ [.invalidFeedId pair.1 pair.2]) := by
  unfold addFeedId
  split
  · next canteen target hcanteen htarget => simp [mappingOf?, hcanteen, htarget] at h
  · rfl

/-- **The loop assigns the pairs that count and reports the others.** -/
theorem foldl_addFeedId (pairs : List (String × Json)) :
    pairs.foldl addFeedId ([], []) = (assignAll (pairs.filterMap mappingOf?), droppedPairs pairs) := by
  induction pairs using List.reverseRecOn with
  | nil => rfl
  | append_singleton pairs pair ih =>
    rw [List.foldl_append, ih, List.foldl_cons, List.foldl_nil]
    unfold droppedPairs assignAll
    cases hmapping : mappingOf? pair with
    | none =>
      rw [addFeedId_of_none hmapping]
      simp [hmapping]
    | some mapping =>
      rw [addFeedId_of_some hmapping]
      simp [hmapping]

theorem filter_droppedPairs (pairs : List (String × Json)) :
    (droppedPairs pairs).filter Notice.dropsFeedId = droppedPairs pairs := by
  refine List.filter_eq_self.2 fun notice hnotice => ?_
  obtain ⟨pair, -, rfl⟩ := List.mem_map.1 hnotice
  rfl

/-- A value without pairs gives no numbers. -/
theorem pairsOf_of_isVoid {v : Json} (h : v.isVoid = true) : pairsOf v = [] := by
  cases v with
  | object pairs => exact List.isEmpty_iff.1 h
  | null | bool | int | real | str | list => rfl

theorem readFeedIds_eq_ok {v : Json} {ids : List (Int × Whole)} {notices : List Notice}
    (h : readFeedIds v = .ok (ids, notices)) :
    ids = assignAll ((pairsOf v).filterMap mappingOf?) ∧ notices = droppedPairs (pairsOf v) := by
  unfold readFeedIds at h
  split at h
  · next hvoid =>
    rw [pairsOf_of_isVoid hvoid]
    exact Prod.mk.inj (Except.ok.inj h).symm
  · cases v with
    | object pairs =>
      have hfold := Except.ok.inj h
      rw [foldl_addFeedId] at hfold
      exact Prod.mk.inj hfold.symm
    | null | bool | int | real | str | list => cases h

theorem feedIdsFrom_assignAll {pairs : List (String × Json)} {notices : List Notice}
    (h : notices.filter Notice.dropsFeedId = droppedPairs pairs) :
    FeedIdsFrom pairs (assignAll (pairs.filterMap mappingOf?)) notices where
  assigned := assigned_assignAll _
  absent canteen := by
    rw [(assigned_assignAll (pairs.filterMap mappingOf?)).mem_keys]
    constructor
    · intro hnone pair hpair target hmapping
      exact hnone (List.mem_map.2 ⟨(canteen, target), List.mem_filterMap.2 ⟨pair, hpair, hmapping⟩, rfl⟩)
    · intro hnone hmem
      obtain ⟨⟨_, target⟩, hmapping, rfl⟩ := List.mem_map.1 hmem
      obtain ⟨pair, hpair, hpairs⟩ := List.mem_filterMap.1 hmapping
      exact hnone pair hpair target hpairs
  reported := h
  warned notice hnotice := by
    obtain ⟨pair, -, rfl⟩ := List.mem_map.1 hnotice
    rfl

/-! ## Settings -/

theorem filter_eq_nil_of_forall {notices : List Notice} (h : ∀ notice ∈ notices, notice.dropsFeedId = false) :
    notices.filter Notice.dropsFeedId = [] :=
  List.filter_eq_nil_iff.2 fun notice hnotice => by rw [h notice hnotice]; exact Bool.false_ne_true

/-- A value that names no canteen is reported as such. -/
theorem notices_of_readCanteen {v : Json} {notice : Notice} (h : notice ∈ (readCanteen v).2) :
    notice = .invalidDefaultCanteen v := by
  unfold readCanteen at h
  cases hnatural : natural? v with
  | none =>
    simp only [hnatural] at h
    split at h
    · cases h
    · split at h
      · cases h
      · exact List.mem_singleton.1 h
    · exact List.mem_singleton.1 h
  | some n =>
    simp only [hnatural] at h
    split at h
    · cases h
    · split at h <;> cases h
    · cases h

theorem filter_readCanteen (v : Json) : (readCanteen v).2.filter Notice.dropsFeedId = [] := by
  refine filter_eq_nil_of_forall fun notice hnotice => ?_
  rw [notices_of_readCanteen hnotice]
  rfl

theorem filter_withEnvironment (environment : Environment) (s : Settings) :
    (s.withEnvironment environment).2.filter Notice.dropsFeedId = [] := by
  unfold withEnvironment canteenFrom
  cases nonempty? environment "MENSA_ID" with
  | none => rfl
  | some text => exact filter_readCanteen (.str text)

theorem filter_fileValue {path : String} {bytes : Option (List UInt8)} {v : Json} {notices : List Notice}
    (h : fileValue path bytes = .ok (v, notices)) : notices.filter Notice.dropsFeedId = [] := by
  unfold fileValue at h
  repeat' split at h
  all_goals cases h
  all_goals rfl

/-- An object that a file holds has each of its keys once. -/
theorem hasKeysOnce_fileValue {path : String} {bytes : Option (List UInt8)} {v : Json} {notices : List Notice}
    (h : fileValue path bytes = .ok (v, notices)) : v.HasKeysOnce := by
  unfold fileValue at h
  split at h
  · cases h
    exact .object List.nodup_nil (List.forall_mem_nil _)
  · split at h
    · cases h
    · split at h
      · next hread =>
        cases h
        exact Json.hasKeysOnce_of_read hread
      · cases h
      · cases h
        exact .object List.nodup_nil (List.forall_mem_nil _)

theorem nodup_pairsOf {v : Json} (h : v.HasKeysOnce) : ((pairsOf v).map Prod.fst).Nodup := by
  cases h with
  | object once each => exact once
  | null | bool | int | real | str | list => exact List.nodup_nil

theorem hasKeysOnce_get {fields : List (String × Json)} (h : (Json.object fields).HasKeysOnce) (key : String) :
    (get key fields).HasKeysOnce := by
  cases h with
  | object once each =>
    unfold get Json.field?
    cases hfind : fields.find? (·.1 == key) with
    | none => exact .null
    | some field => exact each field (List.mem_of_find?_eq_some hfind)

theorem feedIdsFrom_of_ofJson {v : Json} {settings : Settings} {notices : List Notice}
    (h : ofJson v = .ok (settings, notices)) : ∃ fields, v = .object fields ∧
      settings.feedIds = assignAll ((pairsOf (get "openmensa_ids" fields)).filterMap mappingOf?) ∧
      notices.filter Notice.dropsFeedId = droppedPairs (pairsOf (get "openmensa_ids" fields)) := by
  obtain ⟨fields, hfields, h⟩ := bind_eq_ok.1 h
  obtain ⟨filter, -, h⟩ := bind_eq_ok.1 h
  obtain ⟨favorites, -, h⟩ := bind_eq_ok.1 h
  obtain ⟨⟨ids, idNotices⟩, hids, h⟩ := bind_eq_ok.1 h
  obtain ⟨hassigned, rfl⟩ := readFeedIds_eq_ok hids
  have hkept : ids = settings.feedIds := congrArg (·.1.feedIds) (Except.ok.inj h)
  have hnotices : (readCanteen (get "default_canteen_id" fields)).2 ++ droppedPairs (pairsOf (get "openmensa_ids" fields)) =
      notices := congrArg Prod.snd (Except.ok.inj h)
  refine ⟨fields, ?_, hkept.symm.trans hassigned, ?_⟩
  · cases v with
    | object pairs => rw [Except.ok.inj hfields]
    | null | bool | int | real | str | list => cases hfields
  · rw [← hnotices, List.filter_append, filter_readCanteen, filter_droppedPairs, List.nil_append]

/-- **Of the pairs of a canteen the last one that counts is kept.** Settings that are loaded are well-formed. The file is an
object or counts as one, and the pairs in it, each key text once, set the feed's numbers: of each canteen the last pair of
natural numbers is kept, canteens stand in the order of their first such pair, a canteen without one has no number, and each
other pair is reported once. -/
theorem feedIds_of_load {files : Files} {given : Option String} {environment : Environment} {settings : Settings}
    {notices : List Notice} (h : load files given environment = .ok (settings, notices)) :
    settings.WellFormed ∧ ∃ fields fileNotices,
      fileValue (pathOf given environment) (files (pathOf given environment)) = .ok (.object fields, fileNotices) ∧
      ((pairsOf (get "openmensa_ids" fields)).map Prod.fst).Nodup ∧
      FeedIdsFrom (pairsOf (get "openmensa_ids" fields)) settings.feedIds notices := by
  refine ⟨wellFormed_of_load h, ?_⟩
  obtain ⟨⟨value, fileNotices⟩, hvalue, h⟩ := bind_eq_ok.1 h
  obtain ⟨⟨inFile, valueNotices⟩, hread, h⟩ := bind_eq_ok.1 h
  have hsettings : (inFile.withEnvironment environment).1 = settings := congrArg Prod.fst (Except.ok.inj h)
  have hnotices : fileNotices ++ valueNotices ++ (inFile.withEnvironment environment).2 = notices :=
    congrArg Prod.snd (Except.ok.inj h)
  obtain ⟨fields, rfl, hids, hreported⟩ := feedIdsFrom_of_ofJson hread
  refine ⟨fields, fileNotices, hvalue, nodup_pairsOf (hasKeysOnce_get (hasKeysOnce_fileValue hvalue) _), ?_⟩
  -- the environment sets no numbers of the feed
  have hkept : settings.feedIds = inFile.feedIds := by rw [← hsettings]; rfl
  rw [hkept, hids]
  apply feedIdsFrom_assignAll
  rw [← hnotices, List.filter_append, List.filter_append, filter_fileValue hvalue, filter_withEnvironment, hreported,
    List.nil_append, List.append_nil]

/-- the text of a file with six pairs under different texts, of which four count, for two canteens -/
def manySpellings : List Char :=
  ("\x7b\"openmensa_ids\": \x7b\"106\": \"63\", \" 118\": 70, \"1_06\": true, \"106 \": -1, \"mensa\": 5, " ++
    "\"+118\": \"71\", \"106\": 64\x7d\x7d").toList

/-- The text `106` keeps its first place although it is written again, so `1_06` comes after it; `106 ` comes later still, but
its number is negative and the pair does not count. -/
theorem manySpellings_of_two :
    ∃ settings notices, load (fileOf manySpellings) (some "ids.json") (fun _ => none) = .ok (settings, notices) ∧
      settings.feedIds = [(106, .flag true), (118, .int 71)] ∧
      (notices.map fun notice => (notice.level, notice.message)) =
        [(.warning, "Ignoring invalid OpenMensa id mapping: '106 ' -> -1"),
          (.warning, "Ignoring invalid OpenMensa id mapping: 'mensa' -> 5")] ∧
      settings.WellFormed ∧ ∃ fields fileNotices,
        fileValue (pathOf (some "ids.json") fun _ => none) (fileOf manySpellings "ids.json") = .ok (.object fields, fileNotices) ∧
        ((pairsOf (get "openmensa_ids" fields)).map Prod.fst).Nodup ∧
        FeedIdsFrom (pairsOf (get "openmensa_ids" fields)) settings.feedIds notices := by
  have hload : (load (fileOf manySpellings) (some "ids.json") (fun _ => none)).map (fun loaded =>
      (loaded.1.feedIds, loaded.2.map fun notice => (notice.level, notice.message))) =
        .ok ([(106, .flag true), (118, .int 71)],
          [(.warning, "Ignoring invalid OpenMensa id mapping: '106 ' -> -1"),
            (.warning, "Ignoring invalid OpenMensa id mapping: 'mensa' -> 5")]) := by decide +kernel
  obtain ⟨⟨settings, notices⟩, hsettings, hboth⟩ := map_eq_ok.1 hload
  obtain ⟨hids, hnotices⟩ := Prod.mk.inj hboth
  exact ⟨settings, notices, hsettings, hids, hnotices, feedIds_of_load hsettings⟩

end Settings

end MenuBoard
