import MenuBoard.Proofs.Numeral
import MenuBoard.Proofs.Settings.Variables
import MenuBoard.Proofs.Text.CaseVariants

/-!
What the variables of the environment make of the settings in a file.

`Follows` says it field by field: a field is what its own variable holds, if this is set and makes sense, and what the file
says otherwise. `load_follows_variables` is the result for every file that can be loaded and every environment, together with
the fact that the order of the variables makes no difference.

A number that makes no sense is passed over, so the settings are those without the variable. A canteen that makes none is
reported as ignored, but it takes the file's canteen away: `load_turned_down` says what is loaded in both cases, and
`default_canteen_is_lost` shows a file whose canteen is lost.
-/

namespace MenuBoard.Settings

open MenuBoard.Rule MenuBoard.Text

/-! ## Texts of numbers -/

theorem meansAll_of_readInt {s : String} {n : Int} (h : readInt (trim s.toList) = .ok n) : meansAll s = false := by
  obtain ⟨c, hc, d, hd⟩ := exists_digit_of_readInt h
  refine Bool.eq_false_iff.2 fun hall => ?_
  have hlower : lower (trim s.toList) = ['a', 'l', 'l'] := beq_iff_eq.1 hall
  have hletters : ∀ l ∈ lowerChar c, l = 'a' ∨ l = 'l' := by
    intro l hl
    have hmem : l ∈ lower (trim s.toList) := List.mem_flatMap.2 ⟨c, hc, hl⟩
    simpa [hlower] using hmem
  -- the small form of a digit would be one of these letters
  unfold lowerChar at hletters
  split at hletters
  · simp at hletters
  · have hnone : digitValue? c = none := by
      rcases hletters _ List.mem_cons_self with ha | hl
      · exact digitValue?_of_lowerCode (by decide) (by decide) ha
      · exact digitValue?_of_lowerCode (by decide) (by decide) hl
    rw [hd] at hnone
    cases hnone

/-! ## Fields and their variables -/

/-- A list is what its variable lists, and the list of the file if this is not set. -/
structure ListFollows (separator : Char) (held : Option String) (inFile now : List String) : Prop where
  given : ∀ s, held = some s → Lists separator s now
  emptied : held = some "" → now = []
  unset : held = none → now = inFile

/-- A number is the number that its variable spells, and the number of the file if it spells none or is not set. -/
structure NumberFollows (held : Option String) (inFile now : Whole) : Prop where
  given : ∀ s n, held = some s → readInt (trim s.toList) = .ok n → now = .int n
  other : (∀ s n, held = some s → readInt (trim s.toList) ≠ .ok n) → now = inFile

/-- The canteen is the one that its variable names, and the canteen of the file if this is empty or not set. -/
structure CanteenFollows (held : Option String) (inFile now : Option DefaultCanteen) : Prop where
  everywhere : ∀ s, held = some s → meansAll s = true → now = some .all
  numbered : ∀ s n, held = some s → readInt (trim s.toList) = .ok n → 0 ≤ n → now = some (.number (.int n))
  unset : held = none ∨ held = some "" → now = inFile

/-- Each variable sets its own field and no other, in whatever order they are applied. -/
structure Follows (environment : Environment) (inFile settings : Settings) : Prop where
  list : ∀ l : RuleList,
    ListFollows l.separator (environment l.variableName) (l.texts inFile) (l.texts settings)
  canteen : CanteenFollows (environment "MENSA_ID") inFile.defaultCanteen settings.defaultCanteen
  timeout : NumberFollows (environment "MENSA_REQUEST_TIMEOUT") inFile.timeout settings.timeout
  lifetime : NumberFollows (environment "MENSA_CACHE_TTL") inFile.lifetime settings.lifetime
  feedIds : settings.feedIds = inFile.feedIds
  order : ∀ order : List Variable, order.Perm Variable.all → Variable.applyAll environment inFile order = settings

section Follows

variable {environment : Environment}

theorem listFollows_listFrom (name : String) (separator : Char) (inFile : List String) :
    ListFollows separator (environment name) inFile (listFrom environment name separator inFile) where
  given s h := by
    simp only [listFrom, h]
    exact lists_cut separator s
  emptied h := by
    simp only [listFrom, h]
    rfl
  unset h := by simp only [listFrom, h]

theorem numberFollows_wholeFrom (name : String) (inFile : Whole) :
    NumberFollows (environment name) inFile (wholeFrom environment name inFile) where
  given s n h hread := by simp [wholeFrom, h, whole?, hread]
  other h := by
    unfold wholeFrom
    cases hheld : environment name with
    | none => rfl
    | some s =>
      cases hread : readInt (trim s.toList) with
      | error e => simp [whole?, hread]
      | ok n => exact absurd hread (h s n hheld)

theorem canteenFollows_canteenFrom (inFile : Option DefaultCanteen) :
    CanteenFollows (environment "MENSA_ID") inFile (canteenFrom environment inFile).1 where
  everywhere s h hall := by
    have hne : s ≠ "" := by
      rintro rfl
      revert hall
      decide
    simp [canteenFrom, nonempty?, h, Option.filter, hne, readCanteen, hall]
  numbered s n h hread hn := by
    have hne : s ≠ "" := by
      rintro rfl
      cases hread
    have hnatural : natural? (.str s) = some (.int n) := by
      simp [natural?, whole?, hread, Option.filter, Whole.toInt, hn]
    simp [canteenFrom, nonempty?, h, Option.filter, hne, readCanteen, meansAll_of_readInt hread, hnatural]
  unset h := by
    rcases h with h | h <;> simp [canteenFrom, nonempty?, h, Option.filter]

theorem follows_withEnvironment (settings : Settings) : Follows environment settings (settings.withEnvironment environment).1 where
  list l := by
    rw [Variable.texts_withEnvironment]
    exact listFollows_listFrom l.variableName l.separator (l.texts settings)
  canteen := canteenFollows_canteenFrom settings.defaultCanteen
  timeout := numberFollows_wholeFrom "MENSA_REQUEST_TIMEOUT" settings.timeout
  lifetime := numberFollows_wholeFrom "MENSA_CACHE_TTL" settings.lifetime
  feedIds := rfl
  order order h := Variable.applyAll_eq (fun v => h.mem_iff.2 v.mem_all) settings

end Follows

section Load

variable {files : Files} {given : Option String} {environment : Environment}

/-- **The environment comes before the file**: whatever file can be loaded without variables can be loaded with any, each field
is what its own variable says, or what the file says if there is nothing to be had from this, and the order of the variables
makes no difference. -/
theorem load_follows_variables {inFile : Settings} {notices : List Notice}
    (h : load files (some (pathOf given environment)) nothingSet = .ok (inFile, notices)) :
    ∃ settings more, load files given environment = .ok (settings, notices ++ more) ∧
      Follows environment inFile settings := by
  refine ⟨(inFile.withEnvironment environment).1, (inFile.withEnvironment environment).2, ?_, ?_⟩
  · rw [load_eq, h]
    rfl
  · exact follows_withEnvironment inFile

/-- A file that denies a dish, with variables for the canteen, one list, no dish at all and a number that is none. -/
theorem bowl_follows_variables :
    let environment' : Environment := fun name =>
      match name with
      | "MENSA_ID" => some "118"
      | "MENSA_FILTER_TAG_DENY" => some " Pig ,, fish"
      | "MENSA_FAVS_NAME_DENY" => some ""
      | "MENSA_CACHE_TTL" => some "soon"
      | _ => none
    ∃ inFile settings more,
      load (fileOf bowlDenied) (some (pathOf (some "bowl.json") environment')) nothingSet = .ok (inFile, []) ∧
        inFile.favorites.denyNames = ["Bowl"] ∧
        load (fileOf bowlDenied) (some "bowl.json") environment' = .ok (settings, [] ++ more) ∧
        Follows environment' inFile settings := by
  intro environment'
  let v : Json := .object [("favs", .object [("name", .object [("deny", .str " Bowl\n")])])]
  have htext : Utf8.decode (bowlDenied.map fun c => UInt8.ofNat c.toNat) = .ok bowlDenied := by rfl
  have hread : Json.read bowlDenied = .ok v := by rfl
  have hfile : load (fileOf bowlDenied) (some (pathOf (some "bowl.json") environment')) nothingSet =
      .ok ({ favorites := { denyNames := ["Bowl"] } }, []) := by
    simp only [load, ofFile, fileValue, fileOf, htext, hread]
    rfl
  obtain ⟨settings, more, hload, hfollows⟩ := load_follows_variables hfile
  exact ⟨_, settings, more, hfile, rfl, hload, hfollows⟩

/-! ## Values that make no sense -/

/-- the environment without one variable -/
def without (name : String) (environment : Environment) : Environment :=
  fun other => if other = name then none else environment other

/-- A text in the variable makes no sense: it spells no number, or none of a canteen. -/
def Variable.TurnsDown (s : String) : Variable → Prop
  | .canteen => s ≠ "" ∧ meansAll s = false ∧ ∀ n, readInt (trim s.toList) = .ok n → n < 0
  | .list _ => False
  | .timeout | .lifetime => ∀ n, readInt (trim s.toList) ≠ .ok n

section Without

variable {name other : String}

@[simp] theorem without_self : without name environment name = none := if_pos rfl

theorem without_of_ne (h : other ≠ name) : without name environment other = environment other := if_neg h

theorem listFrom_without (h : other ≠ name) (separator : Char) (unset : List String) :
    listFrom (without name environment) other separator unset = listFrom environment other separator unset := by
  simp only [listFrom, without_of_ne h]

/-- A number does not depend on another variable, nor on its own one if this spells no number. -/
theorem wholeFrom_without {s : String} (hset : environment name = some s)
    (h : other = name → ∀ n, readInt (trim s.toList) ≠ .ok n) (unset : Whole) :
    wholeFrom (without name environment) other unset = wholeFrom environment other unset := by
  by_cases hname : other = name
  · subst hname
    have hkept : wholeFrom environment other unset = unset := by
      apply (numberFollows_wholeFrom other unset).other
      intro t n ht
      obtain rfl : s = t := Option.some.inj (hset.symm.trans ht)
      exact h rfl n
    rw [hkept]
    simp only [wholeFrom, without_self]
    rfl
  · simp only [wholeFrom, without_of_ne hname]

theorem canteenFrom_without (h : "MENSA_ID" ≠ name) (unset : Option DefaultCanteen) :
    canteenFrom (without name environment) unset = canteenFrom environment unset := by
  simp only [canteenFrom, nonempty?, without_of_ne h]

theorem pathOf_without (h : "MENSA_CONFIG" ≠ name) : pathOf given (without name environment) = pathOf given environment := by
  simp only [pathOf, nonempty?, without_of_ne h]

end Without

theorem Variable.name_injective : Function.Injective Variable.name := by
  intro v w h
  have hall : ∀ v ∈ all, ∀ w ∈ all, v.name = w.name → v = w := by decide +kernel
  exact hall v v.mem_all w w.mem_all h

theorem Variable.config_ne_name (v : Variable) : "MENSA_CONFIG" ≠ v.name := by
  have hall : ∀ v ∈ all, "MENSA_CONFIG" ≠ v.name := by decide +kernel
  exact hall v v.mem_all

section TurnsDown

variable {v : Variable} {s : String}

theorem listsFrom_without (environment : Environment) (hv : ∀ l, v ≠ .list l) (area : Area) (lists : RuleLists) :
    listsFrom (without v.name environment) area.variablePrefix lists = listsFrom environment area.variablePrefix lists := by
  have hname : ∀ l : RuleList, l.variableName ≠ v.name := fun l h => hv l (Variable.name_injective h.symm)
  simp only [listsFrom, RuleLists.mk.injEq]
  exact ⟨listFrom_without (hname (.tags area .allow)) .., listFrom_without (hname (.tags area .deny)) ..,
    listFrom_without (hname (.regexes ⟨area, .category, .allow⟩)) ..,
    listFrom_without (hname (.regexes ⟨area, .category, .deny⟩)) ..,
    listFrom_without (hname (.regexes ⟨area, .name, .allow⟩)) ..,
    listFrom_without (hname (.regexes ⟨area, .name, .deny⟩)) ..⟩

theorem canteenFrom_of_turnsDown (hset : environment "MENSA_ID" = some s) (hdown : Variable.canteen.TurnsDown s)
    (unset : Option DefaultCanteen) : canteenFrom environment unset = (none, [.invalidDefaultCanteen (.str s)]) := by
  obtain ⟨hne, hall, hnegative⟩ := hdown
  have hnatural : natural? (.str s) = none := by
    cases hread : readInt (trim s.toList) with
    | error e => simp [natural?, whole?, hread]
    | ok n =>
      have hn : ¬ 0 ≤ n := Int.not_le.2 (hnegative n hread)
      simp [natural?, whole?, hread, Option.filter, Whole.toInt, hn]
  simp [canteenFrom, nonempty?, hset, Option.filter, hne, readCanteen, hall, hnatural]

theorem withEnvironment_of_no_number (hset : environment v.name = some s) (hdown : v.TurnsDown s) (hv : v ≠ .canteen)
    (settings : Settings) : settings.withEnvironment environment = settings.withEnvironment (without v.name environment) := by
  have hlist : ∀ l, v ≠ .list l := by
    rintro l rfl
    exact hdown
  have hnumber : ∀ n, readInt (trim s.toList) ≠ .ok n := by
    cases v with
    | canteen => exact absurd rfl hv
    | list l => exact absurd rfl (hlist l)
    | timeout => exact hdown
    | lifetime => exact hdown
  have hcanteen : "MENSA_ID" ≠ v.name := fun h => hv (Variable.name_injective (h.symm : v.name = Variable.canteen.name))
  have hfilter := listsFrom_without environment hlist .filter settings.filter
  have hfavorites := listsFrom_without environment hlist .favorites settings.favorites
  simp only [Area.variablePrefix] at hfilter hfavorites
  unfold withEnvironment
  rw [hfilter, hfavorites, canteenFrom_without hcanteen, wholeFrom_without hset fun _ => hnumber,
    wholeFrom_without hset fun _ => hnumber]

/-- A text that means no canteen is reported as ignored, and takes the canteen away that there was. -/
theorem withEnvironment_of_no_canteen (hset : environment "MENSA_ID" = some s) (hdown : Variable.canteen.TurnsDown s)
    (settings : Settings) :
    settings.withEnvironment environment =
      ({ (settings.withEnvironment (without "MENSA_ID" environment)).1 with defaultCanteen := none },
        [.invalidDefaultCanteen (.str s)]) := by
  have hlist : ∀ l, Variable.canteen ≠ .list l := fun l h => by cases h
  have hfilter := listsFrom_without environment hlist .filter settings.filter
  have hfavorites := listsFrom_without environment hlist .favorites settings.favorites
  simp only [Area.variablePrefix, Variable.name] at hfilter hfavorites
  unfold withEnvironment
  rw [hfilter, hfavorites, canteenFrom_of_turnsDown hset hdown, wholeFrom_without hset (absurd · (by decide)),
    wholeFrom_without hset (absurd · (by decide))]

/-- **Values that make no sense**: a number leaves the settings that there are without the variable. A canteen leaves all of
them but the canteen, which is lost, so nothing is changed exactly if there was none. -/
theorem load_turned_down {base : Settings} {notices : List Notice} (hset : environment v.name = some s)
    (hdown : v.TurnsDown s) (h : load files given (without v.name environment) = .ok (base, notices)) :
    ∃ settings more, load files given environment = .ok (settings, more) ∧
      (v ≠ .canteen → settings = base ∧ more = notices) ∧
      (v = .canteen → settings = { base with defaultCanteen := none } ∧
        more = notices ++ [.invalidDefaultCanteen (.str s)]) ∧
      (settings = base ↔ (v = .canteen → base.defaultCanteen = none)) := by
  rw [load_eq, pathOf_without v.config_ne_name] at h
  obtain ⟨⟨inFile, fileNotices⟩, hfile, hbase⟩ := map_eq_ok.1 h
  rw [load_eq, hfile]
  by_cases hv : v = .canteen
  · subst hv
    have hcanteen := withEnvironment_of_no_canteen hset hdown inFile
    have hquiet : (inFile.withEnvironment (without "MENSA_ID" environment)).2 = [] := by
      simp [withEnvironment, canteenFrom, nonempty?]
    simp only [withVariables, Variable.name, hquiet, List.append_nil, Prod.mk.injEq] at hbase
    obtain ⟨rfl, rfl⟩ := hbase
    refine ⟨_, _, rfl, fun h => absurd rfl h, fun _ => ?_, fun h _ => ?_, fun h => ?_⟩
    · simp [hcanteen]
    · rw [← h, hcanteen]
    · have hnone := h rfl
      rw [hcanteen]
      simp only
      rw [← hnone]
  · have hnumber := withEnvironment_of_no_number hset hdown hv inFile
    rw [withVariables, ← hnumber] at hbase
    cases hbase
    exact ⟨_, _, rfl, fun _ => ⟨rfl, rfl⟩, fun h => absurd h hv, fun _ h => absurd h hv, fun _ => rfl⟩

/-- A time that is no number changes nothing in the settings of a file. -/
theorem soon_is_passed_over :
    let environment' := onlySets "MENSA_CACHE_TTL" "soon"
    ∃ base settings more, environment' Variable.lifetime.name = some "soon" ∧ Variable.lifetime.TurnsDown "soon" ∧
      load (fileOf bowlDenied) (some "bowl.json") (without Variable.lifetime.name environment') = .ok (base, []) ∧
      load (fileOf bowlDenied) (some "bowl.json") environment' = .ok (settings, more) ∧ settings = base ∧ more = [] := by
  intro environment'
  have hset : environment' Variable.lifetime.name = some "soon" := by decide
  have hdown : Variable.lifetime.TurnsDown "soon" := by
    intro n h
    cases h
  have htext : Utf8.decode (bowlDenied.map fun c => UInt8.ofNat c.toNat) = .ok bowlDenied := by rfl
  have hread : Json.read bowlDenied =
      .ok (.object [("favs", .object [("name", .object [("deny", .str " Bowl\n")])])]) := by rfl
  have hbase : load (fileOf bowlDenied) (some "bowl.json") (without Variable.lifetime.name environment') =
      .ok ({ favorites := { denyNames := ["Bowl"] } }, []) := by
    simp only [load, ofFile, fileValue, fileOf, htext, hread]
    rfl
  obtain ⟨settings, more, hload, hsame, -⟩ := load_turned_down hset hdown hbase
  obtain ⟨hsettings, hmore⟩ := hsame (by decide)
  exact ⟨_, settings, more, hset, hdown, hbase, hload, hsettings, hmore⟩

/-- the text of an object that names a canteen -/
def parkNamed : List Char :=
  ['{', '"', 'd', 'e', 'f', 'a', 'u', 'l', 't', '_', 'c', 'a', 'n', 't', 'e', 'e', 'n', '_', 'i', 'd', '"', ':', '1', '0', '6',
  '}']

/-- The canteen of a file is lost to a variable that is reported as ignored. -/
theorem default_canteen_is_lost :
    let environment' := onlySets "MENSA_ID" "12x"
    Variable.canteen.TurnsDown "12x" ∧
      (load (fileOf parkNamed) (some "park.json") (without "MENSA_ID" environment')).map (·.1.defaultCanteen) =
        .ok (some (.number (.int 106))) ∧
      (load (fileOf parkNamed) (some "park.json") environment').map (·.1.defaultCanteen) = .ok none ∧
      (load (fileOf parkNamed) (some "park.json") environment').map (·.2) = .ok [.invalidDefaultCanteen (.str "12x")] := by
  intro environment'
  have hdown : Variable.canteen.TurnsDown "12x" := by
    refine ⟨by decide, by decide, fun n h => ?_⟩
    cases h
  have htext : Utf8.decode (parkNamed.map fun c => UInt8.ofNat c.toNat) = .ok parkNamed := by rfl
  have hread : Json.read parkNamed = .ok (.object [("default_canteen_id", .int 106)]) := by rfl
  refine ⟨hdown, ?_, ?_, ?_⟩
  · simp only [load, ofFile, fileValue, fileOf, htext, hread]
    rfl
  · simp only [load, ofFile, fileValue, fileOf, htext, hread]
    rfl
  · simp only [load, ofFile, fileValue, fileOf, htext, hread]
    rfl

end TurnsDown

end Load

end MenuBoard.Settings
