import MenuBoard.Proofs.Settings.RegexList

/-!
The variables of the environment, one by one.

`Variable.apply` is what one variable does to settings: it replaces one of the twelve lists, the canteen or one number, and
leaves the other parts as they are (`texts_apply_of_ne` and the lemmas behind it). A part that one variable sets comes to the
same in whatever order the variables are applied (`part_applyAll`), and settings are their parts (`ext_parts`), so
`withEnvironment` is what any order of all variables comes to (`applyAll_eq`). `load_eq` takes the environment out of loading:
first the file alone, then the variables.
-/

namespace MenuBoard.Settings

open MenuBoard.Rule MenuBoard.Text

/-! ## Lists of rules -/

/-- the rules of one section replaced -/
def Area.update (f : RuleLists → RuleLists) (settings : Settings) : Area → Settings
  | .filter => { settings with filter := f settings.filter }
  | .favorites => { settings with favorites := f settings.favorites }

section Update

variable (f : RuleLists → RuleLists) (settings : Settings) (area : Area)

@[simp] theorem defaultCanteen_update : (area.update f settings).defaultCanteen = settings.defaultCanteen := by
  cases area <;> rfl

@[simp] theorem timeout_update : (area.update f settings).timeout = settings.timeout := by cases area <;> rfl

@[simp] theorem lifetime_update : (area.update f settings).lifetime = settings.lifetime := by cases area <;> rfl

@[simp] theorem feedIds_update : (area.update f settings).feedIds = settings.feedIds := by cases area <;> rfl

end Update

/-- one of the twelve lists of rules in settings: of tags, or of regular expressions -/
inductive RuleList where
  | tags (area : Area) (verdict : Verdict)
  | regexes (list : RegexList)
  deriving DecidableEq, Repr

namespace RuleList

/-- the list in settings -/
def texts (settings : Settings) : RuleList → List String
  | .tags area .allow => (area.rules settings).allowTags
  | .tags area .deny => (area.rules settings).denyTags
  | .regexes list => list.texts settings

def area : RuleList → Area
  | .tags area _ => area
  | .regexes list => list.area

/-- the lists of its section with other texts in this one -/
def putIn (texts : List String) (lists : RuleLists) : RuleList → RuleLists
  | .tags _ .allow => { lists with allowTags := texts }
  | .tags _ .deny => { lists with denyTags := texts }
  | .regexes ⟨_, .category, .allow⟩ => { lists with allowCategories := texts }
  | .regexes ⟨_, .category, .deny⟩ => { lists with denyCategories := texts }
  | .regexes ⟨_, .name, .allow⟩ => { lists with allowNames := texts }
  | .regexes ⟨_, .name, .deny⟩ => { lists with denyNames := texts }

/-- settings with other texts in this list -/
def put (texts : List String) (settings : Settings) (l : RuleList) : Settings :=
  l.area.update (fun lists => l.putIn texts lists) settings

/-- the variable that sets the list -/
def variableName : RuleList → String
  | .tags area .allow => area.variablePrefix ++ "_TAG_ALLOW"
  | .tags area .deny => area.variablePrefix ++ "_TAG_DENY"
  | .regexes list => list.variableName

/-- what stands between two texts in the variable: regular expressions may hold commas -/
def separator : RuleList → Char
  | .tags _ _ => ','
  | .regexes _ => '\n'

/-- the lists of both sections -/
def all : List RuleList :=
  [Area.filter, .favorites].flatMap fun area =>
    [.tags area .allow, .tags area .deny, .regexes ⟨area, .category, .allow⟩, .regexes ⟨area, .category, .deny⟩,
      .regexes ⟨area, .name, .allow⟩, .regexes ⟨area, .name, .deny⟩]

theorem mem_all (l : RuleList) : l ∈ all := by
  rcases l with ⟨area, verdict⟩ | ⟨area, subject, verdict⟩
  · cases area <;> cases verdict <;> decide
  · cases area <;> cases subject <;> cases verdict <;> decide

variable {settings : Settings} {texts : List String}

theorem texts_put (l : RuleList) : l.texts (l.put texts settings) = texts := by
  rcases l with ⟨area, verdict⟩ | ⟨area, subject, verdict⟩
  · cases area <;> cases verdict <;> rfl
  · cases area <;> cases subject <;> cases verdict <;> rfl

/-- A list that is replaced leaves the other lists as they are. -/
theorem texts_put_of_ne {l m : RuleList} (h : m ≠ l) : l.texts (m.put texts settings) = l.texts settings := by
  have hall : ∀ l ∈ all, ∀ m ∈ all, m ≠ l → l.texts (m.put texts settings) = l.texts settings := by
    simp [all, RuleList.texts, put, putIn, area, RegexList.texts, RegexList.among, Area.update, Area.rules]
  exact hall l (mem_all l) m (mem_all m) h

end RuleList

/-- The rules of a section are its six lists. -/
theorem Area.rules_eq {a b : Settings} (h : ∀ l : RuleList, l.texts a = l.texts b) (area : Area) :
    area.rules a = area.rules b := by
  have hallowTags : (area.rules a).allowTags = (area.rules b).allowTags := h (.tags area .allow)
  have hdenyTags : (area.rules a).denyTags = (area.rules b).denyTags := h (.tags area .deny)
  have hallowCategories : (area.rules a).allowCategories = (area.rules b).allowCategories :=
    h (.regexes ⟨area, .category, .allow⟩)
  have hdenyCategories : (area.rules a).denyCategories = (area.rules b).denyCategories :=
    h (.regexes ⟨area, .category, .deny⟩)
  have hallowNames : (area.rules a).allowNames = (area.rules b).allowNames := h (.regexes ⟨area, .name, .allow⟩)
  have hdenyNames : (area.rules a).denyNames = (area.rules b).denyNames := h (.regexes ⟨area, .name, .deny⟩)
  revert hallowTags hdenyTags hallowCategories hdenyCategories hallowNames hdenyNames
  generalize area.rules a = r
  generalize area.rules b = s
  cases r
  cases s
  simp +contextual

/-- Settings are their twelve lists, their canteen, their two numbers and the numbers of the feed. -/
theorem ext_parts {a b : Settings} (hlists : ∀ l : RuleList, l.texts a = l.texts b)
    (hcanteen : a.defaultCanteen = b.defaultCanteen) (htimeout : a.timeout = b.timeout)
    (hlifetime : a.lifetime = b.lifetime) (hfeed : a.feedIds = b.feedIds) : a = b := by
  have hfilter : a.filter = b.filter := Area.rules_eq hlists .filter
  have hfavorites : a.favorites = b.favorites := Area.rules_eq hlists .favorites
  cases a
  cases b
  simp_all

/-! ## Variables -/

/-- the variables for settings -/
inductive Variable where
  | canteen
  | list (l : RuleList)
  | timeout
  | lifetime
  deriving DecidableEq, Repr

namespace Variable

def name : Variable → String
  | .canteen => "MENSA_ID"
  | .list l => l.variableName
  | .timeout => "MENSA_REQUEST_TIMEOUT"
  | .lifetime => "MENSA_CACHE_TTL"

/-- settings with what one variable holds -/
def apply (environment : Environment) (settings : Settings) : Variable → Settings
  | .canteen => { settings with defaultCanteen := (canteenFrom environment settings.defaultCanteen).1 }
  | .list l => l.put (listFrom environment l.variableName l.separator (l.texts settings)) settings
  | .timeout => { settings with timeout := wholeFrom environment "MENSA_REQUEST_TIMEOUT" settings.timeout }
  | .lifetime => { settings with lifetime := wholeFrom environment "MENSA_CACHE_TTL" settings.lifetime }

/-- settings with what variables hold, one after the other -/
def applyAll (environment : Environment) (settings : Settings) (order : List Variable) : Settings :=
  order.foldl (apply environment) settings

/-- all of them, in one order -/
def all : List Variable := .canteen :: RuleList.all.map .list ++ [.timeout, .lifetime]

theorem mem_all (v : Variable) : v ∈ all := by
  cases v with
  | canteen => exact List.mem_cons_self
  | list l => simp [all, RuleList.mem_all]
  | timeout => simp [all]
  | lifetime => simp [all]

variable {environment : Environment}

/-! ## One variable -/

section Frame

variable {settings : Settings} {v : Variable}

/-- A list is changed by its own variable only. -/
theorem texts_apply_of_ne {l : RuleList} (h : v ≠ .list l) : l.texts (v.apply environment settings) = l.texts settings := by
  cases v with
  | list m => exact RuleList.texts_put_of_ne fun heq => h (congrArg Variable.list heq)
  | canteen => cases l <;> rfl
  | timeout => cases l <;> rfl
  | lifetime => cases l <;> rfl

theorem defaultCanteen_apply_of_ne (h : v ≠ .canteen) :
    (v.apply environment settings).defaultCanteen = settings.defaultCanteen := by
  cases v <;> simp_all [apply, RuleList.put]

theorem timeout_apply_of_ne (h : v ≠ .timeout) : (v.apply environment settings).timeout = settings.timeout := by
  cases v <;> simp_all [apply, RuleList.put]

theorem lifetime_apply_of_ne (h : v ≠ .lifetime) : (v.apply environment settings).lifetime = settings.lifetime := by
  cases v <;> simp_all [apply, RuleList.put]

/-- No variable changes the numbers of the feed. -/
theorem feedIds_apply : (v.apply environment settings).feedIds = settings.feedIds := by
  cases v <;> simp [apply, RuleList.put]

end Frame

/-! ## All variables -/

/-- A part that one variable sets, and the others leave as it is, comes to what this variable makes of it. -/
theorem part_applyAll {α : Type} (environment : Environment) (part : Settings → α) (value : α → α) (v : Variable)
    (hself : ∀ s, part (v.apply environment s) = value (part s))
    (hother : ∀ w s, w ≠ v → part (w.apply environment s) = part s) (htwice : ∀ a, value (value a) = value a)
    (order : List Variable) (settings : Settings) :
    part (applyAll environment settings order) = if v ∈ order then value (part settings) else part settings := by
  induction order generalizing settings with
  | nil => simp [applyAll]
  | cons w order ih =>
    have hstep : applyAll environment settings (w :: order) = applyAll environment (w.apply environment settings) order :=
      rfl
    rw [hstep, ih]
    by_cases hw : w = v
    · subst hw
      simp [hself, htwice]
    · simp [hother w settings hw, Ne.symm hw]

theorem listFrom_twice (name : String) (separator : Char) (unset : List String) :
    listFrom environment name separator (listFrom environment name separator unset) =
      listFrom environment name separator unset := by
  unfold listFrom
  cases environment name <;> rfl

theorem wholeFrom_twice (name : String) (unset : Whole) :
    wholeFrom environment name (wholeFrom environment name unset) = wholeFrom environment name unset := by
  unfold wholeFrom
  cases ((environment name).map Json.str).bind whole? <;> rfl

theorem canteenFrom_twice (unset : Option DefaultCanteen) :
    (canteenFrom environment (canteenFrom environment unset).1).1 = (canteenFrom environment unset).1 := by
  unfold canteenFrom
  cases nonempty? environment "MENSA_ID" <;> rfl

/-- Each list is what its variable says, or what it was without it. -/
theorem texts_withEnvironment (l : RuleList) (settings : Settings) :
    l.texts (settings.withEnvironment environment).1 =
      listFrom environment l.variableName l.separator (l.texts settings) := by
  rcases l with ⟨area, verdict⟩ | l
  · cases area <;> cases verdict <;> rfl
  · exact l.texts_withEnvironment environment settings

/-- **The order of the variables makes no difference**: as long as none is left out, they come to the same settings. -/
theorem applyAll_eq {order : List Variable} (h : ∀ v, v ∈ order) (settings : Settings) :
    applyAll environment settings order = (settings.withEnvironment environment).1 := by
  apply ext_parts
  · intro l
    have hlist := part_applyAll environment (fun s => l.texts s) (listFrom environment l.variableName l.separator) (.list l)
      (fun s => l.texts_put) (fun w s hw => texts_apply_of_ne hw) (listFrom_twice _ _) order settings
    rw [texts_withEnvironment, hlist, if_pos (h (.list l))]
  · have hcanteen := part_applyAll environment (·.defaultCanteen) (fun unset => (canteenFrom environment unset).1) .canteen
      (fun s => rfl) (fun w s hw => defaultCanteen_apply_of_ne hw) canteenFrom_twice order settings
    rw [hcanteen, if_pos (h .canteen)]
    rfl
  · have htimeout := part_applyAll environment (·.timeout) (wholeFrom environment "MENSA_REQUEST_TIMEOUT") .timeout
      (fun s => rfl) (fun w s hw => timeout_apply_of_ne hw) (wholeFrom_twice _) order settings
    rw [htimeout, if_pos (h .timeout)]
    rfl
  · have hlifetime := part_applyAll environment (·.lifetime) (wholeFrom environment "MENSA_CACHE_TTL") .lifetime
      (fun s => rfl) (fun w s hw => lifetime_apply_of_ne hw) (wholeFrom_twice _) order settings
    rw [hlifetime, if_pos (h .lifetime)]
    rfl
  · have hfeed := part_applyAll environment (·.feedIds) id .canteen (fun s => feedIds_apply) (fun w s _ => feedIds_apply)
      (fun _ => rfl) order settings
    rw [hfeed, if_pos (h .canteen)]
    rfl

end Variable

/-! ## Loading -/

section Load

variable {files : Files} {given : Option String} {environment : Environment}

/-- no variable is set -/
def nothingSet : Environment := fun _ => none

theorem withEnvironment_nothingSet (settings : Settings) : settings.withEnvironment nothingSet = (settings, []) := rfl

/-- What a loaded file comes to with the environment. -/
def withVariables (environment : Environment) (loaded : Settings × List Notice) : Settings × List Notice :=
  ((loaded.1.withEnvironment environment).1, loaded.2 ++ (loaded.1.withEnvironment environment).2)

theorem ofFile_eq (path : String) (bytes : Option (List UInt8)) (environment : Environment) :
    ofFile path bytes environment = (ofFile path bytes nothingSet).map (withVariables environment) := by
  unfold ofFile
  cases fileValue path bytes with
  | error e => rfl
  | ok value =>
    obtain ⟨v, fileNotices⟩ := value
    cases hread : ofJson v with
    | error e => simp only [bind, Except.bind, hread, Except.map]
    | ok read =>
      obtain ⟨settings, valueNotices⟩ := read
      simp [bind, Except.bind, hread, pure, Except.pure, Except.map, withEnvironment_nothingSet, withVariables]

/-- **The environment comes after the file**: what is loaded is what the file alone gives, with what the variables set. -/
theorem load_eq (files : Files) (given : Option String) (environment : Environment) :
    load files given environment =
      (load files (some (pathOf given environment)) nothingSet).map (withVariables environment) :=
  ofFile_eq (pathOf given environment) (files (pathOf given environment)) environment

end Load

end MenuBoard.Settings
