import MenuBoard.Proofs.Settings.Cut
import MenuBoard.Proofs.Settings.Failure

/-!
Lists of regular expressions that are given as one text.

Such a list may be one text in the file, or one in the environment. The environment cuts its text at line breaks, as a
regular expression may hold commas; the file cuts its text at commas. `regexLists_agree_iff` says for which texts both make
the same list: no comma occurs in the text, and no line break but at its two ends. `braces_are_cut` has a regular expression
that the file takes apart.
-/

namespace MenuBoard.Settings

open MenuBoard.Rule MenuBoard.Text

/-! ## Lists of regular expressions -/

/-- the two sections of rules -/
inductive Area where
  | filter | favorites
  deriving DecidableEq, Repr

/-- what a regular expression is looked for in -/
inductive Subject where
  | category | name
  deriving DecidableEq, Repr

/-- what comes of a match -/
inductive Verdict where
  | allow | deny
  deriving DecidableEq, Repr

namespace Area

/-- the key of the section in a file -/
def key : Area → String
  | .filter => "filter"
  | .favorites => "favs"

/-- the rules of the section -/
def rules (settings : Settings) : Area → RuleLists
  | .filter => settings.filter
  | .favorites => settings.favorites

/-- what the variables of the section begin with -/
def variablePrefix : Area → String
  | .filter => "MENSA_FILTER"
  | .favorites => "MENSA_FAVS"

end Area

def Subject.key : Subject → String
  | .category => "category"
  | .name => "name"

def Verdict.key : Verdict → String
  | .allow => "allow"
  | .deny => "deny"

/-- one of the lists of regular expressions -/
structure RegexList where
  area : Area
  subject : Subject
  verdict : Verdict
  deriving DecidableEq, Repr

namespace RegexList

/-- the list among the six of its section -/
def among (l : RegexList) (lists : RuleLists) : List String :=
  match l.subject, l.verdict with
  | .category, .allow => lists.allowCategories
  | .category, .deny => lists.denyCategories
  | .name, .allow => lists.allowNames
  | .name, .deny => lists.denyNames

/-- the list in settings -/
def texts (l : RegexList) (settings : Settings) : List String := l.among (l.area.rules settings)

/-- the variable that sets the list -/
def variableName (l : RegexList) : String :=
  l.area.variablePrefix ++
    match l.subject, l.verdict with
    | .category, .allow => "_CATEGORY_ALLOW"
    | .category, .deny => "_CATEGORY_DENY"
    | .name, .allow => "_NAME_ALLOW"
    | .name, .deny => "_NAME_DENY"

/-- a value that gives the list as one text -/
def IsText (l : RegexList) (v : Json) (s : String) : Prop :=
  ∃ fields rules lists, v = .object fields ∧ Json.field? l.area.key fields = some (.object rules) ∧
    Json.field? l.subject.key rules = some (.object lists) ∧ Json.field? l.verdict.key lists = some (.str s)

variable {l : RegexList} {s : String} {environment : Environment}

/-! ## Reading them -/

theorem sectionFields_object (fields : List (String × Json)) : sectionFields (.object fields) = .ok fields := by
  cases fields with
  | nil => rfl
  | cons field fields => rfl

theorem get_of_field? {key : String} {fields : List (String × Json)} {v : Json} (h : Json.field? key fields = some v) :
    get key fields = v := by
  unfold get
  rw [h]
  rfl

theorem readTexts_of_bothLists {lists : List (String × Json)} {allow deny : List String}
    (h : bothLists (.object lists) = .ok (allow, deny)) :
    readTexts (get Verdict.allow.key lists) = .ok allow ∧ readTexts (get Verdict.deny.key lists) = .ok deny := by
  obtain ⟨_, hfields, h⟩ := bind_eq_ok.1 h
  obtain rfl := Except.ok.inj ((sectionFields_object lists).symm.trans hfields)
  obtain ⟨_, hallow, h⟩ := bind_eq_ok.1 h
  obtain ⟨_, hdeny, h⟩ := bind_eq_ok.1 h
  cases h
  exact ⟨hallow, hdeny⟩

theorem bothLists_of_readRules {rules : List (String × Json)} {lists : RuleLists}
    (h : readRules (.object rules) = .ok lists) :
    bothLists (get Subject.category.key rules) = .ok (lists.allowCategories, lists.denyCategories) ∧
      bothLists (get Subject.name.key rules) = .ok (lists.allowNames, lists.denyNames) := by
  obtain ⟨_, hfields, h⟩ := bind_eq_ok.1 h
  obtain rfl := Except.ok.inj ((sectionFields_object rules).symm.trans hfields)
  obtain ⟨_, -, h⟩ := bind_eq_ok.1 h
  obtain ⟨_, hcategories, h⟩ := bind_eq_ok.1 h
  obtain ⟨_, hnames, h⟩ := bind_eq_ok.1 h
  cases h
  exact ⟨hcategories, hnames⟩

theorem readRules_of_ofJson {fields : List (String × Json)} {settings : Settings} {notices : List Notice}
    (h : ofJson (.object fields) = .ok (settings, notices)) (area : Area) :
    readRules (get area.key fields) = .ok (area.rules settings) := by
  obtain ⟨_, hfields, h⟩ := bind_eq_ok.1 h
  obtain rfl : fields = _ := Except.ok.inj hfields
  obtain ⟨_, hfilter, h⟩ := bind_eq_ok.1 h
  obtain ⟨_, hfavorites, h⟩ := bind_eq_ok.1 h
  obtain ⟨_, -, h⟩ := bind_eq_ok.1 h
  cases h
  cases area with
  | filter => exact hfilter
  | favorites => exact hfavorites

theorem texts_of_ofJson {v : Json} {settings : Settings} {notices : List Notice}
    (h : ofJson v = .ok (settings, notices)) (htext : l.IsText v s) : l.texts settings = cut ',' s := by
  obtain ⟨fields, rules, lists, rfl, harea, hsubject, hverdict⟩ := htext
  have hrules := readRules_of_ofJson h l.area
  rw [get_of_field? harea] at hrules
  obtain ⟨hcategories, hnames⟩ := bothLists_of_readRules hrules
  have hlist {texts : List String} (h : readTexts (get l.verdict.key lists) = .ok texts) : texts = cut ',' s := by
    rw [get_of_field? hverdict] at h
    exact (Except.ok.inj h).symm
  -- the lists have the same readers up to here, and differ in the part of what is read
  obtain ⟨area, subject, verdict⟩ := l
  cases subject with
  | category =>
    rw [get_of_field? hsubject] at hcategories
    cases verdict with
    | allow => exact hlist (readTexts_of_bothLists hcategories).1
    | deny => exact hlist (readTexts_of_bothLists hcategories).2
  | name =>
    rw [get_of_field? hsubject] at hnames
    cases verdict with
    | allow => exact hlist (readTexts_of_bothLists hnames).1
    | deny => exact hlist (readTexts_of_bothLists hnames).2

theorem texts_withEnvironment (l : RegexList) (environment : Environment) (settings : Settings) :
    l.texts (settings.withEnvironment environment).1 = listFrom environment l.variableName '\n' (l.texts settings) := by
  obtain ⟨area, subject, verdict⟩ := l
  cases area <;> cases subject <;> cases verdict <;> rfl

/-! ## Both places -/

section Load

variable {files : Files} {given : Option String} {v : Json} {notices : List Notice}

theorem exists_of_load {settings : Settings} (h : load files given environment = .ok (settings, notices)) :
    ∃ v fileNotices read valueNotices,
      fileValue (pathOf given environment) (files (pathOf given environment)) = .ok (v, fileNotices) ∧
      ofJson v = .ok (read, valueNotices) ∧ settings = (read.withEnvironment environment).1 := by
  obtain ⟨⟨v, fileNotices⟩, hfile, h⟩ := bind_eq_ok.1 h
  obtain ⟨⟨read, valueNotices⟩, hread, h⟩ := bind_eq_ok.1 h
  cases h
  exact ⟨v, fileNotices, read, valueNotices, hfile, hread, rfl⟩

/-- A file whose value has no flaw is loaded, and a list that is a text in it is cut at commas if no variable sets it. -/
theorem texts_of_file
    (hvalue : fileValue (pathOf given environment) (files (pathOf given environment)) = .ok (v, notices))
    (hsound : ¬ FlawedSettings v) (htext : l.IsText v s) (hunset : environment l.variableName = none) :
    ∃ settings, load files given environment = .ok settings ∧ l.texts settings.1 = cut ',' s := by
  have hloads : ¬ Fails (load files given environment) := mt (fails_ofFile_of_value hvalue).1 hsound
  obtain ⟨⟨settings, after⟩, hload⟩ := not_fails_iff.1 hloads
  refine ⟨(settings, after), hload, ?_⟩
  obtain ⟨value, fileNotices, read, valueNotices, hfile, hread, rfl⟩ := exists_of_load hload
  cases hvalue.symm.trans hfile
  rw [texts_withEnvironment, listFrom, hunset]
  exact texts_of_ofJson hread htext

/-- A list that a variable sets is cut at line breaks, whatever the file holds. -/
theorem texts_of_environment {settings : Settings} (hload : load files given environment = .ok (settings, notices))
    (hset : environment l.variableName = some s) : l.texts settings = cut '\n' s := by
  obtain ⟨value, fileNotices, read, valueNotices, -, -, rfl⟩ := exists_of_load hload
  rw [texts_withEnvironment, listFrom, hset]

end Load

end RegexList

/-- **Where a list of regular expressions means the same in the file and in the environment.** A text for one of the lists
gives, in its variable, one trimmed pattern to a line; in a file, one between two commas. Both are loaded, and the lists are
equal exactly if no comma occurs in the text, and no line break but at its ends. -/
theorem regexLists_agree_iff {l : RegexList} {s : String} {files files' : Files} {given given' : Option String}
    {environment environment' : Environment} {v : Json} {notices : List Notice}
    (hvalue : fileValue (pathOf given environment) (files (pathOf given environment)) = .ok (v, notices))
    (hsound : ¬ FlawedSettings v) (htext : l.IsText v s) (hunset : environment l.variableName = none)
    (hloads : ¬ Fails (load files' given' environment')) (hset : environment' l.variableName = some s) :
    ∃ inFile inEnvironment, (load files given environment).map (l.texts ·.1) = .ok inFile ∧
      (load files' given' environment').map (l.texts ·.1) = .ok inEnvironment ∧
      Lists ',' s inFile ∧ Lists '\n' s inEnvironment ∧
      (inFile = inEnvironment ↔ ',' ∉ s.toList ∧ '\n' ∉ trim s.toList) := by
  obtain ⟨settings, hload, hfile⟩ := RegexList.texts_of_file hvalue hsound htext hunset
  obtain ⟨⟨settings', _⟩, hload'⟩ := not_fails_iff.1 hloads
  have henvironment := RegexList.texts_of_environment hload' hset
  refine ⟨cut ',' s, cut '\n' s, map_eq_ok.2 ⟨_, hload, hfile⟩, map_eq_ok.2 ⟨_, hload', henvironment⟩,
    lists_cut ',' s, lists_cut '\n' s, ?_⟩
  exact cut_eq_cut_iff (by decide) (by decide)

/-- the text of an object that denies names by one pattern, with a blank before it and a line break behind it -/
def bowlDenied : List Char :=
  ['{', '"', 'f', 'a', 'v', 's', '"', ':', '{', '"', 'n', 'a', 'm', 'e', '"', ':', '{', '"', 'd', 'e', 'n', 'y',
  '"', ':', '"', ' ', 'B', 'o', 'w', 'l', '\\', 'n', '"', '}', '}', '}']

/-- the text of an object that allows categories by one pattern, with a comma in it -/
def bracesAllowed : List Char :=
  ['{', '"', 'f', 'i', 'l', 't', 'e', 'r', '"', ':', '{', '"', 'c', 'a', 't', 'e', 'g', 'o', 'r', 'y', '"', ':',
  '{', '"', 'a', 'l', 'l', 'o', 'w', '"', ':', '"', 'a', '{', '1', ',', '2', '}', '"', '}', '}', '}']

/-- a file that holds a text of plain characters, whatever its path -/
def fileOf (text : List Char) : Files := fun _ => some (text.map fun c => UInt8.ofNat c.toNat)

/-- an environment that sets one variable -/
def onlySets (name text : String) : Environment := fun other => if other = name then some text else none

/-- A pattern between white space is the same in both places. -/
theorem bowl_agrees :
    let l : RegexList := ⟨.favorites, .name, .deny⟩
    let v : Json := .object [("favs", .object [("name", .object [("deny", .str " Bowl\n")])])]
    let environment' := onlySets "MENSA_FAVS_NAME_DENY" " Bowl\n"
    fileValue (pathOf (some "bowl.json") fun _ => none) (fileOf bowlDenied "bowl.json") = .ok (v, []) ∧
      ¬ FlawedSettings v ∧ l.IsText v " Bowl\n" ∧ (fun _ => none : Environment) l.variableName = none ∧
      ¬ Fails (load (fun _ => none) none environment') ∧ environment' l.variableName = some " Bowl\n" ∧
      ∃ inFile inEnvironment, (load (fileOf bowlDenied) (some "bowl.json") fun _ => none).map (l.texts ·.1) = .ok inFile ∧
        (load (fun _ => none) none environment').map (l.texts ·.1) = .ok inEnvironment ∧
        Lists ',' " Bowl\n" inFile ∧ Lists '\n' " Bowl\n" inEnvironment ∧ inFile = inEnvironment := by
  intro l v environment'
  have hvalue : fileValue (pathOf (some "bowl.json") fun _ => none) (fileOf bowlDenied "bowl.json") = .ok (v, []) := by
    have htext : Utf8.decode (bowlDenied.map fun c => UInt8.ofNat c.toNat) = .ok bowlDenied := by rfl
    have hread : Json.read bowlDenied = .ok v := by rfl
    simp only [fileValue, fileOf, htext, hread]
  have hsound : ¬ FlawedSettings v := by
    intro hflawed
    obtain ⟨error, herror⟩ := fails_ofJson.2 hflawed
    cases herror
  have htext : l.IsText v " Bowl\n" := ⟨_, _, _, rfl, rfl, rfl, rfl⟩
  have hloads : ¬ Fails (load (fun _ => none) none environment') := not_fails_iff.2 ⟨_, rfl⟩
  have hset : environment' l.variableName = some " Bowl\n" := by decide
  obtain ⟨inFile, inEnvironment, hfile, henvironment, hcommas, hlines, hsame⟩ :=
    regexLists_agree_iff hvalue hsound htext rfl hloads hset
  exact ⟨hvalue, hsound, htext, rfl, hloads, hset, inFile, inEnvironment, hfile, henvironment, hcommas, hlines,
    hsame.2 (by decide)⟩

/-- A repeat count with two bounds is one pattern in the environment, and two that mean something else in the file. -/
theorem braces_are_cut :
    (load (fileOf bracesAllowed) (some "braces.json") fun _ => none).map (·.1.filter.allowCategories) =
        .ok ["a\x7b1", "2\x7d"] ∧
      (load (fun _ => none) none (onlySets "MENSA_FILTER_CATEGORY_ALLOW" "a\x7b1,2\x7d")).map (·.1.filter.allowCategories) =
        .ok ["a\x7b1,2\x7d"] := by
  refine ⟨?_, ?_⟩
  · have htext : Utf8.decode (bracesAllowed.map fun c => UInt8.ofNat c.toNat) = .ok bracesAllowed := by rfl
    have hread : Json.read bracesAllowed =
        .ok (.object [("filter", .object [("category", .object [("allow", .str "a\x7b1,2\x7d")])])]) := by rfl
    simp only [load, ofFile, fileValue, fileOf, htext, hread]
    decide +kernel
  · decide +kernel

end MenuBoard.Settings
