import MenuBoard.Board.Lookup

/-!
Values as JSON, the way answers show them. A set has its members in a fixed order, and what is absent is null.
-/

namespace MenuBoard

open MenuBoard.Calendar MenuBoard.Rule

/-- a list of texts -/
def Json.texts (items : List String) : Json := .list (items.map .str)

/-- a value that may be absent -/
def Json.optional {α : Type} (view : α → Json) : Option α → Json
  | none => .null
  | some a => view a

namespace View

def canteenId : CanteenId → Json
  | .number n => .int n
  | .all => .str "all"

def canteen (c : Canteen) : Json := .object [("id", canteenId c.id), ("name", .str c.name)]

def day (d : Day) : Json := .str d.text

def dateForm (f : DateForm) : Json :=
  .object [("kind", .str f.kind.name), ("date", .optional day f.date),
    ("weekday", .optional (fun w => .int w.val) f.weekday)]

def query (q : Query) : Json :=
  .object [("location", .optional canteen q.location), ("date", .optional (fun d => dateForm d.form) q.date),
    ("excludes", .texts (q.excludes.toList.map Exclude.name)),
    ("restriction", .optional (fun r => .str r.name) q.restriction)]

def tags (ts : List Tag) : Json := .texts (ts.map Tag.name)

def prices (p : Prices) : Json :=
  .object [("students", .optional .real p.students), ("employees", .optional .real p.employees),
    ("pupils", .optional .real p.pupils), ("others", .optional .real p.others)]

def meal (m : Meal) : Json :=
  .object [("id", .int m.id), ("name", .str m.name), ("category", .str m.category), ("tags", tags m.tags),
    ("notes", .texts m.notes), ("prices", prices m.prices)]

def classification (c : Classification) : Json :=
  .object [("visible", .bool c.visible), ("highlighted", .bool c.highlighted)]

def classifiedMeal (c : ClassifiedMeal) : Json :=
  .object [("meal", meal c.meal), ("classification", classification c.classification)]

def pattern : Pattern → Json
  | .tag t => .texts ["tag", t.name]
  | .category regex => .texts ["category", regex.source]
  | .name regex => .texts ["name", regex.source]

def ruleSet (r : RuleSet) : Json :=
  .object [("allow", .list (r.allow.map pattern)), ("deny", .list (r.deny.map pattern)),
    ("has_allow", .bool r.hasAllow), ("is_empty", .bool r.isEmpty)]

def ruleLists (l : RuleLists) : Json :=
  .object [("allow_tags", .texts l.allowTags), ("deny_tags", .texts l.denyTags),
    ("allow_categories", .texts l.allowCategories), ("deny_categories", .texts l.denyCategories),
    ("allow_names", .texts l.allowNames), ("deny_names", .texts l.denyNames)]

def whole : Whole → Json
  | .int n => .int n
  | .flag b => .bool b

def defaultCanteen : DefaultCanteen → Json
  | .all => .str "all"
  | .number n => whole n

def settings (s : Settings) : Json :=
  .object [("default_canteen_id", .optional defaultCanteen s.defaultCanteen), ("filter", ruleLists s.filter),
    ("favorites", ruleLists s.favorites), ("request_timeout_seconds", whole s.timeout),
    ("cache_ttl_seconds", whole s.lifetime),
    ("openmensa_ids", .list (s.feedIds.map fun (canteen, target) => .list [.int canteen, whole target]))]

def menu (m : Board.Menu) : Json :=
  .object [("canteen", canteen m.canteen), ("date", day m.day), ("meals", .list (m.meals.map classifiedMeal))]

def menuAnswer (a : Board.MenuAnswer) : List (String × Json) :=
  [("query", query a.query), ("menus", .list (a.menus.map menu))]

def classifiedMeals (meals : List ClassifiedMeal) : List (String × Json) :=
  [("meals", .list (meals.map classifiedMeal))]

def call (c : Call) : Json := .list [.str c.address, whole c.timeout]

def calls (cs : List Call) : Json := .list (cs.map call)

def step : Form.Step → Json
  | .key name => .str name
  | .index n => .int n

/-- where an issue is, and of what kind -/
def issue (place : Form.Place) (i : Form.Issue) : Json :=
  .object [("loc", .list (i.path.map step)), ("type", .str (i.fault.name place))]

/-- a notice, cut to its first line, and to the path if it is of a file that is no JSON -/
def notice (n : Notice) : Json :=
  let message := match n with
    | .settingsMalformed path _ => s!"Invalid config JSON at {path}"
    | n => Text.firstLine n.message
  .str s!"{n.level.name} {message}"

def notices (ns : List Notice) : Json := .list (ns.map notice)

end View

end MenuBoard
