import MenuBoard.Decimal.Text
import MenuBoard.Text.Quoted

/-!
JSON values. Whole numbers and numbers with a fraction are told apart, and the fields of an object keep their order.
-/

namespace MenuBoard

/-- a JSON value -/
inductive Json where
  | null
  | bool (b : Bool)
  | int (n : Int)
  | real (x : Float)
  | str (s : String)
  | list (items : List Json)
  | object (fields : List (String × Json))
  deriving Repr, Inhabited

namespace Json

/-- what sort of value it is -/
inductive Kind where
  | null | bool | int | real | str | list | object
  deriving Repr, DecidableEq

def kind : Json → Kind
  | .null => .null
  | .bool _ => .bool
  | .int _ => .int
  | .real _ => .real
  | .str _ => .str
  | .list _ => .list
  | .object _ => .object

/-- the word for a sort of value in messages -/
def Kind.word : Kind → String
  | .null => "NoneType"
  | .bool => "bool"
  | .int => "int"
  | .real => "float"
  | .str => "str"
  | .list => "list"
  | .object => "dict"

/-- Empty values and zeros stand for "nothing given". -/
def isVoid : Json → Bool
  | .null => true
  | .bool b => !b
  | .int n => n == 0
  | .real x => x == 0
  | .str s => s.isEmpty
  | .list items => items.isEmpty
  | .object fields => fields.isEmpty

/-- the value of a key among fields -/
def field? (key : String) (fields : List (String × Json)) : Option Json :=
  (fields.find? (·.1 == key)).map (·.2)

/-- A repeated key keeps its first place and takes the new value. -/
def setField (key : String) (value : Json) : List (String × Json) → List (String × Json)
  | [] => [(key, value)]
  | (k, v) :: rest => if k == key then (k, value) :: rest else (k, v) :: setField key value rest

/-- fields in the order written, repeated keys merged -/
def mergeFields (fields : List (String × Json)) : List (String × Json) :=
  fields.foldl (fun acc (k, v) => setField k v acc) []

mutual

/-- a value as messages quote it -/
def quoted : Json → String
  | .null => "None"
  | .bool b => if b then "True" else "False"
  | .int n => toString n
  | .real x => Decimal.showReal x
  | .str s => Text.quoted s
  | .list items => "[" ++ ", ".intercalate (quotedItems items) ++ "]"
  | .object fields => "\x7b" ++ ", ".intercalate (quotedFields fields) ++ "\x7d"

def quotedItems : List Json → List String
  | [] => []
  | v :: rest => quoted v :: quotedItems rest

def quotedFields : List (String × Json) → List String
  | [] => []
  | (k, v) :: rest => (Text.quoted k ++ ": " ++ quoted v) :: quotedFields rest

end

/-- A value as a text of its own: a text stays as it is, all else as messages quote it. -/
def shown : Json → String
  | .str s => s
  | v => quoted v

end Json

end MenuBoard
