import NetSketch.Number.Shortest
import NetSketch.Text.Quoted

/-!
# JSON values

Documents arrive as JSON values. Integers and floating-point numbers are told apart, and an object
keeps its fields in the order in which their names first came.

* `Json`; `Json.Kind`, the kinds of values and their names;
* `Fields`: `get?`, `put`, `ofList`;
* `Json.truthy`: whether a value counts as given; `Json.key?`, what two values share when they
  are the same key;
* `Json.display`: a value inside a sentence.
-/

namespace NetSketch

open Number

/-- A JSON value. -/
inductive Json where
  | null
  | bool (b : Bool)
  | int (i : Int)
  | float (x : Binary64)
  | str (s : String)
  | arr (items : List Json)
  | obj (fields : List (String × Json))

/-- The fields of an object in order. -/
abbrev Fields := List (String × Json)

namespace Json

instance : Inhabited Json := ⟨null⟩

/-! ## Kinds -/

/-- The kind of a value. -/
inductive Kind where
  | null
  | bool
  | int
  | float
  | str
  | list
  | dict
  deriving DecidableEq, Repr

/-- The name of a kind in messages. -/
def Kind.name : Kind → String
  | null => "NoneType"
  | bool => "bool"
  | int => "int"
  | float => "float"
  | str => "str"
  | list => "list"
  | dict => "dict"

/-- The kind of a value. -/
def kind : Json → Kind
  | null => .null
  | bool _ => .bool
  | int _ => .int
  | float _ => .float
  | str _ => .str
  | arr _ => .list
  | obj _ => .dict

/-! ## Properties of values -/

/-- Whether a value counts as given: it is not null, false, zero or empty. -/
def truthy : Json → Bool
  | null => false
  | bool b => b
  | int i => i != 0
  | float x => !x.isZero
  | str s => !s.isEmpty
  | arr items => !items.isEmpty
  | obj fields => !fields.isEmpty

/-- The text of a value that is one. -/
def text? : Json → Option String
  | str s => some s
  | _ => none

theorem text?_eq_some {v : Json} {s : String} : v.text? = some s ↔ v = str s := by
  cases v <;> simp [text?]

/-- What a value is as a key: numbers are keys by value, whatever their kind. -/
inductive Key where
  | null
  | text (s : String)
  | whole (i : Int)
  | number (x : Binary64)
  deriving DecidableEq, Repr

/-- The key that a value is; lists and objects are none. -/
def key? : Json → Option Key
  | null => some .null
  | bool b => some (.whole (if b then 1 else 0))
  | int i => some (.whole i)
  | float x =>
    if x.isIntegral then (x.truncate?).map .whole else some (.number x)
  | str s => some (.text s)
  | arr _ => none
  | obj _ => none

end Json

/-! ## Fields -/

namespace Fields

/-- The value of a field. -/
def get? (fields : Fields) (name : String) : Option Json := fields.lookup name

/-- A field set in its place, or added at the end. -/
def put : Fields → String → Json → Fields
  | [], name, value => [(name, value)]
  | (n, v) :: rest, name, value =>
    if n == name then (n, value) :: rest else (n, v) :: put rest name value

/-- The fields of a list in which the last value of a name counts. -/
def ofList (fields : List (String × Json)) : Fields :=
  fields.foldl (fun done (name, value) => put done name value) []

/-- The fields whose values are given. -/
def given (fields : List (String × Option Json)) : Fields :=
  fields.filterMap fun (name, value) => value.map (name, ·)

end Fields

/-! ## Values in sentences -/

namespace Json

mutual

/-- A value as it stands inside another one. -/
def shown : Json → String
  | null => "None"
  | bool b => if b then "True" else "False"
  | int i => toString i
  | float x => x.render
  | str s => Text.quoted s
  | arr items => "[" ++ shownItems items ++ "]"
  | obj fields => "\x7b" ++ shownFields fields ++ "\x7d"

/-- Values with commas between them. -/
def shownItems : List Json → String
  | [] => ""
  | [v] => shown v
  | v :: w :: rest => shown v ++ ", " ++ shownItems (w :: rest)

/-- Fields with commas between them. -/
def shownFields : List (String × Json) → String
  | [] => ""
  | [(name, v)] => Text.quoted name ++ ": " ++ shown v
  | (name, v) :: w :: rest =>
    Text.quoted name ++ ": " ++ shown v ++ ", " ++ shownFields (w :: rest)

end

/-- A value inside a sentence: a text as it is, all else as it stands inside other values. -/
def display : Json → String
  | str s => s
  | v => shown v

end Json

end NetSketch
