import NetSketch.Json.Basic

/-!
# Faults in the use of values

A value that was taken as it came may turn out to be of the wrong kind when it is used. A fault
tells what was asked of it; faults fall into families, and some families are mended where they
arise.

* `Fault`, `Fault.message`, `Fault.family`;
* uses that may fail: `Json.items`, `Json.toFloat`, `Json.toInt`, `Json.toKey`, `Json.order`.
-/

namespace NetSketch

open Number

/-- What an untyped value could not do. -/
inductive Fault where
  /-- The value has no such member. -/
  | noMember (kind : Json.Kind) (member : String)
  /-- The value cannot be a key. -/
  | notAKey (kind : Json.Kind)
  /-- The value has no items. -/
  | notIterable (kind : Json.Kind)
  /-- Nothing can be looked for in the value. -/
  | notSearchable (kind : Json.Kind)
  /-- The value has no parts to be named. -/
  | notIndexable (kind : Json.Kind)
  /-- A text has no named parts. -/
  | textByName
  /-- A list has no named parts. -/
  | listByName
  /-- The values cannot be compared. -/
  | notOrdered (comparison : String) (left right : Json.Kind)
  /-- The value is no floating-point number. -/
  | notAFloat (kind : Json.Kind)
  /-- The value is no integer. -/
  | notAnInt (kind : Json.Kind)
  /-- The text is no floating-point number. -/
  | notAFloatText (s : String)
  /-- The text is no integer. -/
  | notAnIntText (s : String)
  /-- The text has too many digits for an integer. -/
  | tooManyDigits (count : Nat)
  /-- What is not a number is no integer. -/
  | nanToInt
  /-- An infinity is no integer. -/
  | infinityToInt
  /-- The integer is too large for a floating-point number. -/
  | tooLargeForFloat
  /-- The value is nested too deeply. -/
  | tooDeep
  deriving DecidableEq, Repr

namespace Fault

/-- What kind of thing went wrong. -/
inductive Family where
  | member
  | type
  | value
  | overflow
  | depth
  deriving DecidableEq, Repr

/-- The family of a fault. -/
def family : Fault → Family
  | noMember .. => .member
  | notAKey _ | notIterable _ | notSearchable _ | notIndexable _ | textByName | listByName
  | notOrdered .. | notAFloat _ | notAnInt _ => .type
  | notAFloatText _ | notAnIntText _ | tooManyDigits _ | nanToInt => .value
  | infinityToInt | tooLargeForFloat => .overflow
  | tooDeep => .depth

/-- What is told of a text that is no integer: the first two hundred characters of it in
quotes. -/
def toldIntText (s : String) : String := .ofList ((Text.quoted s).toList.take 200)

/-- The text of a fault; a value that is nested too deeply has none. -/
def message : Fault → String
  | noMember kind member => "'" ++ kind.name ++ "' object has no attribute '" ++ member ++ "'"
  | notAKey kind => "unhashable type: '" ++ kind.name ++ "'"
  | notIterable kind => "'" ++ kind.name ++ "' object is not iterable"
  | notSearchable kind => "argument of type '" ++ kind.name ++ "' is not iterable"
  | notIndexable kind => "'" ++ kind.name ++ "' object is not subscriptable"
  | textByName => "string indices must be integers, not 'str'"
  | listByName => "list indices must be integers or slices, not str"
  | notOrdered comparison left right =>
    "'" ++ comparison ++ "' not supported between instances of '" ++ left.name ++ "' and '" ++
      right.name ++ "'"
  | notAFloat kind =>
    "float() argument must be a string or a real number, not '" ++ kind.name ++ "'"
  | notAnInt kind =>
    "int() argument must be a string, a bytes-like object or a real number, not '" ++
      kind.name ++ "'"
  | notAFloatText s => "could not convert string to float: " ++ Text.quoted s
  | notAnIntText s => "invalid literal for int() with base 10: " ++ toldIntText s
  | tooManyDigits count =>
    "Exceeds the limit (4300 digits) for integer string conversion: value has " ++
      Nat.repr count ++ " digits; use sys.set_int_max_str_digits() to increase the limit"
  | nanToInt => "cannot convert float NaN to integer"
  | infinityToInt => "cannot convert float infinity to integer"
  | tooLargeForFloat => "int too large to convert to float"
  | tooDeep => ""

end Fault

namespace Json

/-- The items of a value that has some: of a list its items, of a text its characters, of an
object its names. -/
def items : Json → Except Fault (List Json)
  | arr items => .ok items
  | str s => .ok (s.toList.map fun c => .str (.singleton c))
  | obj fields => .ok (fields.map fun (name, _) => .str name)
  | v => .error (.notIterable v.kind)

/-- The key that a value is. -/
def toKey (v : Json) : Except Fault Key :=
  match v.key? with
  | some key => .ok key
  | none => .error (.notAKey v.kind)

/-- The part of an object under a name. -/
def part? (v : Json) (name : String) : Except Fault (Option Json) :=
  match v with
  | obj fields => .ok (Fields.get? fields name)
  | str _ => .error .textByName
  | arr _ => .error .listByName
  | v => .error (.notIndexable v.kind)

/-! ## Comparison of numbers -/

/-- The unrounded value of a number. -/
def number? : Json → Option Binary64
  | bool b => some (.finite false (if b then 1 else 0) 0)
  | int i => some (.finite (decide (i < 0)) i.natAbs 0)
  | float x => some x
  | _ => none

/-- The order of two numbers; none if one of them is not a number. -/
def order (comparison : String) (left right : Json) : Except Fault (Option Ordering) :=
  match left.number?, right.number? with
  | some x, some y =>
    .ok (if x.lt y then some .lt else if y.lt x then some .gt else if x.eq y then some .eq else none)
  | _, _ => .error (.notOrdered comparison left.kind right.kind)

/-- Whether two values are the same number; all other values are told apart from numbers. -/
def sameNumber (left right : Json) : Bool :=
  match order "==" left right with
  | .ok (some .eq) => true
  | _ => false

end Json

end NetSketch
