import NetSketch.Json.Fault

/-!
# Numbers in values

Values are compared with their numbers taken by value, whatever their kind: a truth value is the
same as zero or one, and an integer is the same as a floating-point number without a fraction.

* `Json.same`: whether two values are the same;
* `Json.isFinite`: whether all numbers in a value are finite.
-/

namespace NetSketch.Json

mutual

/-- Whether two values are the same: numbers by value, lists item by item, and objects field by
field in any order. -/
def same : Json → Json → Bool
  | null, null => true
  | str s, str t => s == t
  | arr items, arr others => sameItems items others
  | obj fields, obj others => fields.length == others.length && sameFields fields others
  | v, w => v.sameNumber w

/-- Whether the items of two lists are the same. -/
def sameItems : List Json → List Json → Bool
  | [], [] => true
  | v :: rest, w :: others => same v w && sameItems rest others
  | _, _ => false

/-- Whether all fields have the same values among others. -/
def sameFields : Fields → Fields → Bool
  | [], _ => true
  | (name, v) :: rest, others =>
    (match Fields.get? others name with
      | some w => same v w
      | none => false) && sameFields rest others

end

mutual

/-- Whether all numbers in a value are finite. -/
def isFinite : Json → Bool
  | float (.finite ..) => true
  | float _ => false
  | arr items => itemsFinite items
  | obj fields => fieldsFinite fields
  | _ => true

/-- Whether all numbers in items are finite. -/
def itemsFinite : List Json → Bool
  | [] => true
  | v :: rest => isFinite v && itemsFinite rest

/-- Whether all numbers in fields are finite. -/
def fieldsFinite : List (String × Json) → Bool
  | [] => true
  | (_, v) :: rest => isFinite v && fieldsFinite rest

end

end NetSketch.Json
