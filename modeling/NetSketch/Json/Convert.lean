import NetSketch.Json.Fault
import NetSketch.Number.Reading

/-!
# Numbers out of values

* `Json.toFloat`, `Json.toInt`: the number that a value stands for, texts included.
-/

namespace NetSketch.Json

open Number

/-- The greatest count of digits of an integer's text. -/
def maxDigits : Nat := 4300

/-- The floating-point number that a value stands for. -/
def toFloat : Json → Except Fault Binary64
  | bool b => .ok (.ofRatio false (if b then 1 else 0) 1)
  | int i =>
    match Binary64.ofInt? i with
    | some x => .ok x
    | none => .error .tooLargeForFloat
  | float x => .ok x
  | str s =>
    match readFloat? s with
    | some x => .ok x
    | none => .error (.notAFloatText s)
  | v => .error (.notAFloat v.kind)

/-- The integer that a value stands for; a fraction is cut off. -/
def toInt : Json → Except Fault Int
  | bool b => .ok (if b then 1 else 0)
  | int i => .ok i
  | float x =>
    match x.truncate?, x with
    | some i, _ => .ok i
    | none, .nan => .error .nanToInt
    | none, _ => .error .infinityToInt
  | str s =>
    let t := IntText.of s
    -- the digits are counted before what follows them is looked at, but for a low line
    if maxDigits < t.digits.length && !t.endsInLine then .error (.tooManyDigits t.digits.length)
    else match t.value? with
      | some i => .ok i
      | none => .error (.notAnIntText s)
  | v => .error (.notAnInt v.kind)

end NetSketch.Json
