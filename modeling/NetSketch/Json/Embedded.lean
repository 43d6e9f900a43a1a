import NetSketch.Json.Fault
import NetSketch.Json.Reader
import NetSketch.Text.Blank
import NetSketch.Text.WordChar

/-!
# JSON objects inside prose

An answer in prose may hold JSON objects: as the whole text, between code fences, or as balanced
braces somewhere in it. The candidates are tried in this order, each text once.

* `fenced`: the texts between fences; `balanced`: the outermost spans of braces;
* `candidates`; `Json.objectsIn`: the objects that are read, up to a candidate that is nested
  too deeply.
-/

namespace NetSketch.Json

open Text

/-! ## Fences -/

/-- The mark that opens and closes a fenced text. -/
def fence : List Char := "```".toList

/-- A character of the tag behind an opening fence. -/
def isTagChar (c : Char) : Bool := c.isAlphanum || c == '_' || c == '-'

/-- The characters before the first fence and those behind it. -/
def upToFence : List Char → Option (List Char × List Char)
  | [] => none
  | c :: rest =>
    if fence.isPrefixOf (c :: rest) then some ([], (c :: rest).drop 3)
    else (upToFence rest).map fun (inside, behind) => (c :: inside, behind)

/-- The texts between fences, from left to right, at most `most` of them. -/
def fencedUpTo : Nat → List Char → List (List Char)
  | 0, _ => []
  | most + 1, cs =>
    match upToFence cs with
    | none => []
    | some (_, rest) =>
      match upToFence ((rest.dropWhile isTagChar).dropWhile isBlank) with
      | none => []
      | some (inside, behind) => inside :: fencedUpTo most behind

/-- The texts between fences, from left to right. -/
def fenced (cs : List Char) : List (List Char) := fencedUpTo cs.length cs

/-! ## Braces -/

/-- A scan for balanced braces: how many are open, the span so far (backwards), whether the scan
is inside quotes and whether the last character there was a backslash. -/
structure BraceScan where
  depth : Nat := 0
  span : List Char := []
  quoted : Bool := false
  escaped : Bool := false

/-- The scan behind one more character, and the span that it closes. -/
def BraceScan.step (scan : BraceScan) (c : Char) : BraceScan × Option (List Char) :=
  let span := c :: scan.span
  if scan.quoted then
    if scan.escaped then ({ scan with span, escaped := false }, none)
    else if c == '\\' then ({ scan with span, escaped := true }, none)
    else if c == '"' then ({ scan with span, quoted := false }, none)
    else ({ scan with span }, none)
  else if c == '"' then
    (if scan.depth = 0 then scan else { scan with span, quoted := true }, none)
  else if c == '\x7b' then
    if scan.depth = 0 then ({ scan with depth := 1, span := [c] }, none)
    else ({ scan with depth := scan.depth + 1, span }, none)
  else if c == '\x7d' then
    match scan.depth with
    | 0 => (scan, none)
    | 1 => ({}, some span.reverse)
    | depth + 2 => ({ scan with depth := depth + 1, span }, none)
  else (if scan.depth = 0 then scan else { scan with span }, none)

/-- The spans that a scan closes. -/
def balancedFrom (scan : BraceScan) : List Char → List (List Char)
  | [] => []
  | c :: rest =>
    match scan.step c with
    | (scan, some span) => span :: balancedFrom scan rest
    | (scan, none) => balancedFrom scan rest

/-- The outermost spans of balanced braces; braces inside quotes do not count. -/
def balanced (cs : List Char) : List (List Char) := balancedFrom {} cs

/-! ## Objects -/

/-- The texts that may be objects, each once and none of them empty. -/
def candidates (cs : List Char) : List (List Char) :=
  ((trimChars cs :: (fenced cs).map trimChars ++ balanced cs).filter (!·.isEmpty)).eraseDups

/-- The objects among candidates, up to one that is nested too deeply. -/
def objectsAmong : List (List Char) → List (Except Fault Fields)
  | [] => []
  | cs :: rest =>
    match readChars nestingLimit cs with
    | .ok (.obj fields) => .ok fields :: objectsAmong rest
    | .error .tooDeep => [.error .tooDeep]
    | _ => objectsAmong rest

/-- The objects in a text, the likeliest first. -/
def objectsIn (s : String) : List (Except Fault Fields) := objectsAmong (candidates s.toList)

end NetSketch.Json
