import NetSketch.Text.CharRanges
import NetSketch.Text.CaseTable

/-!
# Case

Small letters of whole texts, and initial capitals of words. Two letters depend on more than
themselves: the capital I with a dot takes a separate dot along, and a capital sigma becomes the
final small sigma at the end of a word.

* `lower`: a text in small letters;
* `capitalize`: an initial capital followed by small letters;
* `foldLetter`, the letter that stands for another when patterns ignore case.
-/

namespace NetSketch.Text

/-- Letters with case. -/
def caseds : CharRanges := .ofList casedRanges

/-- Characters passed over between letters with case. -/
def caseIgnorables : CharRanges := .ofList caseIgnorableRanges

/-- The character that a run of `runs` assigns. -/
def shiftedBy (runs : List (Nat × Nat × Nat × Int)) (c : Char) : Option Char :=
  (runs.find? fun (first, last, step, _) =>
      first ≤ c.toNat && c.toNat ≤ last && (c.toNat - first) % step == 0).map
    fun (_, _, _, distance) => .ofNat (c.toNat + distance).toNat

/-- The small form of a character by itself. -/
def lowerChar (c : Char) : List Char :=
  if c.toNat < 128 then [c.toLower]
  else if c.toNat = 0x130 then ['i', .ofNat 0x307]
  else [(shiftedBy lowerRuns c).getD c]

/-- Whether the next character that counts is a letter with case. -/
def facesCased (cs : List Char) : Bool :=
  match cs.dropWhile caseIgnorables.has with
  | [] => false
  | c :: _ => caseds.has c

/-- Small letters of the characters that follow `before` (read backwards). -/
def lowerAfter (before : List Char) : List Char → List Char
  | [] => []
  | c :: rest =>
    let small :=
      if c.toNat = 0x3A3 then
        if facesCased before && !facesCased rest then [.ofNat 0x3C2] else [.ofNat 0x3C3]
      else lowerChar c
    small ++ lowerAfter (c :: before) rest

/-- Characters in small letters. -/
def lowerChars (cs : List Char) : List Char := lowerAfter [] cs

/-- A text in small letters. -/
def lower (s : String) : String := .ofList (lowerChars s.toList)

/-- The initial capital of a character. -/
def titleChar (c : Char) : List Char :=
  match titleExpansions.lookup c.toNat with
  | some codes => codes.map .ofNat
  | none => [(shiftedBy titleRuns c).getD c]

/-- An initial capital, then small letters. -/
def capitalize (s : String) : String :=
  match s.toList with
  | [] => ""
  | c :: rest => .ofList (titleChar c ++ lowerAfter [c] rest)

/-- The small Latin letter that a character counts as when case is ignored. Besides the capitals,
the dotted and dotless I count as `i`, the long s as `s` and the Kelvin sign as `k`. -/
def foldLetter (c : Char) : Char :=
  if c.toNat < 128 then c.toLower
  else if c.toNat = 0x130 || c.toNat = 0x131 then 'i'
  else if c.toNat = 0x17F then 's'
  else if c.toNat = 0x212A then 'k'
  else c

end NetSketch.Text
