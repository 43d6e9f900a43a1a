import NetSketch.Diagram.Basic
import NetSketch.Prompt.Mention
import NetSketch.Text.Case

/-!
# Positions and references in prompts

* `Placement`, `Hint`, `hint?`: where a prompt wants something to be put;
* `Spec.resolve?`: the node that a reference means.
-/

namespace NetSketch

open Prompt Text Text.Pattern

/-! ## Positions -/

/-- A kind of position. -/
inductive Placement where
  | before
  | after
  | between
  | start
  | finish
  deriving DecidableEq, Repr

namespace Placement

/-- All kinds of positions. -/
def all : List Placement := [.before, .after, .between, .start, .finish]

/-- The name of a kind of position. -/
def name : Placement → String
  | before => "before"
  | after => "after"
  | between => "between"
  | start => "start"
  | finish => "end"

end Placement

/-- A position that a text asks for, what it refers to, and where the text says so. -/
structure Hint where
  placement : Placement
  reference : Option String := none
  second : Option String := none
  span : Nat × Nat := (0, 0)
  deriving DecidableEq, Repr

namespace Prompt

/-- A character of a reference. -/
def nameChar : CharSet := ⟨[.word, .char '-', .char '/'], false⟩

/-- The characters of one word, as many as possible. -/
def nameWord : Pattern := plus (one nameChar)

/-- A word of which as little as possible is taken. -/
def shortName : Pattern := plusFew (one nameChar)

/-- A place where a name may begin. A piece that begins with a name is found at such a place
anyhow, for behind a name character it could begin earlier; so the other places are not tried. -/
def nameStart : Pattern := notAfter [nameChar]

/-- A reference in front of a Korean word, of one or two words. -/
def koreanName : Pattern := nameStart ++ group 1 (opt (nameWord ++ someBlanks) ++ shortName)

/-- An English reference: a word, perhaps with a noun behind it. -/
def englishName (number : Nat) : Pattern :=
  opt ("the" ++ someBlanks) ++ group number (nameWord ++ opt (someBlanks ++
    anyOf ["server", "balancer", "gateway", "switch", "storage", "firewall"]))

/-- A Korean reference and a position word behind it. -/
def behindName (words : List String) : Pattern :=
  koreanName ++ blanks ++ opt ("의" ++ blanks) ++ anyOf words

/-- An English position word and a reference behind it. -/
def beforeName (words : List String) : Pattern := anyOf words ++ someBlanks ++ englishName 1

/-- The patterns of positions in the order in which they are tried. -/
def positionRules : List (Pattern × Placement) :=
  [ (nameStart ++ group 1 shortName ++ blanks ++ anyOf ["와", "과", "랑", "하고"] ++ blanks ++
      group 2 shortName ++ blanks ++ opt ("의" ++ blanks) ++ "사이에", .between),
    ("between" ++ someBlanks ++ englishName 1 ++ someBlanks ++ "and" ++ someBlanks ++
      englishName 2, .between),
    (behindName ["뒤에", "뒤로", "다음에", "다음으로"], .after),
    (beforeName ["after", "behind", "following"], .after),
    (behindName ["앞에", "앞으로", "이전에"], .before),
    (beforeName ["before", "in front of", "ahead of"], .before),
    (firstOf ["맨" ++ blanks ++ "앞", "처음에", "at the " ++ anyOf ["start", "beginning"],
      "at the front"], .start),
    (firstOf ["맨" ++ blanks ++ anyOf ["뒤", "끝"], "마지막에", "at the end"], .finish) ]

/-- The Korean endings that are no part of a name. -/
def particles : List Char := ['을', '를', '은', '는', '의']

/-- Whether a text ends in a particle. -/
def endsInParticle (s : String) : Bool := s.toList.getLast?.any particles.contains

/-- A text without the particle at its end, unless nothing else is left. -/
def withoutParticle (s : String) : String :=
  if endsInParticle s && 1 < s.length then .ofList s.toList.dropLast else s

/-- A reference without particles. A first word that ends in one belongs to something else. -/
def cleanName (s : String) : String :=
  let s := trim s
  withoutParticle <| match words s with
    | first :: w :: rest =>
      if endsInParticle first then String.intercalate " " (w :: rest) else s
    | _ => s

/-- **The position that a text asks for.** -/
def hint? (s : String) : Option Hint :=
  positionRules.findSome? fun (p, placement) =>
    (p.find true s).map fun m =>
      let names := ([1, 2].filterMap m.group?).filter (!·.isEmpty)
      { placement
        reference := (names[0]?).map cleanName
        second := (names[1]?).map cleanName
        span := (m.start, m.finish) }

end Prompt

/-! ## References -/

/-- The first node of the last mentioned type that has one. -/
def Spec.mentioned? (s : Spec) (text : String) : Option Node :=
  (mentions text).reverse.findSome? fun m => (s.nodesOfType m.type).head?

/-- **The node that a reference means**: by id, else by label, else by type. -/
def Spec.resolve? (s : Spec) (reference : Option String) : Option Node :=
  match reference with
  | none => none
  | some reference =>
    if reference.isEmpty || s.nodes.isEmpty then none
    else
      let name := lower (trim reference)
      (s.nodes.find? fun n => lower n.id == name) <|>
      (s.nodes.find? fun n => lower n.label == name) <|>
      (s.nodes.find? fun n => n.type.name == name) <|>
      s.mentioned? name

end NetSketch
