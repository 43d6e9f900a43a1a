import NetSketch.Catalog.Component
import NetSketch.Json.Basic
import NetSketch.Knowledge.Terms

/-!
# Entries of the knowledge corpus

What is known about component types: how they depend on each other, which shapes of a diagram are
risky, how components fail and which named blueprints there are. Parts that nothing depends on are
kept as they were written.

* `Citation`, `Relationship`;
* `Signature`, `AntiPattern`: a shape, in preconditions and one structural check;
* `Failure`, `Blueprint`; `Corpus`;
* the same entries as documents: `Relationship.toJson` and its like.
-/

namespace NetSketch

open Number

/-! ## Relationships -/

/-- Where a relationship is taken from. -/
structure Citation where
  kind : Json
  title : Json
  url : Json := .null
  part : Json := .null

/-- A relationship between two component types. -/
structure Relationship where
  id : Json
  source : Component
  target : Component
  relation : Relation
  strength : Strength
  direction : Direction
  reason : Json
  reasonKo : Json
  confidence : Binary64
  tags : List Json := []
  citations : List Citation := []

namespace Relationship

variable (r : Relationship)

/-- The other end of a relationship. -/
def other (c : Component) : Component := if c = r.source then r.target else r.source

/-- The title of the first citation. -/
def firstTitle : Json :=
  match r.citations with
  | [] => .str "출처 미상"
  | c :: _ => c.title

/-- Whether the relationship must be honoured. -/
def isMandatory : Bool := r.relation == .requires && r.strength == .mandatory

end Relationship

/-! ## Anti-patterns -/

/-- The structural check of a signature. -/
inductive Shape where
  /-- Nothing besides the preconditions. -/
  | presence
  /-- Some of the first types reaches one of the second without passing a guard. -/
  | unguardedPath (sources targets guards : Json)
  /-- A connection joins one of the first types with one of the second. -/
  | directLink (a b : Json)
  /-- A node of the types stands in one of the tiers. -/
  | tierPlacement (types tiers : Json)
  /-- Every type occurs as often as its rule says. -/
  | typeCount (counts : Json)
  /-- All nodes but the external ones share one tier. -/
  | singleTier
  /-- A hub has no more than so many backends. -/
  | fanOut (hub most ignored : Json)
  /-- The first types stand in tiers of the second ones only. -/
  | tierSubset (inner outer : Json)

/-- How a risky shape of a diagram is recognised. -/
structure Signature where
  minNodes : Json := .int 0
  presentAll : Json := .arr []
  presentAny : Json := .null
  absentAll : Json := .arr []
  absentFlows : Json := .null
  shape : Shape

/-- A risky shape of a diagram. -/
structure AntiPattern where
  id : Json
  name : Json
  nameKo : Json
  severity : Severity
  signature : Signature
  problemKo : Json
  impactKo : Json
  solutionKo : Json

/-! ## Failures and blueprints -/

/-- A way in which a component fails. -/
structure Failure where
  id : Json
  component : Component
  title : Json
  titleKo : Json
  scenarioKo : Json
  impact : Impact
  likelihood : Json := .str "medium"
  affected : List Json := []
  preventionKo : List Json := []
  mitigationKo : List Json := []
  repairTime : String := ""

/-- A component type that a blueprint needs, and how often. -/
structure Need where
  type : Component
  least : Json := .int 1

/-- A named architecture. -/
structure Blueprint where
  id : Json
  name : Json
  nameKo : Json
  descriptionKo : Json := .str ""
  needs : List Need := []
  optional : List Json := []
  scalability : Json := .str "medium"
  complexity : Int := 1
  evolvesTo : List Json := []
  evolvesFrom : List Json := []
  tags : List Json := []

/-- All that is known. -/
structure Corpus where
  relationships : List Relationship := []
  antiPatterns : List AntiPattern := []
  failures : List Failure := []
  blueprints : List Blueprint := []

/-! ## Documents -/

/-- The document of a citation. -/
def Citation.toJson (c : Citation) : Json :=
  .obj [("type", c.kind), ("title", c.title), ("url", c.url), ("section", c.part)]

/-- The document of a relationship. -/
def Relationship.toJson (r : Relationship) : Json :=
  .obj [("id", r.id), ("source", .str r.source.name), ("target", .str r.target.name),
    ("relationship_type", .str r.relation.name), ("strength", .str r.strength.name),
    ("direction", .str r.direction.name), ("reason", r.reason), ("reason_ko", r.reasonKo),
    ("confidence", .float r.confidence), ("tags", .arr r.tags),
    ("sources", .arr (r.citations.map (·.toJson)))]

/-- The document of an anti-pattern. -/
def AntiPattern.toJson (a : AntiPattern) : Json :=
  .obj [("id", a.id), ("name", a.name), ("name_ko", a.nameKo), ("severity", .str a.severity.name),
    ("problem_ko", a.problemKo), ("impact_ko", a.impactKo), ("solution_ko", a.solutionKo)]

/-- The document of a failure. -/
def Failure.toJson (f : Failure) : Json :=
  .obj [("id", f.id), ("component", .str f.component.name), ("title", f.title),
    ("title_ko", f.titleKo), ("scenario_ko", f.scenarioKo), ("impact", .str f.impact.name),
    ("likelihood", f.likelihood), ("affected_components", .arr f.affected),
    ("prevention_ko", .arr f.preventionKo), ("mitigation_ko", .arr f.mitigationKo),
    ("estimated_mttr", .str f.repairTime)]

/-- The document of a blueprint. -/
def Blueprint.toJson (b : Blueprint) : Json :=
  .obj [("id", b.id), ("name", b.name), ("name_ko", b.nameKo),
    ("description_ko", b.descriptionKo),
    ("required", .arr (b.needs.map fun need =>
      .obj [("type", .str need.type.name), ("min_count", need.least)])),
    ("optional", .arr b.optional), ("scalability", b.scalability),
    ("complexity", .int b.complexity), ("evolves_to", .arr b.evolvesTo),
    ("evolves_from", .arr b.evolvesFrom), ("tags", .arr b.tags)]

end NetSketch
