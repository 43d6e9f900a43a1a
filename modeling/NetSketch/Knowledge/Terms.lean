import NetSketch.Catalog.Tier

/-!
# Terms of the knowledge corpus

* `Relation`, `Strength`, `Direction`: how one component type depends on another;
* `Severity`, `Impact`: how bad something is, with `Severity.rank` and `Impact.order`.
-/

namespace NetSketch

/-- What one component type is to another. -/
inductive Relation where
  | requires
  | recommends
  | conflicts
  | enhances
  | protects
  deriving DecidableEq, Repr

namespace Relation

/-- All relations. -/
def all : List Relation := [.requires, .recommends, .conflicts, .enhances, .protects]

/-- The name of a relation. -/
def name : Relation → String
  | requires => "requires"
  | recommends => "recommends"
  | conflicts => "conflicts"
  | enhances => "enhances"
  | protects => "protects"

end Relation

/-- How binding a relation is. -/
inductive Strength where
  | mandatory
  | strong
  | weak
  deriving DecidableEq, Repr

namespace Strength

/-- All strengths. -/
def all : List Strength := [.mandatory, .strong, .weak]

/-- The name of a strength. -/
def name : Strength → String
  | mandatory => "mandatory"
  | strong => "strong"
  | weak => "weak"

end Strength

/-- On which side of the source of a relation its target belongs. -/
inductive Direction where
  | upstream
  | downstream
  | bidirectional
  deriving DecidableEq, Repr

namespace Direction

/-- All directions. -/
def all : List Direction := [.upstream, .downstream, .bidirectional]

/-- The name of a direction. -/
def name : Direction → String
  | upstream => "upstream"
  | downstream => "downstream"
  | bidirectional => "bidirectional"

end Direction

/-- How severe an anti-pattern or a warning is. -/
inductive Severity where
  | critical
  | high
  | medium
  | low
  deriving DecidableEq, Repr

namespace Severity

/-- All severities. -/
def all : List Severity := [.critical, .high, .medium, .low]

/-- The name of a severity. -/
def name : Severity → String
  | critical => "critical"
  | high => "high"
  | medium => "medium"
  | low => "low"

/-- A number that is greater for what is more severe. -/
def rank : Severity → Nat
  | low => 0
  | medium => 1
  | high => 2
  | critical => 3

/-- The severity of a conflict of a strength. -/
def ofStrength : Strength → Severity
  | .mandatory => critical
  | .strong => high
  | .weak => medium

end Severity

/-- What a failure does. -/
inductive Impact where
  | serviceDown
  | dataLoss
  | securityBreach
  | degraded
  deriving DecidableEq, Repr

namespace Impact

/-- All impacts. -/
def all : List Impact := [.serviceDown, .dataLoss, .securityBreach, .degraded]

/-- The name of an impact. -/
def name : Impact → String
  | serviceDown => "service-down"
  | dataLoss => "data-loss"
  | securityBreach => "security-breach"
  | degraded => "degraded"

/-- A number that is smaller for what is worse. -/
def order : Impact → Nat
  | serviceDown => 0
  | dataLoss => 1
  | securityBreach => 2
  | degraded => 3

end Impact

end NetSketch
