import NetSketch.Knowledge.Ranking
import NetSketch.Knowledge.Store

/-!
# Advice on a change

After a change, the store warns of conflicts and of severe anti-patterns that the change brought,
and suggests what the changed types depend on.

* `Warning`, `Suggestion` and their documents;
* `Store.warnings`, `Store.suggestions`.
-/

namespace NetSketch

open Number

/-- Something to be warned of. -/
inductive Warning where
  | conflict (r : Relationship)
  | antiPattern (a : AntiPattern)

/-- A missing component. -/
structure Suggestion where
  relationship : Relationship
  missing : Component
  source : Component

/-! ## Documents -/

namespace Warning

/-- How severe a warning is. -/
def severity : Warning → Severity
  | conflict r => .ofStrength r.strength
  | antiPattern a => a.severity

/-- The fields of a warning; an id that is not given is left out. -/
def toJson : Warning → Json
  | w@(conflict r) =>
    .obj <| Fields.given [("type", some (.str "conflict")),
      ("severity", some (.str w.severity.name)),
      ("message", some (.str (r.source.label ++ " conflicts with " ++ r.target.label ++ ": " ++
        r.reason.display))),
      ("messageKo", some (.str (r.source.labelKo ++ "와(과) " ++ r.target.labelKo ++
        "은(는) 함께 배치하면 위험합니다: " ++ r.reasonKo.display))),
      ("components", some (.arr [.str r.source.name, .str r.target.name])),
      ("relationshipId", if r.id.truthy then some r.id else none)]
  | w@(antiPattern a) =>
    .obj <| Fields.given [("type", some (.str "antipattern")),
      ("severity", some (.str w.severity.name)),
      ("message", some (.str (a.name.display ++ " detected"))),
      ("messageKo", some (.str (a.nameKo.display ++ ": " ++ a.problemKo.display ++ " 해결: " ++
        a.solutionKo.display))),
      ("components", some (.arr [])),
      ("antiPatternId", if a.id.truthy then some a.id else none)]

end Warning

namespace Suggestion

/-- Whether the missing component must be there. -/
def isMandatory (s : Suggestion) : Bool := s.relationship.isMandatory

/-- The fields of a suggestion. -/
def toJson (s : Suggestion) : Json :=
  .obj [("type", .str (if s.isMandatory then "mandatory" else "recommended")),
    ("missingComponent", .str s.missing.name), ("sourceComponent", .str s.source.name),
    ("reason", s.relationship.reason), ("reasonKo", s.relationship.reasonKo),
    ("relationshipId", s.relationship.id), ("confidence", .float s.relationship.confidence)]

end Suggestion

namespace Store

variable (store : Store)

/-! ## Warnings -/

/-- The conflicts of changed types with types that are present, each once. -/
def conflictsAmong (present changed : List Component) : List Relationship :=
  distinctIds (changed.flatMap fun c =>
    (store.conflictsFor c).filter fun r => present.contains (r.other c))

/-- The anti-patterns of a diagram that another one does not show. -/
def introduced (before : Option Spec) (after : Spec) : Except Fault (List AntiPattern) := do
  let old ← match before with
    | some s => store.antiPatternsIn (.ofSpec? s)
    | none => pure []
  let ids := old.map (·.id.key?)
  return (← store.antiPatternsIn (.ofSpec? after)).filter fun a => !ids.contains a.id.key?

/-- **The warnings about a change** that affected some types. -/
def warnings (after : Spec) (changed : List Component) (before : Option Spec) :
    Except Fault (List Warning) := do
  let conflicts := store.conflictsAmong after.types (Component.sorted changed)
  let found ← store.introduced before after
  let severe := found.filter fun a => a.severity == .critical || a.severity == .high
  return conflicts.map .conflict ++ severe.map .antiPattern

/-! ## Suggestions -/

/-- A suggestion among others, of which the first for a component counts unless a later one is
mandatory. -/
def suggest (s : Suggestion) : List Suggestion → List Suggestion
  | [] => [s]
  | t :: rest =>
    if t.missing = s.missing then (if s.isMandatory && !t.isMandatory then s else t) :: rest
    else t :: suggest s rest

/-- What a type depends on that is not present. -/
def lacking (present : List Component) (c : Component) : List Suggestion :=
  ((store.dependenciesFor c).filter fun (r, needed) =>
    !present.contains needed && !r.confidence.lt (.ofDecimal false 5 (-1))).map
    fun (r, needed) => ⟨r, needed, c⟩

/-- Whether a suggestion is listed before another: mandatory ones first, then the surer ones. -/
def suggestedBefore (a b : Suggestion) : Bool :=
  if a.isMandatory != b.isMandatory then a.isMandatory
  else b.relationship.confidence.lt a.relationship.confidence

/-- **The suggestions after a change** that affected some types. -/
def suggestions (after : Spec) (changed : List Component) : List Suggestion :=
  ranked suggestedBefore <|
    ((Component.sorted changed).flatMap (store.lacking after.types)).foldl
      (fun found s => suggest s found) []

end Store

end NetSketch
