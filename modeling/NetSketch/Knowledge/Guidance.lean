import NetSketch.Knowledge.Store

/-!
# Guidance about a diagram

What the knowledge store has to say about a diagram, and the same as a block of text that is shown
to an assistant.

* `Guidance`, `Guidance.about`: relationships, conflicts, anti-patterns, suggestions and risks;
* `Guidance.block`: the block of text; `Guidance.toJson`: all of it as a document.
-/

namespace NetSketch

open Number

/-- What is known that matters for a diagram. -/
structure Guidance where
  relationships : List Relationship := []
  conflicts : List Relationship := []
  violations : List AntiPattern := []
  suggestions : List Relationship := []
  risks : List Failure := []

namespace Guidance

/-! ## Collecting -/

/-- The least confidence of a relationship that is used. -/
def leastConfidence : Binary64 := .ofDecimal false 5 (-1)

/-- The least confidence of an official standard. -/
def officialConfidence : Binary64 := .ofDecimal false 85 (-2)

/-- Whether one end of a relationship asks for the other one, which is missing. -/
def asks (types : List Component) (r : Relationship) : Bool :=
  (r.relation == .requires || r.relation == .recommends) &&
    ((types.contains r.source && !types.contains r.target) ||
      (r.direction == .bidirectional && types.contains r.target && !types.contains r.source))

/-- Whether a suggestion is listed before another: required things first, then the surer ones. -/
def suggestedBefore (a b : Relationship) : Bool :=
  if (a.relation == .requires) != (b.relation == .requires) then a.relation == .requires
  else b.confidence.lt a.confidence

/-- Suggestions in their order. -/
def sortSuggestions (rs : List Relationship) : List Relationship :=
  rs.mergeSort fun a b => !suggestedBefore b a

/-- Anti-patterns, the most severe first. -/
def bySeverity (as : List AntiPattern) : List AntiPattern :=
  as.mergeSort fun a b => b.severity.rank ≤ a.severity.rank

/-- What some entries say about a view. Anti-patterns are looked for in a view of their own. -/
def of (view shapes : View) (relationships : List Relationship) (antiPatterns : List AntiPattern)
    (failures : List Failure) : Except Fault Guidance := do
  let types := view.types
  let usable := relationships.filter fun r => leastConfidence.le r.confidence
  let inside := usable.filter fun r => types.contains r.source && types.contains r.target
  let violations ← antiPatterns.filterM (·.fits shapes)
  return {
    relationships := distinctIds (inside.filter (·.relation != .conflicts))
    conflicts := distinctIds (inside.filter (·.relation == .conflicts))
    violations := bySeverity violations
    suggestions := sortSuggestions (distinctIds (usable.filter (asks types)))
    risks := byImpact (failures.filter fun f => types.contains f.component) }

/-- **What a store says about a diagram.** -/
def about (store : Store) (spec : Option Spec) : Except Fault Guidance :=
  let view := View.ofSpec? spec
  of view view store.corpus.relationships store.corpus.antiPatterns store.corpus.failures

variable (g : Guidance)

/-- Whether there is anything to act on. -/
def hasFindings : Bool :=
  !(g.conflicts.isEmpty && g.violations.isEmpty && g.suggestions.isEmpty && g.risks.isEmpty)

/-! ## Text -/

/-- The mark of a severity. -/
def severityMark : Severity → String
  | .critical => "🔴"
  | .high => "🟠"
  | .medium => "🟡"
  | .low => "🟡"

/-- A severity in capitals. -/
def severityWord : Severity → String
  | .critical => "CRITICAL"
  | .high => "HIGH"
  | .medium => "MEDIUM"
  | .low => "LOW"

/-- The mark of an impact. -/
def impactMark : Impact → String
  | .serviceDown => "🔴"
  | .dataLoss => "🟣"
  | .securityBreach => "🔶"
  | .degraded => "🟡"

/-- How many risks are told. -/
def mostRisks : Nat := 5

/-- The entries that are told in groups. -/
def entries : List Relationship := g.relationships ++ g.suggestions

/-- The entries taken from official standards. -/
def official : List Relationship :=
  g.entries.filter fun r => officialConfidence.le r.confidence

/-- The entries that are sure enough, but not official. -/
def verified (least : Binary64) : List Relationship :=
  g.entries.filter fun r => least.le r.confidence && r.confidence.lt officialConfidence

/-- The entries that are not sure enough. -/
def unverified (least : Binary64) : List Relationship :=
  g.entries.filter fun r => r.confidence.lt least

/-- The line of a required component that is missing. -/
def missingLine (r : Relationship) : String :=
  "- 🔴 필수 누락: \"" ++ r.source.name ++ "\"은(는) \"" ++ r.target.name ++
    "\"이(가) 필요합니다: " ++ r.reasonKo.display

/-- The lines about what is wrong. -/
def violationLines : List String :=
  (g.violations.flatMap fun a =>
    ["- " ++ severityMark a.severity ++ " [" ++ severityWord a.severity ++ "] " ++
        a.nameKo.display ++ ": " ++ a.problemKo.display,
      "  해결: " ++ a.solutionKo.display]) ++
  (g.conflicts.map fun r =>
    "- ⚠️ 충돌: \"" ++ r.source.name ++ "\" ↔ \"" ++ r.target.name ++ "\": " ++
      r.reasonKo.display) ++
  (g.suggestions.filter (·.relation == .requires)).map missingLine

/-- The lines about what may go wrong. -/
def riskLines : List String :=
  (g.risks.take mostRisks).flatMap fun f =>
    ("- " ++ impactMark f.impact ++ " [" ++ f.impact.name ++ "] " ++ f.titleKo.display ++
      " (MTTR: " ++ f.repairTime ++ ")") ::
    match f.preventionKo with
    | [] => []
    | first :: _ => ["  예방: " ++ first.display]

/-- Lines under a heading and an empty line behind them; nothing if there are none. -/
def headed (heading : String) (lines : List String) : List String :=
  if lines.isEmpty then [] else heading :: lines ++ [""]

/-- The lines of the block. -/
def lines (least : Binary64) : List String :=
  "## 인프라 지식 기반 가이드\n" ::
  headed "### 공식 표준 (반드시 준수)"
    (g.official.map fun r => "- " ++ r.reasonKo.display ++ " [" ++ r.firstTitle.display ++ "]") ++
  headed "### 검증된 실무 가이드"
    ((g.verified least).map fun r =>
      "- " ++ r.reasonKo.display ++ " (신뢰도: " ++ toString r.confidence.percent ++ "%)") ++
  headed "### 참고: 사용자 기여 (미검증)"
    ((g.unverified least).map fun r => "- " ++ r.reasonKo.display ++ " ⚠️ 미검증") ++
  headed "### ⛔ 주의사항 및 위반 감지" g.violationLines ++
  headed "### 💥 잠재적 장애 시나리오" g.riskLines ++
  ["### 우선순위 규칙",
    "1. 공식 표준 출처의 가이드를 최우선으로 적용하세요.",
    "2. 검증된 실무 가이드는 공식 표준과 충돌하지 않는 범위에서 참고하세요.",
    "3. 미검증 사용자 기여 내용은 참고만 하고, 의사결정의 근거로 사용하지 마세요."]

/-- **The block of text**; empty if there is nothing to act on. -/
def block (least : Binary64 := leastConfidence) : String :=
  if g.hasFindings then String.intercalate "\n" (g.lines least) else ""

/-- The document of guidance. -/
def toJson : Json :=
  .obj [("relationships", .arr (g.relationships.map (·.toJson))),
    ("conflicts", .arr (g.conflicts.map (·.toJson))),
    ("violations", .arr (g.violations.map (·.toJson))),
    ("suggestions", .arr (g.suggestions.map (·.toJson))),
    ("risks", .arr (g.risks.map (·.toJson)))]

end Guidance

end NetSketch
