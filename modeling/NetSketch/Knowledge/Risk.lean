import NetSketch.Diagram.Diff
import NetSketch.Knowledge.Advice

/-!
# The risk of a change

The change from one diagram to another is graded by what it removes, how much it changes, which
anti-patterns it brings and what it exposes. The gravest factor decides.

* `Factor` with its code, level and description; `Store.factors`;
* `Risk`, `Store.risk`: the graded change, and its document.
-/

namespace NetSketch

open Number

/-- A reason why a change is risky, or not. -/
inductive Factor where
  | allRemoved
  | securityRemoved (n : Node)
  | authRemoved (n : Node)
  | backupRemoved (n : Node)
  | nodeRemoved (n : Node)
  | massiveChange (percent : Int) (added removed : Nat)
  | largeChange (percent : Int) (added removed : Nat)
  | moderateChange (added removed : Nat)
  | antiPattern (a : AntiPattern)
  | dependencyBroken (type needed : Component)
  | redundancyRemoved (type : Component) (before : Nat)
  | exposed (inner : Component) (source target : String)
  | securityAdded (n : Node)
  | nothing

namespace Factor

/-- The code of a factor. -/
def code : Factor → String
  | allRemoved => "ALL_NODES_REMOVED"
  | securityRemoved _ => "SECURITY_NODE_REMOVED"
  | authRemoved _ => "AUTH_NODE_REMOVED"
  | backupRemoved _ => "BACKUP_REMOVED"
  | nodeRemoved _ => "NODE_REMOVED"
  | massiveChange .. => "MASSIVE_CHANGE"
  | largeChange .. => "LARGE_CHANGE"
  | moderateChange .. => "MODERATE_CHANGE"
  | antiPattern _ => "ANTIPATTERN_INTRODUCED"
  | dependencyBroken .. => "MANDATORY_DEP_BROKEN"
  | redundancyRemoved .. => "REDUNDANCY_REMOVED"
  | exposed .. => "INTERNET_EXPOSED"
  | securityAdded _ => "SECURITY_NODE_ADDED"
  | nothing => "NO_RISK"

/-- How grave a factor is. -/
def level : Factor → Severity
  | allRemoved | massiveChange .. | exposed .. => .critical
  | securityRemoved _ | authRemoved _ | backupRemoved _ | largeChange .. | dependencyBroken .. =>
    .high
  | nodeRemoved _ | moderateChange .. | redundancyRemoved .. => .medium
  | antiPattern a => a.severity
  | securityAdded _ | nothing => .low

/-- Counts of added and removed nodes. -/
def countText (added removed : Nat) : String :=
  "(추가: " ++ Nat.repr added ++ ", 제거: " ++ Nat.repr removed ++ ")"

/-- A node by its label and type. -/
def nodeText (n : Node) : String := n.label ++ " (" ++ n.type.name ++ ")"

/-- A factor in words. -/
def description : Factor → String
  | allRemoved => "모든 노드가 제거되었습니다. 다이어그램이 비어 있습니다."
  | securityRemoved n => "보안 노드가 제거되었습니다: " ++ nodeText n
  | authRemoved n => "인증 노드가 제거되었습니다: " ++ nodeText n
  | backupRemoved n => "백업 노드가 제거되었습니다: " ++ n.label
  | nodeRemoved n => "노드가 제거되었습니다: " ++ nodeText n
  | massiveChange percent added removed =>
    "노드의 " ++ toString percent ++ "% 이상이 변경되었습니다 " ++ countText added removed ++ "."
  | largeChange percent added removed =>
    "노드의 " ++ toString percent ++ "%가 변경되었습니다 " ++ countText added removed ++ "."
  | moderateChange added removed =>
    Nat.repr (added + removed) ++ "개의 노드가 변경되었습니다 " ++ countText added removed ++ "."
  | antiPattern a =>
    "안티패턴이 도입되었습니다: " ++ a.nameKo.display ++ " (" ++ a.id.display ++ ")"
  | dependencyBroken type needed =>
    "필수 의존성이 깨졌습니다: " ++ type.name ++ "은(는) " ++ needed.name ++ "이(가) 필요합니다."
  | redundancyRemoved type before =>
    "이중화가 제거되었습니다: " ++ type.name ++ "이(가) " ++ Nat.repr before ++
      "개에서 1개로 줄었습니다 (단일 장애점 위험)."
  | exposed inner _ _ => "내부 전용 컴포넌트가 인터넷에 직접 노출되었습니다: " ++ inner.name
  | securityAdded n => "보안 컴포넌트가 추가되어 위험이 낮아집니다: " ++ nodeText n
  | nothing => "위험 요소가 감지되지 않았습니다."

/-- What a factor is about. -/
def details : Factor → Option Json
  | securityRemoved n | authRemoved n | nodeRemoved n | securityAdded n => some (.str n.type.name)
  | backupRemoved n => some (.str n.id)
  | antiPattern a => some a.id
  | dependencyBroken type needed => some (.str (type.name ++ " -> " ++ needed.name))
  | redundancyRemoved type _ => some (.str type.name)
  | exposed _ source target => some (.str (source ++ " -> " ++ target))
  | allRemoved | massiveChange .. | largeChange .. | moderateChange .. | nothing => none

/-- The document of a factor. -/
def toJson (f : Factor) : Json :=
  .obj <| Fields.given [("code", some (.str f.code)), ("level", some (.str f.level.name)),
    ("descriptionKo", some (.str f.description)), ("details", f.details.filter (·.truthy))]

end Factor

/-! ## Factors of a change -/

/-- What the loss of a node means when its type matters. -/
def lossOf (n : Node) : Option Factor :=
  if Component.security.contains n.type then some (.securityRemoved n)
  else if Component.auth.contains n.type then some (.authRemoved n)
  else if n.type = .backup then some (.backupRemoved n)
  else none

namespace Diff

variable (d : Diff)

/-- The factors of what is lost: removed nodes, and nodes that are no longer of their old type. -/
def losses : List Factor :=
  (d.removed.map fun n => (lossOf n).getD (.nodeRemoved n)) ++
    (d.modified.filter fun (old, new) => old.type != new.type).filterMap fun (old, _) => lossOf old

/-- The factor of the size of a change to a diagram of so many nodes. More than half of them is
massive and more than three tenths is large. -/
def scale (nodes : Nat) : List Factor :=
  let added := d.added.length
  let removed := d.removed.length
  let changed := added + removed
  let percent := (Binary64.ofRatio false changed nodes).percent
  if nodes ≠ 0 ∧ nodes < 2 * changed then [.massiveChange percent added removed]
  else if nodes ≠ 0 ∧ 3 * nodes < 10 * changed then [.largeChange percent added removed]
  else if 5 ≤ changed then [.moderateChange added removed]
  else []

/-- The factors of connections that join the internet with something internal. -/
def exposures (after : Spec) : List Factor :=
  (d.addedEnds.mergeSort endsLe).flatMap fun (source, target) =>
    match after.node? source, after.node? target with
    | some a, some b =>
      [(a, b), (b, a)].filterMap fun (outer, inner) =>
        if outer.type = .internet ∧ Component.internalOnly.contains inner.type then
          some (.exposed inner.type source target)
        else none
    | _, _ => []

/-- The factors of added guards. -/
def guardsAdded : List Factor :=
  (d.added.filter fun n => Component.security.contains n.type || Component.auth.contains n.type).map
    .securityAdded

end Diff

/-- The factors of types that were there several times and now once. -/
def redundancyLosses (before after : Spec) : List Factor :=
  ((tally before.types).filter fun (c, n) => 2 ≤ n && after.types.count c == 1).map
    fun (c, n) => .redundancyRemoved c n

namespace Store

variable (store : Store)

/-- The factors of types whose mandatory dependency was there and is gone. -/
def brokenDependencies (before after : Spec) : List Factor :=
  (Component.sorted after.types).flatMap fun c =>
    ((store.mandatoryFor c).filter fun needed =>
      before.types.contains needed && !after.types.contains needed).map (.dependencyBroken c)

/-- **The factors of a change.** -/
def factors (before after : Spec) : Except Fault (List Factor) := do
  let d := Diff.between before after
  let emptied := !before.nodes.isEmpty && after.nodes.isEmpty
  let found := (if emptied then [Factor.allRemoved] else []) ++ d.losses ++
    d.scale before.nodes.length ++ (← store.introduced before after).map .antiPattern ++
    store.brokenDependencies before after ++ redundancyLosses before after ++
    d.exposures after ++ d.guardsAdded
  return if found.isEmpty then [.nothing] else found

end Store

/-! ## The graded change -/

/-- A graded change. -/
structure Risk where
  factors : List Factor
  counts : Diff.Counts

/-- The graver of two levels. -/
def Severity.graver (a b : Severity) : Severity := if a.rank < b.rank then b else a

/-- What to do about a change of a level: a code and the same in words. -/
def Severity.recommendation : Severity → String × String
  | critical => ("review-required", "중대한 변경입니다. 반드시 검토 후 적용하세요.")
  | high => ("review-required", "보안 또는 가용성에 영향을 줄 수 있습니다. 검토를 권장합니다.")
  | medium => ("confirm", "변경 범위가 넓습니다. 확인 후 적용하세요.")
  | low => ("auto-apply", "안전한 변경입니다. 자동 적용 가능합니다.")

namespace Risk

/-- The level of a change: that of its gravest factor. -/
def level (r : Risk) : Severity := (r.factors.map (·.level)).foldl .graver .low

/-- The document of a graded change. -/
def toJson (r : Risk) : Json :=
  let (code, text) := r.level.recommendation
  .obj [("level", .str r.level.name), ("factors", .arr (r.factors.map (·.toJson))),
    ("summary", r.counts.toJson), ("recommendation", .str code), ("recommendationKo", .str text)]

end Risk

/-- **The graded change from one diagram to another.** -/
def Store.risk (store : Store) (before after : Spec) : Except Fault Risk := do
  return ⟨← store.factors before after, (Diff.between before after).counts⟩

end NetSketch
