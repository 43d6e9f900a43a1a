import NetSketch.Diagram.Edit
import NetSketch.Diagram.Issue

/-!
# Diagrams as documents

* `Node.read`, `Connection.read`, `Zone.read`, `Spec.read`: diagrams and their parts out of JSON;
* `Node.toJson`, `Connection.toJson`, `Zone.toJson`, `Spec.toJson`: written without what is absent;
* `Spec.amendNode`: a node changed by some fields of its document.
-/

namespace NetSketch

/-! ## Reading -/

/-- The label of a raw type, which may be anything. -/
def rawLabel (type : Json) : Except Fault String :=
  match type with
  | .str name => .ok (labelOf name)
  | .arr _ | .obj _ => .error (.notAKey type.kind)
  | v => .error (.noMember v.kind "split")

/-- The fields of a node, with the label of its type if it has no label of its own. -/
def withLabel (fields : Fields) : Except Fault Fields :=
  let hasLabel := ((fields.get? "label").map (·.truthy)).getD false
  match fields.get? "type" with
  | some type =>
    if !hasLabel && type.truthy then (rawLabel type).map (fields.put "label" ∘ .str)
    else .ok fields
  | none => .ok fields

/-- A type by its name. -/
def readType (v : Json) : Reading Component := do
  let name ← Reading.text v
  match Component.ofName? name with
  | some c => .ok c
  | none => .complain (.rule (.unknownType name))

/-- An id that is not blank. -/
def readId (v : Json) : Reading String := do
  let id ← Reading.text v
  if Text.isAllBlank id then .complain (.rule .blankId) else .ok id

/-- A node out of its fields. -/
def Node.ofFields (fields : Fields) : Reading Node :=
  match withLabel fields with
  | .error f => .error (.fault f)
  | .ok fields =>
    ((Reading.required fields ["id"] readId).both <|
      (Reading.required fields ["type"] readType).both <|
      (Reading.optional fields ["label"] "" .text).both <|
      (Reading.optional fields ["tier"] none (.orNull (.choice Tier.all Tier.name))).both <|
      (Reading.optional fields ["zone"] none (.orNull .text)).both <|
      Reading.optional fields ["description"] none (.orNull .text)).map
        fun (id, type, label, tier, zone, description) => ⟨id, type, label, tier, zone, description⟩

/-- A node. -/
def Node.read (v : Json) : Reading Node := do Node.ofFields (← Reading.fieldsOf "InfraNode" v)

/-- A connection. -/
def Connection.read (v : Json) : Reading Connection := do
  let fields ← Reading.fieldsOf "InfraConnection" v
  let (source, target, flow, label, bidirectional) ←
    ((Reading.required fields ["source"] .text).both <|
      (Reading.required fields ["target"] .text).both <|
      (Reading.optional fields ["flowType", "flow_type"] none
        (.orNull (.choice FlowKind.all FlowKind.name))).both <|
      (Reading.optional fields ["label"] none (.orNull .text)).both <|
      Reading.optional fields ["bidirectional"] none (.orNull .flag))
  if source = target then .complain (.rule (.selfLoop source target))
  else .ok ⟨source, target, flow, label, bidirectional⟩

/-- A zone. -/
def Zone.read (v : Json) : Reading Zone := do
  let fields ← Reading.fieldsOf "ZoneSpec" v
  ((Reading.required fields ["id"] .text).both <|
    (Reading.required fields ["label"] .text).both <|
    Reading.required fields ["type"] (.choice Tier.all Tier.name)).map
      fun (id, label, tier) => ⟨id, label, tier⟩

/-- **A diagram.** -/
def Spec.read (v : Json) : Reading Spec := do
  let fields ← Reading.fieldsOf "InfraSpec" v
  let (nodes, connections, zones) ←
    ((Reading.optional fields ["nodes"] [] (.eachOf Node.read)).both <|
      (Reading.optional fields ["connections"] [] (.eachOf Connection.read)).both <|
      Reading.optional fields ["zones"] none (.orNull (.eachOf Zone.read)))
  .ofBreach (Spec.check ⟨nodes, connections, zones⟩)

/-! ## Writing -/

/-- The fields of a node. -/
def Node.toFields (n : Node) : Fields :=
  Fields.given [("id", some (.str n.id)), ("type", some (.str n.type.name)),
    ("label", some (.str n.label)), ("tier", n.tierOverride.map (.str ·.name)),
    ("zone", n.zone.map .str), ("description", n.description.map .str)]

/-- The document of a node. -/
def Node.toJson (n : Node) : Json := .obj n.toFields

/-- The document of a connection. -/
def Connection.toJson (c : Connection) : Json :=
  .obj <| Fields.given [("source", some (.str c.source)), ("target", some (.str c.target)),
    ("flowType", c.flow.map (.str ·.name)), ("label", c.label.map .str),
    ("bidirectional", c.bidirectional.map .bool)]

/-- The document of a zone. -/
def Zone.toJson (z : Zone) : Json :=
  .obj [("id", .str z.id), ("label", .str z.label), ("type", .str z.tier.name)]

/-- **The document of a diagram.** -/
def Spec.toJson (s : Spec) : Json :=
  .obj <| Fields.given [("nodes", some (.arr (s.nodes.map (·.toJson)))),
    ("connections", some (.arr (s.connections.map (·.toJson)))),
    ("zones", s.zones.map fun zones => .arr (zones.map (·.toJson)))]

/-! ## Changes by document -/

/-- A node with some of its fields set anew. -/
def Node.amend (changes : Fields) (n : Node) : Reading Node :=
  Node.ofFields (changes.foldl (fun fields (name, v) => fields.put name v) n.toFields)

/-- The nodes of a list, those with an id amended, up to the first that cannot be. -/
def amendAll (id : String) (changes : Fields) : List Node → Reading (List Node)
  | [] => .ok []
  | n :: rest => do
    let n ← if n.id = id then n.amend changes else .ok n
    return n :: (← amendAll id changes rest)

/-- Every node with an id changed by some fields of its document. -/
def Spec.amendNode (s : Spec) (id : String) (changes : Fields) : Reading Spec := do
  .ofBreach (Spec.check { s with nodes := ← amendAll id changes s.nodes })

end NetSketch
