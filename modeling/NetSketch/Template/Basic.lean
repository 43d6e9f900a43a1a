import NetSketch.Diagram.Basic
import NetSketch.Json.Basic

/-!
# Templates

* `Template`: a named diagram that is found by keywords;
* `Template.node`, `Template.edge`: its parts;
* `Template.summary`: a template in a listing.
-/

namespace NetSketch

/-- A named diagram. -/
structure Template where
  id : String
  name : String
  description : String
  keywords : List String
  spec : Spec

namespace Template

/-- A node, perhaps in a zone. -/
def node (id : String) (type : Component) (label : String) (zone : Option String := none) : Node :=
  { id, type, label, zone }

/-- A connection with its flow and perhaps a label. -/
def edge (source target : String) (flow : FlowKind := .request) (label : Option String := none) :
    Connection :=
  { source, target, flow := some flow, label }

/-- A template in a listing. -/
def summary (t : Template) : Json :=
  .obj [("id", .str t.id), ("name", .str t.name), ("description", .str t.description)]

end Template

end NetSketch
