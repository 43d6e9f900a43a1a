/-!
# Tiers and flows

* `Tier`: how far inside a network something stands, from the outside to the data;
* `FlowKind`: what runs along a connection;
* `named?`: the member of an enumeration that has a name.
-/

namespace NetSketch

/-- The first member of a list that has the name. -/
def named? {α : Type} (all : List α) (name : α → String) (s : String) : Option α :=
  all.find? fun a => name a == s

/-- A network tier. -/
inductive Tier where
  | external
  | dmz
  | internal
  | data
  deriving DecidableEq, Repr

namespace Tier

/-- All tiers from the outside inwards. -/
def all : List Tier := [.external, .dmz, .internal, .data]

/-- The name of a tier. -/
def name : Tier → String
  | external => "external"
  | dmz => "dmz"
  | internal => "internal"
  | data => "data"

/-- The tier of a name. -/
def ofName? (s : String) : Option Tier := named? all name s

/-- How far inside a tier is. -/
def index : Tier → Nat
  | external => 0
  | dmz => 1
  | internal => 2
  | data => 3

theorem named?_name (t : Tier) : named? all name t.name = some t := by
  cases t <;> rfl

end Tier

/-- What runs along a connection. -/
inductive FlowKind where
  | request
  | response
  | sync
  | async
  | blocked
  | encrypted
  deriving DecidableEq, Repr

namespace FlowKind

/-- All kinds of flow. -/
def all : List FlowKind := [.request, .response, .sync, .async, .blocked, .encrypted]

/-- The name of a kind. -/
def name : FlowKind → String
  | request => "request"
  | response => "response"
  | sync => "sync"
  | async => "async"
  | blocked => "blocked"
  | encrypted => "encrypted"

/-- The kind of a name. -/
def ofName? (s : String) : Option FlowKind := named? all name s

theorem named?_name (k : FlowKind) : named? all name k.name = some k := by
  cases k <;> rfl

end FlowKind

end NetSketch
