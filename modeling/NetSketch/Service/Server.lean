import NetSketch.Knowledge.Risk
import NetSketch.Service.Body
import NetSketch.Service.RateLimit
import NetSketch.Service.Route
import NetSketch.Session.Turn
import NetSketch.Template.Catalog

/-!
# The server

Requests are answered one after the other. What lasts from one to the next is the rate limiter, the
stored diagrams and the log of the prompts that were followed.

* `Request`, `Answer`, `Response`, `Usage`, `Server`;
* `World`: what the server works with;
* `Server.respond`: the answer to a request, and the server behind it.
-/

namespace NetSketch.Service

open Assistant Number

/-! ## Requests and answers -/

/-- A request. -/
structure Request where
  method : String
  path : String
  headers : List (String × String) := []
  body : Option Json := none
  time : Quantity := .whole 0

/-- Who makes a request. -/
def Request.caller (r : Request) : String :=
  callerOf ((r.headers.find? fun (name, _) =>
    name.toList.map Char.toLower == "x-user-id".toList).map (·.2))

/-- An answer. -/
inductive Answer where
  | done (body : Json)
  | noPath
  | noMethod
  | tooMany
  | noDiagram (id : String)
  | notOwner
  | invalid (issues : List Issue)
  | broken

namespace Answer

/-- The status of an answer. -/
def status : Answer → Nat
  | done _ => 200
  | notOwner => 403
  | noPath | noDiagram _ => 404
  | noMethod => 405
  | invalid _ => 422
  | tooMany => 429
  | broken => 500

/-- A body that says why there is no other. -/
def detail (s : String) : Json := .obj [("detail", .str s)]

/-- The body of an answer. -/
def body : Answer → Json
  | done body => body
  | noPath => detail "Not Found"
  | noMethod => detail "Method Not Allowed"
  | tooMany => detail "Too many requests"
  | noDiagram id => detail ("Diagram '" ++ id ++ "' not found")
  | notOwner => detail "Not the owner of this diagram"
  | invalid issues => .arr (issues.map (·.entry))
  | broken => .str "Internal Server Error"

end Answer

/-- What is sent to the caller. -/
structure Response where
  status : Nat
  body : Json

/-- Whether an answer can be sent: only finite numbers can be, also where complaints quote the body
of the request. -/
def Request.sendable (r : Request) : Answer → Bool
  | .done body => body.isFinite
  | .invalid issues => issues.all fun i => (i.quoted (r.body.getD .null)).isFinite
  | _ => true

/-- What is sent of an answer; to a request for the head alone, no body. -/
def Request.response (r : Request) (a : Answer) : Response :=
  let a := if r.sendable a then a else .broken
  ⟨a.status, if capitals r.method = "HEAD" then .str "" else a.body⟩

/-! ## The server -/

/-- A prompt that was followed. -/
structure Usage where
  caller : String
  endpoint : String
  prompt : String
  command : Command
  success : Bool
  usedAssistant : Bool
  reason : Option Reason
  deriving DecidableEq, Repr

/-- What lasts between requests. -/
structure Server where
  limiter : RateLimiter
  shelf : Shelf := []
  usage : List Usage := []

/-- What the server works with: a store, the setup of its assistant, and the network. -/
structure World where
  store : Store
  setup : Setup
  network : Call → Reply

namespace Server

/-- A server whose callers may make so many requests a minute. -/
def withLimit (limit : Quantity) : Server := { limiter := { limit, window := .whole 60 } }

/-- The number of prompts that were followed for a caller, or for all of them. -/
def usageCount (s : Server) : Option String → Nat
  | some caller => s.usage.countP (·.caller == caller)
  | none => s.usage.length

variable (w : World) (s : Server)

/-- What is answered to a body that is read, or to one that is not. -/
def onBody {α : Type} (body : Reading α) (act : α → Answer × Server) : Answer × Server :=
  match body with
  | .ok a => act a
  | .error (.issues list) => (.invalid list, s)
  | .error (.fault _) => (.broken, s)

/-- A turn for the prompt of a request, with the server that has logged it. -/
def turn {α : Type} (caller endpoint : String) (b : PromptBody α) (spec : Option Spec) :
    Reading (Turn × Server) := do
  let settings := { Settings.ofSetup w.setup with
    useAssistant := b.useAssistant, guidance := b.guidance }
  let turn ← takeTurn w.store settings (settings.partner? w.setup w.network none) b.prompt spec
  let entry := { caller, endpoint, prompt := b.prompt, command := turn.outcome.command
                 success := turn.outcome.success, usedAssistant := turn.usedAssistant
                 reason := turn.reason }
  return (turn, { s with usage := s.usage ++ [entry] })

/-- The fields that tell of a turn. -/
def turnFields (t : Turn) : Fields := t.toFields ++ [("knowledgeSection", .str t.guidance)]

/-- A prompt, with or without a diagram. -/
def parse (caller : String) (b : PromptBody (Option Spec)) : Answer × Server :=
  match s.turn w caller "parse" b b.spec with
  | .ok (t, s) => (.done (.obj (turnFields t)), s)
  | .error _ => (.broken, s)

/-- The risk of a turn that has changed a diagram. -/
def riskFields (before : Spec) (t : Turn) : Except Fault Fields :=
  match t.outcome with
  | .done { spec := some after, .. } =>
    (w.store.risk before after).map fun r => [("risk", r.toJson)]
  | _ => .ok []

/-- A prompt to change a diagram. -/
def modify (caller : String) (b : PromptBody Spec) : Answer × Server :=
  match s.turn w caller "modify" b (some b.spec) with
  | .ok (t, s) =>
    match riskFields w b.spec t with
    | .ok risk => (.done (.obj (turnFields t ++ risk)), s)
    | .error _ => (.broken, s)
  | .error _ => (.broken, s)

/-- What is known about a diagram. -/
def enriched (spec : Spec) : Except Fault Json := do
  let view := View.ofSpec? (some spec)
  let g ← Guidance.about w.store (some spec)
  return .obj [("context", .obj view.toFields), ("enriched", g.toJson),
    ("promptSection", .str g.block),
    ("patterns", .arr ((← w.store.blueprintsIn view).map (·.id)))]

/-- The answer that holds a document. -/
def ofDocument : Except Fault Json → Answer
  | .ok v => .done v
  | .error _ => .broken

/-- A diagram that is asked for. -/
def readDiagram (id : String) : Answer :=
  match s.shelf.get? id with
  | some d => .done d.toJson
  | none => .noDiagram id

/-- A diagram that is to be stored; only its owner may store it anew. -/
def writeDiagram (caller id : String) (u : Update) : Answer × Server :=
  if s.shelf.mayStore caller id then
    let (d, shelf) := s.shelf.save caller id u
    (.done d.toJson, { s with shelf })
  else (.notOwner, s)

/-- The answer of a route that is not limited. -/
def look : Route → Answer
  | .health => .done (.obj [("status", .str "ok"), ("version", .str "0.5.0")])
  | .stats => .done (.obj w.store.stats)
  | .templates => .done (.arr (Template.catalog.map (·.summary)))
  | .diagram id => s.readDiagram id
  | .parse | .modify | .risk | .enrich => .noMethod

/-- The answer of a limited route to a request that is admitted. -/
def act (caller : String) (body : Option Json) : Route → Answer × Server
  | .parse => s.onBody (PromptBody.readLoose body) (s.parse w caller)
  | .modify => s.onBody (PromptBody.read body) (s.modify w caller)
  | .risk => s.onBody (readChange body) fun (before, after) =>
    (ofDocument ((w.store.risk before after).map (·.toJson)), s)
  | .enrich => s.onBody (readSpec body) fun spec => (ofDocument (enriched w spec), s)
  | .diagram id => s.onBody (Update.read body) (s.writeDiagram caller id)
  | .health | .stats | .templates => (.noMethod, s)

/-- **The answer to a request**, and the server behind it. To look at something is not limited; all
else is, before its body is read. -/
def respond (r : Request) : Answer × Server :=
  match Route.ofAddress? r.path, Method.ofName? r.method with
  | none, _ => (.noPath, s)
  | some _, none => (.noMethod, s)
  | some route, some method =>
    if !route.methods.contains method then (.noMethod, s)
    else if method = .get then (s.look w route, s)
    else
      let (allowed, limiter) := s.limiter.allow r.caller r.time
      let s := { s with limiter }
      if allowed then s.act w r.caller r.body route else (.tooMany, s)

end Server

/-- What is sent to requests, one after the other, and the server behind them. -/
def Server.respondAll (w : World) : Server → List Request → List Response × Server
  | s, [] => ([], s)
  | s, r :: rest =>
    let (answer, s) := s.respond w r
    let (responses, s) := respondAll w s rest
    (r.response answer :: responses, s)

end NetSketch.Service
