import NetSketch.Assistant.Provider
import NetSketch.Json.Embedded

/-!
# Exchanges with assistants

A question is sent to a provider as a call and comes back as a reply, from which the text is taken.
What does the sending is a parameter, and an assistant may also be one that needs no calls.

* `Question`; `Call`, `Client.call`: a question on its way;
* `Reply`, `Client.textOf`: the text of a reply, or the `Stop` that tells why there is none;
* `unfenced`: a text without the fences around it;
* `Partner`: someone to ask, with `Partner.answer` and `Partner.calls`.
-/

namespace NetSketch.Assistant

open Number Text

/-! ## Questions and calls -/

/-- A message in a conversation, a document that is passed on as it is. -/
structure Message where
  document : Json

/-- The words of somebody with a role in the conversation. -/
def Message.of (role content : String) : Message :=
  ⟨.obj [("role", .str role), ("content", .str content)]⟩

/-- What an assistant is asked. -/
structure Question where
  system : String
  messages : List Message

/-- A call over the network. -/
structure Call where
  url : String
  headers : List (String × String)
  body : Json
  /-- The time that the call may take, in seconds. -/
  timeout : Binary64

namespace Client

variable (c : Client)

/-- The call to OpenAI, where the system prompt is the first message. -/
def openaiCall (q : Question) : Call :=
  let system := if q.system.isEmpty then [] else [Message.of "system" q.system]
  { url := "https://api.openai.com/v1/chat/completions"
    headers := [("Authorization", "Bearer " ++ c.key), ("Content-Type", "application/json")]
    body := .obj [("model", .str c.model),
      ("messages", .arr ((system ++ q.messages).map (·.document))),
      ("max_tokens", c.maxTokens), ("temperature", c.temperature)]
    timeout := c.seconds }

/-- The call to Anthropic, where the system prompt is a field of its own. -/
def anthropicCall (q : Question) : Call :=
  { url := "https://api.anthropic.com/v1/messages"
    headers := [("x-api-key", c.key), ("anthropic-version", "2023-06-01"),
      ("content-type", "application/json")]
    body := .obj <| [("model", .str c.model), ("max_tokens", c.maxTokens),
      ("messages", .arr (q.messages.map (·.document)))] ++
      if q.system.isEmpty then [] else [("system", .str q.system)]
    timeout := c.seconds }

/-- **A question on its way to a provider.** -/
def call (q : Question) : Call :=
  match c.provider with
  | .openai => c.openaiCall q
  | .anthropic => c.anthropicCall q

end Client

/-! ## Replies -/

/-- What comes of a call. -/
inductive Reply where
  | timedOut
  | unreachable (reason : String)
  | answered (status : Int) (text : String)
  deriving DecidableEq, Repr

/-- Why there is no text: the provider failed, or its text was no text. -/
inductive Stop where
  | mishap (f : Mishap)
  | fault (f : Fault)
  deriving DecidableEq, Repr

/-- The field of an object. -/
def field? (name : String) : Json → Option Json
  | .obj fields => Fields.get? fields name
  | _ => none

/-- The first item of a list. -/
def first? : Json → Option Json
  | .arr (v :: _) => some v
  | _ => none

/-- The place of the text in the answer of a provider. -/
def Provider.content? : Provider → Json → Option Json
  | .openai, v =>
    (((field? "choices" v).bind first?).bind (field? "message")).bind (field? "content")
  | .anthropic, v => ((field? "content" v).bind first?).bind (field? "text")

/-- The characters behind an opening fence with its tag and blanks. -/
def withoutOpening (cs : List Char) : List Char :=
  if Json.fence.isPrefixOf cs then
    let rest := cs.drop 3
    let tag := "json".toList
    (if tag.isPrefixOf rest then rest.drop tag.length else rest).dropWhile isBlank
  else cs

/-- The characters before a closing fence and the blanks in front of it. -/
def withoutClosing (cs : List Char) : List Char :=
  let back := cs.reverse
  if Json.fence.isPrefixOf back then ((back.drop 3).dropWhile isBlank).reverse else cs

/-- A text without the fences around it. -/
def unfenced (s : String) : String :=
  .ofList (withoutClosing (trimChars (withoutOpening (trimChars s.toList))))

/-- The text that a provider puts into its answer; with OpenAI it may be absent. -/
def Provider.text (p : Provider) (content : Json) : Except Fault String :=
  match p, content with
  | _, .str s => .ok (unfenced s)
  | .openai, v => if v.truthy then .error (.noMember v.kind "strip") else .ok ""
  | .anthropic, v => .error (.noMember v.kind "strip")

/-- The text in the body of an answer. -/
def Provider.textIn (p : Provider) (body : String) : Except Stop String :=
  match Json.read body with
  | .error .tooDeep => .error (.fault .tooDeep)
  | .error _ => .error (.mishap (.notJson p))
  | .ok v =>
    match p.content? v with
    | none => .error (.mishap (.noText p))
    | some content => (p.text content).mapError .fault

/-- Whether a status is one of those for failures of the caller or of the provider. -/
def isFailure (status : Int) : Bool := 400 ≤ status && status < 600

/-- **The text of a reply.** -/
def Client.textOf (c : Client) : Reply → Except Stop String
  | .timedOut => .error (.mishap (.timedOut c.provider c.seconds))
  | .unreachable reason => .error (.mishap (.unreachable c.provider reason))
  | .answered status text =>
    if isFailure status then .error (.mishap (.refused c.provider status text))
    else c.provider.textIn text

/-! ## Partners -/

/-- Someone to ask: a client on a network, or anything that answers. -/
inductive Partner where
  | client (c : Client) (network : Call → Reply)
  | direct (answer : Question → Except Mishap String)

namespace Partner

/-- What a partner answers. -/
def answer : Partner → Question → Except Stop String
  | client c network, q => c.textOf (network (c.call q))
  | direct answer, q => (answer q).mapError .mishap

/-- The calls that a question takes. -/
def calls : Partner → Question → List Call
  | client c _, q => [c.call q]
  | direct _, _ => []

end Partner

end NetSketch.Assistant
