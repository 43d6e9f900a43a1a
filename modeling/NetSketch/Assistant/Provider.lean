import NetSketch.Json.Basic
import NetSketch.Number.Quantity
import NetSketch.Text.Case

/-!
# Providers of assistants

An assistant is reached through a provider with a key. A setup holds the keys there are; a provider
that it prefers is taken if there is a key for it.

* `Provider`, `Setup`, `Setup.provider?`: the provider that a setup leads to;
* `Mishap`: why a provider gives no text, and `Mishap.message`;
* `Client`, `Setup.client`: a provider with everything that a call needs.
-/

namespace NetSketch.Assistant

open Number

/-- A provider. -/
inductive Provider where
  | openai
  | anthropic
  deriving DecidableEq, Repr

namespace Provider

/-- All providers, the one that is taken first in front. -/
def all : List Provider := [.openai, .anthropic]

/-- The name of a provider in documents. -/
def name : Provider → String
  | openai => "openai"
  | anthropic => "anthropic"

/-- The name of a provider in sentences. -/
def title : Provider → String
  | openai => "OpenAI"
  | anthropic => "Anthropic"

/-- The model that is asked where none is named. -/
def defaultModel : Provider → String
  | openai => "gpt-4o-mini"
  | anthropic => "claude-3-haiku-20240307"

/-- The provider of a name. -/
def ofName? (s : String) : Option Provider := all.find? (·.name == s)

end Provider

/-! ## Setups -/

/-- What is configured; an empty text stands for nothing. -/
structure Setup where
  openaiKey : String := ""
  anthropicKey : String := ""
  preferred : String := ""
  model : String := ""
  deriving DecidableEq, Repr

namespace Setup

variable (s : Setup)

/-- The key for a provider. -/
def key : Provider → String
  | .openai => s.openaiKey
  | .anthropic => s.anthropicKey

/-- Whether there is a key for a provider. -/
def hasKey (p : Provider) : Bool := !(s.key p).isEmpty

/-- **The provider that is used**: the preferred one if there is a key for it, or else the first
one that there is a key for. -/
def provider? : Option Provider :=
  ((Provider.ofName? (Text.lower s.preferred)).filter s.hasKey).or (Provider.all.find? s.hasKey)

end Setup

/-! ## Mishaps -/

/-- Why there is no text. -/
inductive Mishap where
  | noKey
  | unknownProvider (name : String)
  | timedOut (p : Provider) (seconds : Binary64)
  | unreachable (p : Provider) (reason : String)
  | refused (p : Provider) (status : Int) (text : String)
  | notJson (p : Provider)
  | noText (p : Provider)
  /-- A mishap in somebody else's words. -/
  | reported (message : String) (status : Int)
  deriving DecidableEq, Repr

namespace Mishap

/-- What a provider puts its text into. -/
def contentName : Provider → String
  | .openai => "message content"
  | .anthropic => "text content"

/-- A mishap in words. -/
def message : Mishap → String
  | noKey => "No LLM API key configured"
  | unknownProvider name => "Unknown LLM provider '" ++ name ++ "'"
  | timedOut p seconds => p.title ++ " API timeout after " ++ seconds.renderWhole ++ "s"
  | unreachable p reason => p.title ++ " API unreachable: " ++ reason
  | refused p status text => p.title ++ " API Error: " ++ toString status ++ " - " ++ text
  | notJson p => p.title ++ " API returned a non-JSON body"
  | noText p => p.title ++ " API response has no " ++ contentName p
  | reported message _ => message

/-- The status of the answer that a mishap comes from; zero if there was none. -/
def status : Mishap → Int
  | refused _ status _ => status
  | reported _ status => status
  | noKey | unknownProvider _ | timedOut .. | unreachable .. | notJson _ | noText _ => 0

end Mishap

/-! ## Clients -/

/-- A provider with everything that a call needs. -/
structure Client where
  provider : Provider
  key : String
  model : String
  /-- The greatest length of the answer, a number that is passed on as it is. -/
  maxTokens : Json := .int 2048
  /-- The time that a call may take, in thousandths of a second. -/
  timeout : Quantity := .whole 30000
  /-- How freely the answer is chosen, a number that is passed on as it is. -/
  temperature : Json := .float (.ofDecimal false 3 (-1))

namespace Client

/-- A client of a provider; an empty name of a model stands for the usual one. -/
def of (p : Provider) (key model : String) : Client :=
  { provider := p, key, model := if model.isEmpty then p.defaultModel else model }

/-- The time that a call may take, in seconds. -/
def seconds (c : Client) : Binary64 := c.timeout.dividedBy 1000

end Client

namespace Setup

variable (s : Setup)

/-- The client of a provider by its name. A model that is not named is that of the setup. -/
def clientNamed (provider key : String) (model : Option String) : Except Mishap Client :=
  match Provider.ofName? provider with
  | some p => .ok (.of p key ((model.filter (!·.isEmpty)).getD s.model))
  | none => .error (.unknownProvider provider)

/-- **The client of a provider and a key**, both of which have to be there. -/
def client (provider key model : Option String) : Except Mishap Client :=
  match provider.filter (!·.isEmpty), key.filter (!·.isEmpty) with
  | some provider, some key => s.clientNamed provider key model
  | _, _ => .error .noKey

end Setup

end NetSketch.Assistant
