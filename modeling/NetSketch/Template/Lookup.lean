import NetSketch.Prompt.Words
import NetSketch.Template.Catalog
import NetSketch.Text.Piece

/-!
# Finding templates

* `Template.forPrompt?`: by keyword; `Template.byIdIn?`: by an id that a prompt holds;
  `Template.get?`: by id;
* `Fallback`: the few plain diagrams of which every prompt gets one.
-/

namespace NetSketch

open Text Prompt

namespace Template

/-- The pattern of a keyword. One of ASCII characters only does not count inside another word. -/
def keyword (s : String) : Pattern :=
  let p : Pattern := .text (lower s)
  if s.toList.all (·.toNat < 128) then alone p else p

/-- The first template with a keyword in a prompt. -/
def forPrompt? (prompt : String) : Option Template :=
  let text := lower prompt
  catalog.find? fun t => t.keywords.any fun k => (keyword k).occurs false text

/-- The first template whose id is in a prompt. -/
def byIdIn? (prompt : String) : Option Template :=
  let text := lower prompt
  catalog.find? fun t => (keyword t.id).occurs false text

/-- The template of an id. -/
def get? (id : String) : Option Template := catalog.find? (·.id == id)

end Template

/-! ## Fallbacks -/

/-- A plain diagram for prompts that nothing else fits. -/
inductive Fallback where
  | threeTier
  | webSecure
  | desktop
  | plain
  deriving DecidableEq, Repr

namespace Fallback

open Template (node)

/-- The id of a fallback. -/
def id : Fallback → String
  | threeTier => "3tier"
  | webSecure => "web-secure"
  | desktop => "vdi"
  | plain => "default"

/-- A connection without a flow. -/
def bare (source target : String) : Connection := { source, target }

/-- A diagram without zones. -/
def drawn (nodes : List Node) (connections : List Connection) : Spec := { nodes, connections }

/-- The diagram of a fallback. -/
def spec : Fallback → Spec
  | threeTier => drawn
    [ node "user" .user "User",
      node "lb" .loadBalancer "Load Balancer" "dmz",
      node "web" .webServer "Web Server" "internal",
      node "app" .appServer "App Server" "internal",
      node "db" .dbServer "DB Server" "data" ]
    [ bare "user" "lb", bare "lb" "web", bare "web" "app", bare "app" "db" ]
  | webSecure => drawn
    [ node "user" .user "User",
      node "fw" .firewall "Firewall" "dmz",
      node "waf" .waf "WAF" "dmz",
      node "lb" .loadBalancer "Load Balancer" "dmz",
      node "web" .webServer "Web Server" "internal",
      node "db" .dbServer "DB Server" "data" ]
    [ bare "user" "fw", bare "fw" "waf", bare "waf" "lb", bare "lb" "web", bare "web" "db" ]
  | desktop => drawn
    [ node "user" .user "User",
      node "vpn" .vpnGateway "VPN Gateway" "dmz",
      node "fw" .firewall "Firewall" "internal",
      node "vdi" .vm "VDI Server" "internal",
      node "ad" .ldapAd "Active Directory" "internal",
      node "storage" .storage "Storage" "data" ]
    [ bare "user" "vpn", bare "vpn" "fw", bare "fw" "vdi", bare "vdi" "ad", bare "vdi" "storage" ]
  | plain => drawn
    [ node "user" .user "User",
      node "fw" .firewall "Firewall" "dmz",
      node "server" .webServer "Server" "internal" ]
    [ bare "user" "fw", bare "fw" "server" ]

/-- The words that ask for a fallback, in the order in which they are tried. -/
def rules : List (List String × Fallback) :=
  [ (["vdi", "가상데스크톱"], .desktop),
    (["3티어", "3-tier", "three tier"], .threeTier),
    (["waf", "보안", "secure"], .webSecure) ]

/-- **The fallback of a prompt.** Every prompt has one. -/
def forPrompt (prompt : String) : Fallback :=
  let text := lower prompt
  ((rules.find? fun (words, _) => words.any (holds text)).map (·.2)).getD .plain

end Fallback

end NetSketch
