import NetSketch.Catalog.Component
import NetSketch.Prompt.Words

/-!
# Component types in prompts

For every component type that can be named there is a pattern of its names.

* `NameRule`, `nameRules`;
* `firstNamed?`, `allNamed`: the types named in a text, in the order of the rules;
* `Mention`, `mentions`: where they are named, in the order of the text.
-/

namespace NetSketch.Prompt

open Text Text.Pattern

/-- How a component type is named. -/
structure NameRule where
  type : Component
  latin : List Pattern
  korean : List Pattern
  labelKo : String

/-- The pattern of all names of a rule. -/
def NameRule.pattern (r : NameRule) : Pattern := firstOf (r.latin.map alone ++ r.korean)

/-- A place that none of some texts precedes. -/
def notBehindAny (texts : List String) (p : Pattern) : Pattern :=
  texts.foldr (fun s p => notBehind s ++ p) p

/-- A word between two others. -/
def apart (a b c : String) : Pattern := a ++ far ++ b ++ far ++ c

/-- The rules in the order in which they are tried. -/
def nameRules : List NameRule :=
  [ -- outside
    ⟨.user, [plural "user", plural "client", "end" ++ gap ++ plural "user"],
      ["사용자", "유저", "클라이언트"], "사용자"⟩,
    ⟨.internet, ["internet", "public network"], ["인터넷", "외부망"], "인터넷"⟩,
    -- security
    ⟨.waf, [plural "waf", "web application firewall"],
      ["웹" ++ gap ++ "방화벽", "웹" ++ gap ++ "애플리케이션" ++ gap ++ "방화벽"], "웹방화벽"⟩,
    ⟨.firewall, [notBehind "application " ++ plural "firewall", "fw"],
      [notBehindAny ["웹", "웹 ", "애플리케이션 ", "애플리케이션"] "방화벽"], "방화벽"⟩,
    ⟨.idsIps, ["ids", "ips", "ids/ips", "intrusion " ++ anyOf ["detection", "prevention"]],
      ["침입" ++ far ++ "탐지", "침입" ++ far ++ "방지"], "IDS/IPS"⟩,
    ⟨.vpnGateway, [plural "vpn", "vpn" ++ one (.of " -") ++ plural "gateway"], ["가상사설망"],
      "VPN 게이트웨이"⟩,
    ⟨.nac, ["nac", "network access control"], [apart "네트워크" "접근" "제어"], "NAC"⟩,
    ⟨.dlp, ["dlp", "data loss prevention"],
      [apart "데이터" "유출" "방지", apart "정보" "유출" "방지"], "DLP"⟩,
    -- network
    ⟨.cdn, [plural "cdn", "content delivery"], [], "CDN"⟩,
    ⟨.loadBalancer, ["load" ++ joint ++ plural "balancer", plural "lb", "alb", "nlb"],
      ["로드" ++ gap ++ "밸런서", "부하" ++ gap ++ "분산"], "로드밸런서"⟩,
    ⟨.router, [plural "router"], ["라우터"], "라우터"⟩,
    ⟨.switchL3,
      ["switch" ++ opt "es" ++ gap ++ opt "-" ++ "l3", "l3" ++ gap ++ opt "-" ++ "switch" ++ opt "es",
        "layer" ++ gap ++ "3 switch"],
      ["l3" ++ gap ++ "스위치", "스위치" ++ far ++ "l3", "레이어" ++ gap ++ "3"], "L3 스위치"⟩,
    ⟨.switchL2,
      [notBehindAny ["l3 ", "l3-", "l3"]
        ("switch" ++ opt "es" ++ notAhead (gap ++ opt "-" ++ "l3"))],
      [notBehindAny ["l3 ", "l3"] ("스위치" ++ notAhead (far ++ "l3"))], "L2 스위치"⟩,
    ⟨.sdWan, ["sd" ++ opt "-" ++ "wan", "software defined wan"], [], "SD-WAN"⟩,
    ⟨.dns, ["dns", "domain name"], ["도메인" ++ far ++ "네임"], "DNS"⟩,
    -- compute
    ⟨.webServer, ["web" ++ joint ++ plural "server", "nginx", "apache"],
      ["웹" ++ gap ++ "서버"], "웹서버"⟩,
    ⟨.appServer, ["app" ++ joint ++ plural "server", "application " ++ plural "server", "tomcat"],
      ["앱" ++ gap ++ "서버", "애플리케이션" ++ gap ++ "서버",
        notAfter [⟨[.range 'a' 'z'], false⟩] ++ "was" ++
          ahead (gap ++ one ⟨[.range '가' '힣'], false⟩)],
      "앱서버"⟩,
    ⟨.dbServer,
      [plural "db", plural "database", "db" ++ joint ++ plural "server", "mysql",
        "postgres" ++ opt "ql", "oracle", "mongodb"],
      ["데이터베이스", "디비"], "데이터베이스"⟩,
    ⟨.kubernetes, ["kubernetes", "k8s"], ["쿠버네티스"], "쿠버네티스"⟩,
    ⟨.container, [plural "container", "docker"], ["컨테이너", "도커"], "컨테이너"⟩,
    ⟨.vm, [plural "vm", "virtual " ++ plural "machine"],
      ["가상" ++ gap ++ "머신", "가상" ++ gap ++ "서버"], "가상머신"⟩,
    -- cloud
    ⟨.awsVpc, ["aws vpc", "vpc"], [], "AWS VPC"⟩,
    ⟨.azureVnet, ["azure vnet", "vnet"], [], "Azure VNet"⟩,
    ⟨.gcpNetwork, ["gcp", "google cloud"], [], "GCP 네트워크"⟩,
    ⟨.privateCloud, ["private cloud"],
      ["사설" ++ gap ++ "클라우드", "프라이빗" ++ gap ++ "클라우드"], "프라이빗 클라우드"⟩,
    -- storage
    ⟨.sanNas, ["san", "nas", "san/nas", "network storage"], ["네트워크" ++ gap ++ "스토리지"],
      "SAN/NAS"⟩,
    ⟨.objectStorage, ["object" ++ joint ++ "storage", "s3"], ["오브젝트" ++ gap ++ "스토리지"],
      "오브젝트 스토리지"⟩,
    ⟨.backup, [plural "backup"], ["백업"], "백업"⟩,
    ⟨.cache, ["cache", "caching", "redis", "memcached"], ["캐시"], "캐시"⟩,
    ⟨.storage, [notBehindAny ["object ", "object-", "object", "network "] "storage"],
      [notBehindAny ["오브젝트 ", "오브젝트", "네트워크 ", "네트워크"] "스토리지", "저장소"],
      "스토리지"⟩,
    -- authentication
    ⟨.ldapAd, ["ldap", "ad", "active directory"], ["액티브" ++ gap ++ "디렉토리"], "LDAP/AD"⟩,
    ⟨.sso, ["sso", "single sign" ++ one (.of "- ") ++ "on"],
      ["싱글" ++ gap ++ "사인온", "통합" ++ gap ++ "인증"], "SSO"⟩,
    ⟨.mfa, ["mfa", "2fa", "multi" ++ one (.of "- ") ++ "factor"],
      ["다중" ++ gap ++ "인증", "2단계" ++ gap ++ "인증"], "MFA"⟩,
    ⟨.iam, ["iam", "identity " ++ opt "and " ++ "access"], [], "IAM"⟩ ]

/-- Whether a text names the type of a rule. -/
def NameRule.holds (r : NameRule) (s : String) : Bool := r.pattern.occurs true s

/-- The first rule whose type a text names. -/
def firstNamed? (s : String) : Option NameRule := nameRules.find? (·.holds s)

/-- The types that a text names, in the order of the rules. -/
def allNamed (s : String) : List Component := (nameRules.filter (·.holds s)).map (·.type)

/-- The first place at which a type is named. -/
structure Mention where
  type : Component
  start : Nat
  finish : Nat
  deriving DecidableEq, Repr

/-- Whether a mention is listed before another: by start, then the longer one first. -/
def Mention.le (a b : Mention) : Bool :=
  a.start < b.start || (a.start == b.start && b.finish ≤ a.finish)

/-- **The first mentions of all types that a text names**, in the order of the text. -/
def mentions (s : String) : List Mention :=
  (nameRules.filterMap fun r =>
    (r.pattern.find true s).map fun m => ⟨r.type, m.start, m.finish⟩).mergeSort Mention.le

end NetSketch.Prompt
