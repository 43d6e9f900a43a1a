import NetSketch.Catalog.Tier
import NetSketch.Text.Case
import NetSketch.Text.Piece

/-!
# Component types

The component types that diagrams are made of. Everything else that is known about a node by its
type alone stands here.

* `Component`, `Component.all`, `Component.name`, `Component.ofName?`;
* `Component.label`, `Component.labelKo`, `Component.category`, `Component.tier`;
* the groups `security`, `auth`, `compute` and `internalOnly`;
* `labelOf`, `labelKoOf`, `categoryOf`, `tierOf`: the same for any type name, known or not.
-/

namespace NetSketch

/-- A component type. -/
inductive Component where
  | firewall
  | waf
  | idsIps
  | vpnGateway
  | nac
  | dlp
  | router
  | switchL2
  | switchL3
  | loadBalancer
  | sdWan
  | dns
  | cdn
  | webServer
  | appServer
  | dbServer
  | container
  | vm
  | kubernetes
  | awsVpc
  | azureVnet
  | gcpNetwork
  | privateCloud
  | sanNas
  | objectStorage
  | backup
  | cache
  | storage
  | ldapAd
  | sso
  | mfa
  | iam
  | user
  | internet
  | zone
  deriving DecidableEq, Repr

/-- What a component is for. -/
inductive Category where
  | security
  | network
  | compute
  | cloud
  | storage
  | auth
  | external
  deriving DecidableEq, Repr

/-- The name of a category. -/
def Category.name : Category → String
  | security => "security"
  | network => "network"
  | compute => "compute"
  | cloud => "cloud"
  | storage => "storage"
  | auth => "auth"
  | external => "external"

namespace Component

/-- All component types in catalog order. -/
def all : List Component :=
  [.firewall, .waf, .idsIps, .vpnGateway, .nac, .dlp, .router, .switchL2, .switchL3,
   .loadBalancer, .sdWan, .dns, .cdn, .webServer, .appServer, .dbServer, .container, .vm,
   .kubernetes, .awsVpc, .azureVnet, .gcpNetwork, .privateCloud, .sanNas, .objectStorage,
   .backup, .cache, .storage, .ldapAd, .sso, .mfa, .iam, .user, .internet, .zone]

/-- The name of a type in documents. -/
def name : Component → String
  | firewall => "firewall"
  | waf => "waf"
  | idsIps => "ids-ips"
  | vpnGateway => "vpn-gateway"
  | nac => "nac"
  | dlp => "dlp"
  | router => "router"
  | switchL2 => "switch-l2"
  | switchL3 => "switch-l3"
  | loadBalancer => "load-balancer"
  | sdWan => "sd-wan"
  | dns => "dns"
  | cdn => "cdn"
  | webServer => "web-server"
  | appServer => "app-server"
  | dbServer => "db-server"
  | container => "container"
  | vm => "vm"
  | kubernetes => "kubernetes"
  | awsVpc => "aws-vpc"
  | azureVnet => "azure-vnet"
  | gcpNetwork => "gcp-network"
  | privateCloud => "private-cloud"
  | sanNas => "san-nas"
  | objectStorage => "object-storage"
  | backup => "backup"
  | cache => "cache"
  | storage => "storage"
  | ldapAd => "ldap-ad"
  | sso => "sso"
  | mfa => "mfa"
  | iam => "iam"
  | user => "user"
  | internet => "internet"
  | zone => "zone"

/-- The type of a name. -/
def ofName? (s : String) : Option Component := named? all name s

/-- The label that a node has unless it is given one. -/
def label : Component → String
  | firewall => "Firewall"
  | waf => "WAF"
  | idsIps => "IDS/IPS"
  | vpnGateway => "VPN Gateway"
  | nac => "NAC"
  | dlp => "DLP"
  | router => "Router"
  | switchL2 => "L2 Switch"
  | switchL3 => "L3 Switch"
  | loadBalancer => "Load Balancer"
  | sdWan => "SD-WAN"
  | dns => "DNS"
  | cdn => "CDN"
  | webServer => "Web Server"
  | appServer => "App Server"
  | dbServer => "DB Server"
  | container => "Container"
  | vm => "Virtual Machine"
  | kubernetes => "Kubernetes"
  | awsVpc => "AWS VPC"
  | azureVnet => "Azure VNet"
  | gcpNetwork => "GCP Network"
  | privateCloud => "Private Cloud"
  | sanNas => "SAN/NAS"
  | objectStorage => "Object Storage"
  | backup => "Backup"
  | cache => "Cache"
  | storage => "Storage"
  | ldapAd => "LDAP/AD"
  | sso => "SSO"
  | mfa => "MFA"
  | iam => "IAM"
  | user => "User"
  | internet => "Internet"
  | zone => "Zone"

/-- The Korean label. -/
def labelKo : Component → String
  | firewall => "방화벽"
  | waf => "웹 방화벽"
  | idsIps => "침입탐지/방지"
  | vpnGateway => "VPN 게이트웨이"
  | nac => "네트워크 접근제어"
  | dlp => "정보유출방지"
  | router => "라우터"
  | switchL2 => "L2 스위치"
  | switchL3 => "L3 스위치"
  | loadBalancer => "로드밸런서"
  | sdWan => "SD-WAN"
  | dns => "DNS"
  | cdn => "CDN"
  | webServer => "웹 서버"
  | appServer => "애플리케이션 서버"
  | dbServer => "데이터베이스 서버"
  | container => "컨테이너"
  | vm => "가상머신"
  | kubernetes => "쿠버네티스"
  | awsVpc => "AWS VPC"
  | azureVnet => "Azure VNet"
  | gcpNetwork => "GCP 네트워크"
  | privateCloud => "프라이빗 클라우드"
  | sanNas => "SAN/NAS 스토리지"
  | objectStorage => "오브젝트 스토리지"
  | backup => "백업"
  | cache => "캐시"
  | storage => "스토리지"
  | ldapAd => "LDAP/AD"
  | sso => "SSO (통합인증)"
  | mfa => "MFA (다중인증)"
  | iam => "IAM (ID/접근관리)"
  | user => "사용자"
  | internet => "인터넷"
  | zone => "영역"

/-- What the component is for. -/
def category : Component → Category
  | firewall | waf | idsIps | vpnGateway | nac | dlp => .security
  | router | switchL2 | switchL3 | loadBalancer | sdWan | dns | cdn => .network
  | webServer | appServer | dbServer | container | vm | kubernetes => .compute
  | awsVpc | azureVnet | gcpNetwork | privateCloud => .cloud
  | sanNas | objectStorage | backup | cache | storage => .storage
  | ldapAd | sso | mfa | iam => .auth
  | user | internet | zone => .external

/-- Where the component stands unless a node says otherwise. -/
def tier : Component → Tier
  | cdn | user | internet => .external
  | firewall | waf | idsIps | vpnGateway | router | loadBalancer | sdWan | dns |
    webServer => .dmz
  | nac | dlp | switchL2 | switchL3 | appServer | container | vm | kubernetes | awsVpc |
    azureVnet | gcpNetwork | privateCloud | ldapAd | sso | mfa | iam | zone => .internal
  | dbServer | sanNas | objectStorage | backup | cache | storage => .data

/-! ## Groups -/

/-- Types that guard a network. -/
def security : List Component :=
  [.firewall, .waf, .idsIps, .vpnGateway, .nac, .dlp]

/-- Types that tell who someone is. -/
def auth : List Component := [.ldapAd, .sso, .mfa, .iam]

/-- Types that compute. -/
def compute : List Component :=
  [.webServer, .appServer, .dbServer, .container, .vm, .kubernetes]

/-- Types that must never be reachable from the internet directly. -/
def internalOnly : List Component :=
  [.dbServer, .ldapAd, .sanNas, .backup, .cache, .appServer]

/-- Whether one name comes before another, character by character. -/
def le (a b : Component) : Bool := !decide (b.name < a.name)

/-- Types sorted by name, each once. -/
def sorted (types : List Component) : List Component := types.eraseDups.mergeSort le

/-! ## Names and labels -/

theorem ofName?_name (c : Component) : ofName? c.name = some c := by
  cases c <;> rfl

theorem ofName?_eq_some {s : String} {c : Component} : ofName? s = some c ↔ c.name = s := by
  constructor
  · intro h
    simpa using List.find?_some h
  · rintro rfl
    exact ofName?_name c

theorem mem_all (c : Component) : c ∈ all := by
  cases c <;> decide

theorem label_ne_empty (c : Component) : c.label ≠ "" := by
  cases c <;> decide

end Component

/-! ## Any type name -/

/-- The label of a type name; an unknown name is split at its hyphens. -/
def labelOf (name : String) : String :=
  match Component.ofName? name with
  | some c => c.label
  | none => String.intercalate " " ((Text.splitAt name '-').map Text.capitalize)

/-- The Korean label of a type name. -/
def labelKoOf (name : String) : String :=
  match Component.ofName? name with
  | some c => c.labelKo
  | none => labelOf name

/-- The category of a type name; unknown ones are external. -/
def categoryOf (name : String) : Category := ((Component.ofName? name).map (·.category)).getD .external

/-- The tier of a type name; unknown ones are internal. -/
def tierOf (name : String) : Tier := ((Component.ofName? name).map (·.tier)).getD .internal

end NetSketch
