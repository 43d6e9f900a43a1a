import NetSketch.Template.Basic

/-!
# The template catalog

* `Template.catalog`: the templates in the order in which their keywords are tried.
-/

namespace NetSketch.Template

/-- 3티어 웹 아키텍처. -/
def threeTier : Template where
  id := "3tier"
  name := "3티어 웹 아키텍처"
  description := "CDN, 방화벽, WAF, 로드밸런서 뒤에 웹/앱 서버를 이중화하고 DB를 분리한 구성입니다."
  keywords := ["3티어", "3-tier", "3tier", "웹 아키텍처", "web architecture", "3계층"]
  spec := .mk
    [ node "user" .user "User",
      node "cdn" .cdn "CDN" "external",
      node "firewall" .firewall "Firewall" "dmz",
      node "waf" .waf "WAF" "dmz",
      node "lb" .loadBalancer "Load Balancer" "dmz",
      node "web1" .webServer "Web Server 1" "web",
      node "web2" .webServer "Web Server 2" "web",
      node "app1" .appServer "App Server 1" "app",
      node "app2" .appServer "App Server 2" "app",
      node "db" .dbServer "Database" "db" ]
    [ edge "user" "cdn", edge "cdn" "firewall", edge "firewall" "waf", edge "waf" "lb",
      edge "lb" "web1", edge "lb" "web2", edge "web1" "app1", edge "web2" "app2",
      edge "app1" "db", edge "app2" "db" ]
    (some [ ⟨"external", "External", .external⟩, ⟨"dmz", "DMZ", .dmz⟩,
            ⟨"web", "Web Tier", .internal⟩, ⟨"app", "App Tier", .internal⟩,
            ⟨"db", "DB Tier", .data⟩ ])

/-- VPN 원격 접속. -/
def vpn : Template where
  id := "vpn"
  name := "VPN 원격 접속"
  description := "원격 사용자가 VPN 게이트웨이와 내부 방화벽을 거쳐 내부 서버에 접근하는 구성입니다."
  keywords := ["vpn", "내부망", "internal network", "원격 접속", "remote access", "사내망"]
  spec := .mk
    [ node "user" .user "Remote User",
      node "internet" .internet "Internet" "external",
      node "vpn" .vpnGateway "VPN Gateway" "dmz",
      node "firewall" .firewall "Internal Firewall" "dmz",
      node "router" .router "Core Router" "internal",
      node "server1" .appServer "Internal Server 1" "internal",
      node "server2" .appServer "Internal Server 2" "internal",
      node "ldap" .ldapAd "LDAP/AD" "internal" ]
    [ edge "user" "internet" .encrypted, edge "internet" "vpn" .encrypted, edge "vpn" "firewall",
      edge "firewall" "router", edge "router" "server1", edge "router" "server2",
      edge "vpn" "ldap" .request "Auth" ]
    (some [ ⟨"external", "External", .external⟩, ⟨"dmz", "DMZ", .dmz⟩,
            ⟨"internal", "Internal Network", .internal⟩ ])

/-- 쿠버네티스 클러스터. -/
def k8s : Template where
  id := "k8s"
  name := "쿠버네티스 클러스터"
  description := "인그레스를 통해 서비스와 파드로 요청이 전달되고 영구 볼륨과 DB를 사용하는 구성입니다."
  keywords := ["kubernetes", "k8s", "쿠버네티스", "container", "컨테이너", "pod"]
  spec := .mk
    [ node "user" .user "User",
      node "ingress" .loadBalancer "Ingress Controller" "k8s",
      node "svc" .kubernetes "Service" "k8s",
      node "pod1" .container "Pod 1" "k8s",
      node "pod2" .container "Pod 2" "k8s",
      node "pod3" .container "Pod 3" "k8s",
      node "pv" .storage "Persistent Volume" "storage",
      node "db" .dbServer "Database" "storage" ]
    [ edge "user" "ingress", edge "ingress" "svc", edge "svc" "pod1", edge "svc" "pod2",
      edge "svc" "pod3", edge "pod1" "pv" .sync, edge "pod2" "db" ]
    (some [ ⟨"k8s", "Kubernetes Cluster", .internal⟩, ⟨"storage", "Storage Layer", .data⟩ ])

/-- WAF + 로드밸런서. -/
def simpleWaf : Template where
  id := "simple-waf"
  name := "WAF + 로드밸런서"
  description := "WAF와 로드밸런서 뒤에 웹 서버 두 대를 둔 기본 웹 서비스 구성입니다."
  keywords := ["waf", "로드밸런서", "load balancer", "웹서버", "web server"]
  spec := .mk
    [ node "user" .user "User",
      node "waf" .waf "WAF" "dmz",
      node "lb" .loadBalancer "Load Balancer" "dmz",
      node "web1" .webServer "Web Server 1" "web",
      node "web2" .webServer "Web Server 2" "web" ]
    [ edge "user" "waf", edge "waf" "lb", edge "lb" "web1", edge "lb" "web2" ]
    (some [ ⟨"dmz", "DMZ", .dmz⟩, ⟨"web", "Web Tier", .internal⟩ ])

/-- 하이브리드 클라우드. -/
def hybrid : Template where
  id := "hybrid"
  name := "하이브리드 클라우드"
  description := "클라우드 워크로드가 VPN으로 온프레미스 DB와 연결되는 구성입니다."
  keywords := ["hybrid", "하이브리드", "cloud", "클라우드", "aws", "azure", "on-premise"]
  spec := .mk
    [ node "user" .user "User",
      node "cdn" .cdn "CDN",
      node "aws" .awsVpc "AWS VPC" "cloud",
      node "alb" .loadBalancer "ALB" "cloud",
      node "ec2" .vm "EC2 Instance" "cloud",
      node "vpn" .vpnGateway "VPN Gateway" "hybrid",
      node "onprem-fw" .firewall "On-Premise FW" "onprem",
      node "onprem-db" .dbServer "On-Premise DB" "onprem" ]
    [ edge "user" "cdn", edge "cdn" "alb", edge "alb" "ec2", edge "ec2" "vpn" .encrypted,
      edge "vpn" "onprem-fw" .encrypted, edge "onprem-fw" "onprem-db" ]
    (some [ ⟨"cloud", "AWS Cloud", .external⟩, ⟨"hybrid", "Hybrid Connection", .dmz⟩,
            ⟨"onprem", "On-Premise", .internal⟩ ])

/-- 마이크로서비스. -/
def microservices : Template where
  id := "microservices"
  name := "마이크로서비스"
  description := "API 게이트웨이 뒤에 서비스별 컨테이너와 전용 DB, 메시지 큐를 둔 구성입니다."
  keywords := ["마이크로서비스", "microservice", "msa", "api gateway", "서비스 메시"]
  spec := .mk
    [ node "user" .user "User",
      node "api-gw" .loadBalancer "API Gateway" "gateway",
      node "auth-svc" .container "Auth Service" "services",
      node "user-svc" .container "User Service" "services",
      node "order-svc" .container "Order Service" "services",
      node "payment-svc" .container "Payment Service" "services",
      node "msg-queue" .cache "Message Queue" "infra",
      node "user-db" .dbServer "User DB" "data",
      node "order-db" .dbServer "Order DB" "data" ]
    [ edge "user" "api-gw", edge "api-gw" "auth-svc", edge "api-gw" "user-svc",
      edge "api-gw" "order-svc", edge "order-svc" "msg-queue" .sync,
      edge "msg-queue" "payment-svc" .sync, edge "user-svc" "user-db", edge "order-svc" "order-db" ]
    (some [ ⟨"gateway", "Gateway", .dmz⟩, ⟨"services", "Services", .internal⟩,
            ⟨"infra", "Infrastructure", .internal⟩, ⟨"data", "Data Layer", .data⟩ ])

/-- 제로 트러스트. -/
def zeroTrust : Template where
  id := "zero-trust"
  name := "제로 트러스트"
  description := "IdP와 MFA로 인증한 뒤 ZTNA 게이트웨이와 정책 엔진을 거쳐 애플리케이션에 접근하는 구성입니다."
  keywords := ["제로트러스트", "zero trust", "ztna", "제로 트러스트", "identity"]
  spec := .mk
    [ node "user" .user "User",
      node "idp" .sso "Identity Provider" "identity",
      node "mfa" .mfa "MFA" "identity",
      node "ztna" .vpnGateway "ZTNA Gateway" "access",
      node "policy" .firewall "Policy Engine" "access",
      node "dlp" .dlp "DLP" "security",
      node "app" .appServer "Application" "workload",
      node "data" .dbServer "Data Store" "workload" ]
    [ edge "user" "idp" .request "1. Authenticate", edge "idp" "mfa" .request "2. MFA",
      edge "mfa" "ztna" .encrypted "3. Verify", edge "ztna" "policy" .request "4. Policy Check",
      edge "policy" "dlp" .request "5. DLP Scan", edge "dlp" "app" .encrypted "6. Access",
      edge "app" "data" .encrypted ]
    (some [ ⟨"identity", "Identity", .external⟩, ⟨"access", "Access Control", .dmz⟩,
            ⟨"security", "Security", .dmz⟩, ⟨"workload", "Workload", .internal⟩ ])

/-- 재해복구(DR). -/
def dr : Template where
  id := "dr"
  name := "재해복구(DR)"
  description := "글로벌 DNS로 주 사이트와 DR 사이트를 전환하고 DB를 복제하는 구성입니다."
  keywords := ["dr", "disaster recovery", "재해복구", "이중화", "failover", "ha", "high availability"]
  spec := .mk
    [ node "user" .user "User",
      node "dns" .dns "Global DNS" "global",
      node "lb-primary" .loadBalancer "Primary LB" "primary",
      node "app-primary" .appServer "Primary App" "primary",
      node "db-primary" .dbServer "Primary DB" "primary",
      node "lb-dr" .loadBalancer "DR LB" "dr",
      node "app-dr" .appServer "DR App" "dr",
      node "db-dr" .dbServer "DR DB" "dr" ]
    [ edge "user" "dns", edge "dns" "lb-primary" .request "Active",
      edge "dns" "lb-dr" .blocked "Standby", edge "lb-primary" "app-primary",
      edge "app-primary" "db-primary", edge "lb-dr" "app-dr", edge "app-dr" "db-dr",
      edge "db-primary" "db-dr" .sync "Replication" ]
    (some [ ⟨"global", "Global", .external⟩, ⟨"primary", "Primary Site", .internal⟩,
            ⟨"dr", "DR Site", .internal⟩ ])

/-- API 백엔드. -/
def api : Template where
  id := "api"
  name := "API 백엔드"
  description := "CDN, WAF, 레이트 리미터, API 게이트웨이 뒤에 API 서버와 캐시, DB를 둔 구성입니다."
  keywords := ["api", "rest", "backend", "백엔드", "restful", "graphql"]
  spec := .mk
    [ node "client" .user "API Client",
      node "cdn" .cdn "CDN/Edge" "edge",
      node "waf" .waf "WAF" "security",
      node "rate-limit" .firewall "Rate Limiter" "security",
      node "api-gw" .loadBalancer "API Gateway" "gateway",
      node "api-v1" .appServer "API v1" "api",
      node "api-v2" .appServer "API v2" "api",
      node "cache" .cache "Redis Cache" "data",
      node "db" .dbServer "PostgreSQL" "data" ]
    [ edge "client" "cdn", edge "cdn" "waf", edge "waf" "rate-limit", edge "rate-limit" "api-gw",
      edge "api-gw" "api-v1", edge "api-gw" "api-v2", edge "api-v1" "cache",
      edge "api-v2" "cache", edge "cache" "db" ]
    (some [ ⟨"edge", "Edge", .external⟩, ⟨"security", "Security", .dmz⟩,
            ⟨"gateway", "Gateway", .dmz⟩, ⟨"api", "API Layer", .internal⟩,
            ⟨"data", "Data Layer", .data⟩ ])

/-- IoT 플랫폼. -/
def iot : Template where
  id := "iot"
  name := "IoT 플랫폼"
  description := "디바이스 데이터를 게이트웨이와 MQTT 브로커로 수집해 스트림 처리 후 저장하는 구성입니다."
  keywords := ["iot", "사물인터넷", "mqtt", "sensor", "센서", "edge"]
  spec := .mk
    [ node "device" .user "IoT Device",
      node "gateway" .router "IoT Gateway" "edge",
      node "mqtt" .cache "MQTT Broker" "messaging",
      node "stream" .appServer "Stream Processor" "processing",
      node "analytics" .appServer "Analytics Engine" "processing",
      node "timeseries" .dbServer "TimeSeries DB" "data",
      node "storage" .storage "Data Lake" "data",
      node "dashboard" .webServer "Dashboard" "presentation" ]
    [ edge "device" "gateway", edge "gateway" "mqtt" .sync, edge "mqtt" "stream" .sync,
      edge "stream" "timeseries", edge "stream" "analytics" .sync, edge "analytics" "storage",
      edge "timeseries" "dashboard" .response, edge "storage" "dashboard" .response ]
    (some [ ⟨"edge", "Edge", .external⟩, ⟨"messaging", "Messaging", .dmz⟩,
            ⟨"processing", "Processing", .internal⟩, ⟨"data", "Data", .data⟩,
            ⟨"presentation", "Presentation", .internal⟩ ])

/-- All templates. -/
def catalog : List Template :=
  [threeTier, vpn, k8s, simpleWaf, hybrid, microservices, zeroTrust, dr, api, iot]

end NetSketch.Template
