import NetSketch.Knowledge.Entry

/-!
# Bundled anti-patterns

* `bundledAntiPatterns`.
-/

namespace NetSketch

/-- Component types as a part of a signature. -/
def typeNames (types : List Component) : Json := .arr (types.map fun c => .str c.name)

/-- Tiers as a part of a signature. -/
def tierNames (tiers : List Tier) : Json := .arr (tiers.map fun t => .str t.name)

/-- Rules for counts as a part of a signature: a type, a word and a number. -/
def countRules (rules : List (Component × String × Nat)) : Json :=
  .obj (rules.map fun (c, word, n) => (c.name, .obj [(word, .int n)]))

/-- An anti-pattern. -/
def antiPattern (id name nameKo : String) (severity : Severity) (signature : Signature)
    (problemKo impactKo solutionKo : String) : AntiPattern where
  id := .str id
  name := .str name
  nameKo := .str nameKo
  severity := severity
  signature := signature
  problemKo := .str problemKo
  impactKo := .str impactKo
  solutionKo := .str solutionKo

/-- The anti-patterns of the bundled corpus. -/
def bundledAntiPatterns : List AntiPattern :=
  [ antiPattern "AP-SEC-001" "Database exposed to internet" "DB 인터넷 직접 노출" .critical
      { shape := .unguardedPath (typeNames [.internet]) (typeNames [.dbServer]) (typeNames [.firewall, .waf]) }
      "인터넷에서 방화벽이나 WAF를 거치지 않고 데이터베이스에 도달할 수 있습니다."
      "데이터 유출, 무차별 대입 공격, 랜섬웨어 감염 위험이 있습니다."
      "데이터베이스를 내부망에 두고 방화벽 뒤에서 애플리케이션 서버만 접근하도록 구성하세요.",
    antiPattern "AP-SEC-002" "No firewall" "방화벽 부재" .high
      { presentAny := typeNames [.webServer, .appServer, .dbServer, .container, .vm, .kubernetes]
        absentAll := typeNames [.firewall]
        shape := .presence }
      "서버가 있지만 네트워크 경계를 보호하는 방화벽이 없습니다."
      "모든 포트가 외부 공격에 노출될 수 있습니다."
      "외부와 내부망 사이에 방화벽을 추가하세요.",
    antiPattern "AP-SEC-003" "Public web without WAF" "WAF 없는 공개 웹 서비스" .high
      { presentAll := typeNames [.webServer]
        presentAny := typeNames [.internet, .user]
        absentAll := typeNames [.waf]
        shape := .presence }
      "외부 사용자가 접근하는 웹 서버에 WAF가 없습니다."
      "SQL 인젝션, XSS 등 OWASP Top 10 공격에 취약합니다."
      "웹 서버 앞단에 WAF를 배치하세요.",
    antiPattern "AP-SEC-004" "Internal-only component linked to internet" "내부 전용 컴포넌트의 인터넷 연결" .critical
      { shape := .directLink (typeNames [.internet]) (typeNames [.dbServer, .ldapAd, .sanNas, .backup, .cache, .appServer]) }
      "내부 전용 컴포넌트가 인터넷과 직접 연결되어 있습니다."
      "인증이 약한 내부 서비스가 외부 공격에 직접 노출됩니다."
      "내부 전용 컴포넌트는 방화벽 안쪽 내부망에서만 접근하도록 연결을 변경하세요.",
    antiPattern "AP-SEC-005" "Unencrypted external access" "암호화되지 않은 외부 접속" .medium
      { presentAll := typeNames [.internet]
        presentAny := typeNames [.webServer, .appServer, .loadBalancer]
        absentAll := typeNames [.vpnGateway]
        absentFlows := .arr [.str FlowKind.encrypted.name]
        shape := .presence }
      "외부 접속 경로에 VPN이나 암호화된 흐름이 없습니다."
      "전송 구간에서 데이터가 도청되거나 변조될 수 있습니다."
      "TLS 종단을 명시하거나 관리 접속에는 VPN 게이트웨이를 사용하세요.",
    antiPattern "AP-SEC-006" "Database in DMZ" "DMZ에 배치된 데이터베이스" .high
      { shape := .tierPlacement (typeNames [.dbServer]) (tierNames [.dmz, .external]) }
      "데이터베이스가 DMZ 또는 외부 영역에 배치되어 있습니다."
      "DMZ가 침해되면 데이터가 바로 유출됩니다."
      "데이터베이스는 데이터 계층(내부망)으로 옮기세요.",
    antiPattern "AP-SEC-007" "No authentication layer" "인증 체계 부재" .medium
      { presentAny := typeNames [.appServer, .kubernetes, .vm, .container]
        absentAll := typeNames [.ldapAd, .sso, .mfa, .iam]
        shape := .presence }
      "서버가 있지만 LDAP/AD, SSO, MFA, IAM 등 인증 컴포넌트가 없습니다."
      "계정 관리가 분산되어 권한 오남용을 통제하기 어렵습니다."
      "중앙 인증(LDAP/AD 또는 SSO)을 추가하세요.",
    antiPattern "AP-HA-001" "Single load balancer" "단일 로드밸런서" .medium
      { shape := .typeCount (countRules [(.loadBalancer, "eq", 1), (.webServer, "min", 2)]) }
      "웹 서버는 이중화되어 있지만 로드밸런서가 하나뿐입니다."
      "로드밸런서 장애 시 전체 서비스가 중단됩니다."
      "로드밸런서를 Active-Standby 또는 Active-Active로 이중화하세요.",
    antiPattern "AP-HA-002" "Database without backup" "백업 없는 데이터베이스" .high
      { presentAll := typeNames [.dbServer]
        absentAll := typeNames [.backup]
        shape := .presence }
      "데이터베이스가 있지만 백업 구성요소가 없습니다."
      "장애나 삭제 시 데이터를 복구할 수 없습니다."
      "백업 스토리지를 추가하고 정기 백업 정책을 수립하세요.",
    antiPattern "AP-HA-003" "No resilience components" "복원력 구성요소 부재" .medium
      { minNodes := .int 3
        absentAll := typeNames [.backup, .cache]
        shape := .presence }
      "백업도 캐시도 없는 구성입니다."
      "장애 시 복구와 부하 완화 수단이 없습니다."
      "백업과 캐시 계층을 검토하세요.",
    antiPattern "AP-HA-004" "Single database in multi-tier stack" "다계층 구조의 단일 데이터베이스" .medium
      { shape := .typeCount (countRules [(.dbServer, "eq", 1), (.webServer, "min", 1), (.appServer, "min", 1)]) }
      "3계층 구조이지만 데이터베이스가 하나뿐입니다."
      "데이터베이스가 단일 장애점이 됩니다."
      "복제본(Replica) 또는 클러스터 구성을 추가하세요.",
    antiPattern "AP-HA-005" "Load balancer with one backend" "백엔드가 하나인 로드밸런서" .medium
      { shape := .fanOut (.str Component.loadBalancer.name) (.int 1) (typeNames [.user, .internet, .firewall, .waf, .cdn, .dns, .router, .idsIps]) }
      "로드밸런서 뒤에 연결된 서버가 하나 이하입니다."
      "부하 분산과 장애 조치 효과가 없습니다."
      "로드밸런서 뒤에 서버를 2대 이상 연결하세요.",
    antiPattern "AP-PERF-001" "No cache in front of database" "캐시 계층 부재" .medium
      { presentAll := typeNames [.dbServer, .appServer]
        absentAll := typeNames [.cache]
        shape := .presence }
      "애플리케이션이 모든 조회를 데이터베이스에 직접 요청합니다."
      "트래픽 증가 시 데이터베이스가 병목이 됩니다."
      "애플리케이션과 데이터베이스 사이에 캐시를 추가하세요.",
    antiPattern "AP-PERF-002" "Public web without CDN" "CDN 없는 공개 웹" .medium
      { presentAll := typeNames [.webServer]
        presentAny := typeNames [.user, .internet]
        absentAll := typeNames [.cdn]
        shape := .presence }
      "외부 사용자가 접근하는 웹 서비스에 CDN이 없습니다."
      "정적 리소스 전송 지연과 원본 서버 부하가 커집니다."
      "정적 콘텐츠를 CDN으로 제공하세요.",
    antiPattern "AP-PERF-003" "Multiple web servers without load balancer" "로드밸런서 없는 다중 웹 서버" .high
      { shape := .typeCount (countRules [(.webServer, "min", 2), (.loadBalancer, "max", 0)]) }
      "웹 서버가 여러 대지만 트래픽을 분산할 로드밸런서가 없습니다."
      "트래픽이 한 서버에 몰리고 장애 조치가 되지 않습니다."
      "웹 서버 앞에 로드밸런서를 추가하세요.",
    antiPattern "AP-PERF-004" "Web tier talks to database directly" "웹-DB 직접 연결" .medium
      { absentAll := typeNames [.appServer]
        shape := .directLink (typeNames [.webServer]) (typeNames [.dbServer]) }
      "웹 서버가 애플리케이션 계층 없이 데이터베이스에 직접 연결됩니다."
      "비즈니스 로직이 웹 계층에 섞이고 DB 커넥션이 과도해집니다."
      "애플리케이션 서버 계층을 추가하세요.",
    antiPattern "AP-PERF-005" "No DNS" "DNS 부재" .medium
      { minNodes := .int 3
        presentAny := typeNames [.internet, .user]
        absentAll := typeNames [.dns]
        shape := .presence }
      "외부 접속이 있는 구성에 DNS가 없습니다."
      "IP 변경이나 장애 조치 시 서비스 주소를 바꿀 수 없습니다."
      "DNS를 추가하고 도메인 기반으로 접근하도록 구성하세요.",
    antiPattern "AP-ARCH-001" "Flat network" "평면 네트워크" .high
      { minNodes := .int 3
        shape := .singleTier }
      "모든 컴포넌트가 하나의 계층에 배치되어 있습니다."
      "침해 시 내부 확산(lateral movement)을 막을 수 없습니다."
      "DMZ, 내부망, 데이터 계층으로 네트워크를 분리하세요.",
    antiPattern "AP-ARCH-002" "Missing application tier" "애플리케이션 계층 누락" .medium
      { presentAll := typeNames [.webServer, .dbServer]
        absentAll := typeNames [.appServer]
        shape := .presence }
      "웹 서버와 데이터베이스만 있고 애플리케이션 계층이 없습니다."
      "웹 계층에 비즈니스 로직과 DB 자격증명이 노출됩니다."
      "애플리케이션 서버를 웹과 DB 사이에 추가하세요.",
    antiPattern "AP-ARCH-003" "Large estate without orchestration" "오케스트레이션 없는 대규모 구성" .medium
      { minNodes := .int 16
        shape := .typeCount (countRules [(.kubernetes, "max", 0), (.container, "max", 0)]) }
      "컴포넌트가 15개를 넘지만 컨테이너 오케스트레이션이 없습니다."
      "배포와 확장을 수작업으로 관리해야 합니다."
      "Kubernetes 등 오케스트레이션 도입을 검토하세요.",
    antiPattern "AP-ARCH-004" "Storage not separated from compute" "스토리지와 컴퓨팅 미분리" .medium
      { shape := .tierSubset (typeNames [.storage, .sanNas, .objectStorage, .backup]) (typeNames [.webServer, .appServer, .container, .vm, .kubernetes]) }
      "스토리지가 컴퓨팅과 같은 계층에 배치되어 있습니다."
      "컴퓨팅 계층 침해 시 스토리지도 함께 노출됩니다."
      "스토리지를 별도의 데이터 계층으로 분리하세요.",
    antiPattern "AP-ARCH-005" "Monolithic single instances" "단일 인스턴스 모놀리식 구성" .medium
      { shape := .typeCount (countRules [(.webServer, "eq", 1), (.appServer, "eq", 1), (.dbServer, "eq", 1)]) }
      "웹, 앱, DB가 각각 한 대씩인 구성입니다."
      "어느 한 계층의 장애가 전체 서비스 중단으로 이어집니다."
      "각 계층의 이중화를 검토하세요." ]

end NetSketch
