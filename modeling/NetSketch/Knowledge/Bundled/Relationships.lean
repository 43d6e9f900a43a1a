import NetSketch.Knowledge.Entry

/-!
# Bundled relationships

* `bundledRelationships`.
-/

namespace NetSketch

/-- A citation of a kind, with its title and perhaps an address and a part. -/
def cite (kind title : String) (url : Option String := none) (part : Option String := none) :
    Citation :=
  ⟨.str kind, .str title, (url.map Json.str).getD .null, (part.map Json.str).getD .null⟩

/-- A relationship whose confidence is given in percent. -/
def relate (id : String) (source : Component) (relation : Relation) (target : Component)
    (strength : Strength) (direction : Direction) (percent : Nat) (reason reasonKo : String)
    (tags : List String) (citations : List Citation) : Relationship where
  id := .str id
  source := source
  target := target
  relation := relation
  strength := strength
  direction := direction
  reason := .str reason
  reasonKo := .str reasonKo
  confidence := .ofDecimal false percent (-2)
  tags := tags.map .str
  citations := citations

/-- The relationships of the bundled corpus. -/
def bundledRelationships : List Relationship :=
  [ relate "REL-REQ-001" .dbServer .requires .firewall .mandatory .upstream 95
      "Databases must sit behind a firewall that restricts access to application hosts."
      "데이터베이스는 애플리케이션 호스트만 접근하도록 제한하는 방화벽 뒤에 위치해야 합니다."
      ["security", "data"]
      [cite "nist" "NIST SP 800-41 Rev.1" "https://csrc.nist.gov/publications/detail/sp/800-41/rev-1/final" "4.1"],
    relate "REL-REQ-002" .dbServer .requires .backup .strong .downstream 90
      "Every database needs a backup target to recover from corruption or deletion."
      "모든 데이터베이스는 손상이나 삭제에서 복구하기 위한 백업 대상이 필요합니다."
      ["availability", "data"]
      [cite "cis" "CIS Controls v8 - Control 11 Data Recovery" "https://www.cisecurity.org/controls/data-recovery"],
    relate "REL-REQ-003" .sso .requires .ldapAd .mandatory .downstream 92
      "SSO needs a directory service as the identity source."
      "SSO는 ID 원천으로 디렉터리 서비스(LDAP/AD)가 필요합니다."
      ["auth"]
      [cite "nist" "NIST SP 800-63C" "https://pages.nist.gov/800-63-3/sp800-63c.html"],
    relate "REL-REQ-004" .mfa .requires .ldapAd .strong .downstream 85
      "MFA enrolment is bound to accounts held in the directory."
      "MFA 등록 정보는 디렉터리에 있는 계정과 연결되어야 합니다."
      ["auth"]
      [cite "nist" "NIST SP 800-63B" "https://pages.nist.gov/800-63-3/sp800-63b.html"],
    relate "REL-REQ-005" .vpnGateway .requires .firewall .mandatory .downstream 90
      "Decrypted VPN traffic must pass a firewall before reaching internal networks."
      "복호화된 VPN 트래픽은 내부망에 도달하기 전에 방화벽을 통과해야 합니다."
      ["security", "remote-access"]
      [cite "nist" "NIST SP 800-77 Rev.1" "https://csrc.nist.gov/publications/detail/sp/800-77/rev-1/final"],
    relate "REL-REQ-006" .kubernetes .requires .loadBalancer .strong .upstream 80
      "Cluster workloads are exposed through a load balancer or ingress controller."
      "클러스터 워크로드는 로드밸런서나 인그레스 컨트롤러를 통해 노출됩니다."
      ["container", "network"]
      [cite "vendor" "Kubernetes Documentation - Service type LoadBalancer" "https://kubernetes.io/docs/concepts/services-networking/service/"],
    relate "REL-REQ-007" .loadBalancer .requires .webServer .strong .downstream 80
      "A load balancer needs backend servers to distribute traffic to."
      "로드밸런서는 트래픽을 분산할 백엔드 서버가 필요합니다."
      ["network", "availability"]
      [cite "vendor" "AWS Elastic Load Balancing User Guide" "https://docs.aws.amazon.com/elasticloadbalancing/"],
    relate "REL-REQ-008" .iam .requires .ldapAd .strong .downstream 75
      "IAM policies are usually anchored to directory groups."
      "IAM 정책은 일반적으로 디렉터리 그룹을 기준으로 구성됩니다."
      ["auth"]
      [cite "vendor" "Microsoft Entra ID Documentation" "https://learn.microsoft.com/entra/identity/"],
    relate "REL-REQ-009" .webServer .requires .firewall .mandatory .upstream 90
      "Internet-facing web servers must be placed behind a firewall."
      "인터넷에 노출되는 웹 서버는 방화벽 뒤에 배치해야 합니다."
      ["security"]
      [cite "nist" "NIST SP 800-44 Ver.2" "https://csrc.nist.gov/publications/detail/sp/800-44/version-2/final" "8"],
    relate "REL-REQ-010" .nac .requires .switchL2 .strong .downstream 70
      "NAC enforces 802.1X on access switches."
      "NAC는 액세스 스위치에서 802.1X를 통해 접근 통제를 수행합니다."
      ["security", "network"]
      [cite "rfc" "IEEE 802.1X-2020"],
    relate "REL-REQ-011" .cdn .requires .dns .strong .upstream 85
      "CDN edge routing relies on DNS CNAME resolution."
      "CDN 엣지 라우팅은 DNS CNAME 해석에 의존합니다."
      ["network", "performance"]
      [cite "rfc" "RFC 1034 Domain Names - Concepts and Facilities" "https://www.rfc-editor.org/rfc/rfc1034"],
    relate "REL-REC-001" .webServer .recommends .waf .strong .upstream 90
      "A WAF blocks injection and XSS before requests reach the web tier."
      "WAF는 요청이 웹 계층에 도달하기 전에 SQL 인젝션과 XSS를 차단합니다."
      ["security", "web"]
      [cite "owasp" "OWASP Top 10 (2021)" "https://owasp.org/Top10/"],
    relate "REL-REC-002" .webServer .recommends .loadBalancer .weak .upstream 75
      "A load balancer allows the web tier to scale horizontally."
      "로드밸런서를 두면 웹 계층을 수평 확장할 수 있습니다."
      ["availability", "performance"]
      [cite "vendor" "AWS Well-Architected Framework - Reliability Pillar" "https://docs.aws.amazon.com/wellarchitected/latest/reliability-pillar/"],
    relate "REL-REC-003" .webServer .recommends .cdn .weak .upstream 70
      "A CDN offloads static assets and absorbs traffic spikes."
      "CDN은 정적 리소스를 분산 처리하고 트래픽 급증을 흡수합니다."
      ["performance"]
      [cite "vendor" "AWS Well-Architected Framework - Performance Efficiency Pillar" "https://docs.aws.amazon.com/wellarchitected/latest/performance-efficiency-pillar/"],
    relate "REL-REC-004" .appServer .recommends .cache .weak .downstream 75
      "A cache in front of the database cuts read latency."
      "데이터베이스 앞에 캐시를 두면 읽기 지연이 줄어듭니다."
      ["performance"]
      [cite "vendor" "Redis Documentation - Caching patterns" "https://redis.io/docs/latest/develop/use/patterns/"],
    relate "REL-REC-005" .dbServer .recommends .dlp .weak .bidirectional 60
      "DLP monitors sensitive data leaving the data tier."
      "DLP는 데이터 계층에서 유출되는 민감정보를 감시합니다."
      ["security", "data"]
      [cite "cis" "CIS Controls v8 - Control 3 Data Protection" "https://www.cisecurity.org/controls/data-protection"],
    relate "REL-REC-006" .firewall .recommends .idsIps .strong .downstream 85
      "IDS/IPS inspects traffic the firewall allows."
      "IDS/IPS는 방화벽이 허용한 트래픽을 정밀 검사합니다."
      ["security"]
      [cite "nist" "NIST SP 800-94" "https://csrc.nist.gov/publications/detail/sp/800-94/final"],
    relate "REL-REC-007" .vpnGateway .recommends .mfa .strong .downstream 88
      "Remote access should require a second factor."
      "원격 접속에는 다중 인증을 적용해야 합니다."
      ["security", "auth", "remote-access"]
      [cite "cis" "CIS Controls v8 - Safeguard 6.4" "https://www.cisecurity.org/controls/access-control-management"],
    relate "REL-REC-008" .sso .recommends .mfa .strong .downstream 86
      "SSO concentrates access, so it should be protected with MFA."
      "SSO는 접근 권한이 집중되므로 MFA로 보호해야 합니다."
      ["auth"]
      [cite "nist" "NIST SP 800-63B" "https://pages.nist.gov/800-63-3/sp800-63b.html"],
    relate "REL-REC-009" .appServer .recommends .sso .weak .downstream 60
      "Centralised authentication avoids per-application credential stores."
      "통합 인증을 사용하면 애플리케이션별 계정 저장소를 없앨 수 있습니다."
      ["auth"]
      [cite "owasp" "OWASP Authentication Cheat Sheet" "https://cheatsheetseries.owasp.org/cheatsheets/Authentication_Cheat_Sheet.html"],
    relate "REL-REC-010" .container .recommends .kubernetes .weak .upstream 65
      "An orchestrator handles restarts and scaling of containers."
      "오케스트레이터가 컨테이너의 재시작과 확장을 관리합니다."
      ["container"]
      [cite "vendor" "Kubernetes Documentation - Overview" "https://kubernetes.io/docs/concepts/overview/"],
    relate "REL-REC-011" .kubernetes .recommends .iam .strong .downstream 80
      "Cluster API access should be governed by IAM and RBAC."
      "클러스터 API 접근은 IAM과 RBAC로 통제해야 합니다."
      ["container", "auth"]
      [cite "cis" "CIS Kubernetes Benchmark" "https://www.cisecurity.org/benchmark/kubernetes"],
    relate "REL-REC-012" .webServer .recommends .dns .weak .upstream 60
      "Public services should be reached by name rather than address."
      "공개 서비스는 IP 대신 도메인 이름으로 접근하도록 구성합니다."
      ["network"]
      [cite "rfc" "RFC 1035 Domain Names - Implementation and Specification" "https://www.rfc-editor.org/rfc/rfc1035"],
    relate "REL-REC-013" .dbServer .recommends .sanNas .weak .downstream 55
      "Shared storage simplifies database failover."
      "공유 스토리지를 사용하면 데이터베이스 장애 조치가 쉬워집니다."
      ["data", "availability"]
      [cite "vendor" "NetApp Best Practices for Databases"],
    relate "REL-REC-014" .ldapAd .recommends .backup .strong .downstream 80
      "Directory loss locks every user out, so it needs its own backup."
      "디렉터리가 손실되면 모든 사용자가 접근할 수 없으므로 별도 백업이 필요합니다."
      ["auth", "availability"]
      [cite "vendor" "Microsoft AD Forest Recovery Guide" "https://learn.microsoft.com/windows-server/identity/ad-ds/manage/forest-recovery-guide/ad-forest-recovery-guide"],
    relate "REL-REC-015" .router .recommends .firewall .strong .downstream 85
      "Border routers forward into a firewall, never directly into hosts."
      "경계 라우터는 호스트가 아닌 방화벽으로 트래픽을 전달해야 합니다."
      ["network", "security"]
      [cite "nist" "NIST SP 800-41 Rev.1" "https://csrc.nist.gov/publications/detail/sp/800-41/rev-1/final"],
    relate "REL-REC-016" .objectStorage .recommends .backup .weak .downstream 55
      "Versioned buckets still need an offline copy against ransomware."
      "버전 관리가 되는 버킷도 랜섬웨어 대비 오프라인 사본이 필요합니다."
      ["data"]
      [cite "user" "Community contribution"],
    relate "REL-REC-017" .awsVpc .recommends .iam .strong .downstream 85
      "VPC resources should be accessed through IAM roles rather than keys."
      "VPC 리소스는 액세스 키가 아닌 IAM 역할을 통해 접근해야 합니다."
      ["cloud", "auth"]
      [cite "vendor" "AWS IAM Best Practices" "https://docs.aws.amazon.com/IAM/latest/UserGuide/best-practices.html"],
    relate "REL-REC-018" .privateCloud .recommends .firewall .strong .upstream 80
      "Private cloud tenants need perimeter filtering."
      "프라이빗 클라우드 테넌트에는 경계 필터링이 필요합니다."
      ["cloud", "security"]
      [cite "nist" "NIST SP 800-146" "https://csrc.nist.gov/publications/detail/sp/800-146/final"],
    relate "REL-REC-019" .sdWan .recommends .firewall .strong .downstream 70
      "Branch breakout traffic must still be filtered."
      "지사에서 직접 인터넷으로 나가는 트래픽도 필터링해야 합니다."
      ["network", "security"]
      [cite "user" "Community contribution"],
    relate "REL-REC-020" .appServer .recommends .idsIps .weak .upstream 40
      "Host IPS agents on application servers catch lateral movement."
      "애플리케이션 서버의 호스트 IPS는 내부 확산 공격을 탐지합니다."
      ["security"]
      [cite "user" "Community contribution"],
    relate "REL-CON-001" .dbServer .conflicts .internet .mandatory .bidirectional 98
      "Databases must never be exposed to the internet."
      "데이터베이스는 절대 인터넷에 직접 노출되어서는 안 됩니다."
      ["security", "data"]
      [cite "cis" "CIS Controls v8 - Safeguard 12.2" "https://www.cisecurity.org/controls/network-infrastructure-management"],
    relate "REL-CON-002" .cache .conflicts .internet .strong .bidirectional 90
      "Cache servers have weak or no authentication and must stay internal."
      "캐시 서버는 인증이 약하거나 없으므로 내부에만 두어야 합니다."
      ["security"]
      [cite "vendor" "Redis Security" "https://redis.io/docs/latest/operate/oss_and_stack/management/security/"],
    relate "REL-CON-003" .ldapAd .conflicts .internet .mandatory .bidirectional 95
      "Directory services exposed to the internet invite credential attacks."
      "인터넷에 노출된 디렉터리 서비스는 계정 공격의 표적이 됩니다."
      ["security", "auth"]
      [cite "cis" "CIS Microsoft Windows Server Benchmark"],
    relate "REL-CON-004" .sanNas .conflicts .internet .strong .bidirectional 90
      "Storage protocols (iSCSI, NFS, SMB) are not designed for untrusted networks."
      "iSCSI, NFS, SMB 같은 스토리지 프로토콜은 신뢰할 수 없는 네트워크용이 아닙니다."
      ["security", "data"]
      [cite "nist" "NIST SP 800-209" "https://csrc.nist.gov/publications/detail/sp/800-209/final"],
    relate "REL-CON-005" .backup .conflicts .internet .strong .bidirectional 88
      "Reachable backups are the first target of ransomware."
      "접근 가능한 백업은 랜섬웨어의 1차 공격 대상입니다."
      ["security", "data"]
      [cite "cis" "CIS Controls v8 - Safeguard 11.4" "https://www.cisecurity.org/controls/data-recovery"],
    relate "REL-CON-006" .appServer .conflicts .internet .weak .bidirectional 70
      "Application servers should be reached only through the web tier or a gateway."
      "애플리케이션 서버는 웹 계층이나 게이트웨이를 통해서만 접근해야 합니다."
      ["security"]
      [cite "owasp" "OWASP Application Security Verification Standard" "https://owasp.org/www-project-application-security-verification-standard/"],
    relate "REL-PRO-001" .firewall .protects .webServer .strong .downstream 90
      "The firewall limits inbound traffic to web ports."
      "방화벽은 웹 서버로 향하는 인바운드 트래픽을 웹 포트로 제한합니다."
      ["security"]
      [cite "nist" "NIST SP 800-41 Rev.1" "https://csrc.nist.gov/publications/detail/sp/800-41/rev-1/final"],
    relate "REL-PRO-002" .waf .protects .webServer .strong .downstream 90
      "The WAF filters application-layer attacks aimed at the web tier."
      "WAF는 웹 계층을 노리는 애플리케이션 계층 공격을 필터링합니다."
      ["security", "web"]
      [cite "owasp" "OWASP ModSecurity Core Rule Set" "https://coreruleset.org/"],
    relate "REL-PRO-003" .firewall .protects .dbServer .mandatory .downstream 95
      "The firewall segments the data tier from everything except the app tier."
      "방화벽은 데이터 계층을 애플리케이션 계층 외의 모든 영역과 분리합니다."
      ["security", "data"]
      [cite "nist" "NIST SP 800-41 Rev.1" "https://csrc.nist.gov/publications/detail/sp/800-41/rev-1/final"],
    relate "REL-PRO-004" .dlp .protects .dbServer .weak .downstream 60
      "DLP flags bulk exports of sensitive records."
      "DLP는 민감한 레코드의 대량 반출을 탐지합니다."
      ["security", "data"]
      [cite "cis" "CIS Controls v8 - Control 3 Data Protection" "https://www.cisecurity.org/controls/data-protection"],
    relate "REL-PRO-005" .mfa .protects .sso .strong .downstream 85
      "MFA stops stolen passwords from unlocking every federated application."
      "MFA는 탈취된 비밀번호로 모든 연동 애플리케이션에 접근하는 것을 막습니다."
      ["auth"]
      [cite "nist" "NIST SP 800-63B" "https://pages.nist.gov/800-63-3/sp800-63b.html"],
    relate "REL-ENH-001" .cache .enhances .dbServer .strong .upstream 80
      "A cache absorbs repeated reads that would otherwise hit the database."
      "캐시는 데이터베이스로 향할 반복 읽기를 흡수합니다."
      ["performance"]
      [cite "vendor" "AWS Database Caching Strategies Using Redis" "https://docs.aws.amazon.com/whitepapers/latest/database-caching-strategies-using-redis/"],
    relate "REL-ENH-002" .cdn .enhances .webServer .weak .upstream 75
      "A CDN serves cached content closer to users."
      "CDN은 사용자와 가까운 곳에서 캐시된 콘텐츠를 제공합니다."
      ["performance"]
      [cite "vendor" "Cloudflare Learning Center - What is a CDN" "https://www.cloudflare.com/learning/cdn/what-is-a-cdn/"],
    relate "REL-ENH-003" .loadBalancer .enhances .appServer .strong .upstream 80
      "Load balancing app servers removes single points of failure."
      "애플리케이션 서버를 로드밸런싱하면 단일 장애점이 제거됩니다."
      ["availability"]
      [cite "vendor" "AWS Well-Architected Framework - Reliability Pillar" "https://docs.aws.amazon.com/wellarchitected/latest/reliability-pillar/"],
    relate "REL-ENH-004" .dns .enhances .loadBalancer .weak .upstream 65
      "DNS-based failover spreads traffic across load balancers in several sites."
      "DNS 기반 페일오버는 여러 사이트의 로드밸런서로 트래픽을 분산합니다."
      ["availability", "network"]
      [cite "vendor" "Amazon Route 53 Developer Guide - DNS failover" "https://docs.aws.amazon.com/Route53/latest/DeveloperGuide/dns-failover.html"],
    relate "REL-ENH-005" .idsIps .enhances .firewall .weak .bidirectional 70
      "IPS signatures add payload inspection on top of firewall rules."
      "IPS 시그니처는 방화벽 정책 위에 페이로드 검사를 더합니다."
      ["security"]
      [cite "nist" "NIST SP 800-94" "https://csrc.nist.gov/publications/detail/sp/800-94/final"] ]

end NetSketch
