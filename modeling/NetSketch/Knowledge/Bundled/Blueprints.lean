import NetSketch.Knowledge.Entry

/-!
# Bundled blueprints

* `bundledBlueprints`.
-/

namespace NetSketch

/-- A blueprint with its needs, each with its least count. -/
def blueprint (id name nameKo descriptionKo : String) (needs : List (Component × Nat))
    (optional : List Component) (scalability : String) (complexity : Nat)
    (evolvesTo evolvesFrom tags : List String) : Blueprint where
  id := .str id
  name := .str name
  nameKo := .str nameKo
  descriptionKo := .str descriptionKo
  needs := needs.map fun (c, n) => ⟨c, .int n⟩
  optional := optional.map fun c => .str c.name
  scalability := .str scalability
  complexity := complexity
  evolvesTo := evolvesTo.map .str
  evolvesFrom := evolvesFrom.map .str
  tags := tags.map .str

/-- The blueprints of the bundled corpus. -/
def bundledBlueprints : List Blueprint :=
  [ blueprint "PAT-001" "3-Tier Web Architecture" "3티어 웹 아키텍처"
      "웹, 애플리케이션, 데이터베이스를 계층별로 분리한 전통적인 구조입니다."
      [(.webServer, 1), (.appServer, 1), (.dbServer, 1)]
      [.loadBalancer, .cache, .waf, .firewall]
      "medium" 2 ["PAT-004", "PAT-005"] ["PAT-002"] ["web", "classic"],
    blueprint "PAT-002" "2-Tier Web Architecture" "2티어 웹 아키텍처"
      "웹 서버가 데이터베이스에 직접 접근하는 단순한 구조입니다."
      [(.webServer, 1), (.dbServer, 1)]
      [.firewall]
      "low" 1 ["PAT-001"] [] ["web", "simple"],
    blueprint "PAT-003" "Secure Perimeter" "보안 경계 구조"
      "방화벽과 WAF로 DMZ를 구성해 웹 서비스를 보호하는 구조입니다."
      [(.firewall, 1), (.waf, 1), (.webServer, 1)]
      [.idsIps, .loadBalancer]
      "medium" 2 ["PAT-006"] [] ["security"],
    blueprint "PAT-004" "Load-Balanced Web Farm" "로드밸런싱 웹 팜"
      "로드밸런서 뒤에 여러 웹 서버를 두어 수평 확장하는 구조입니다."
      [(.loadBalancer, 1), (.webServer, 2)]
      [.cache, .cdn]
      "high" 2 ["PAT-005"] ["PAT-001"] ["availability"],
    blueprint "PAT-005" "Container Platform" "컨테이너 플랫폼"
      "Kubernetes 위에서 컨테이너화된 서비스를 운영하는 구조입니다."
      [(.kubernetes, 1), (.container, 1)]
      [.loadBalancer, .iam, .objectStorage]
      "high" 4 [] ["PAT-001", "PAT-004"] ["container", "cloud-native"],
    blueprint "PAT-006" "Zero Trust Access" "제로 트러스트 접근"
      "모든 접근을 ID 기반으로 검증하는 구조입니다."
      [(.iam, 1), (.mfa, 1), (.firewall, 1)]
      [.sso, .nac, .idsIps]
      "medium" 4 [] ["PAT-003", "PAT-007"] ["security", "identity"],
    blueprint "PAT-007" "Remote Access VPN" "원격 접속 VPN"
      "VPN 게이트웨이로 외부 사용자를 내부망에 연결하는 구조입니다."
      [(.vpnGateway, 1), (.firewall, 1)]
      [.mfa, .ldapAd]
      "medium" 2 ["PAT-006"] [] ["remote-access"],
    blueprint "PAT-008" "Backup and Recovery" "백업 및 복구"
      "데이터베이스와 스토리지를 별도 백업으로 보호하는 구조입니다."
      [(.dbServer, 1), (.backup, 1)]
      [.sanNas, .objectStorage]
      "medium" 2 [] [] ["availability", "data"] ]

end NetSketch
