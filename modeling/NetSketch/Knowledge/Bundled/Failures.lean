import NetSketch.Knowledge.Entry

/-!
# Bundled failures

* `bundledFailures`.
-/

namespace NetSketch

/-- A failure of a component. -/
def failure (id : String) (component : Component) (title titleKo scenarioKo : String)
    (impact : Impact) (likelihood : String) (affected : List Component)
    (preventionKo mitigationKo : List String) (repairTime : String) : Failure where
  id := .str id
  component := component
  title := .str title
  titleKo := .str titleKo
  scenarioKo := .str scenarioKo
  impact := impact
  likelihood := .str likelihood
  affected := affected.map fun c => .str c.name
  preventionKo := preventionKo.map .str
  mitigationKo := mitigationKo.map .str
  repairTime := repairTime

/-- The failures of the bundled corpus. -/
def bundledFailures : List Failure :=
  [ failure "FAIL-NET-001" .firewall
      "Firewall state table exhaustion"
      "방화벽 세션 테이블 포화"
      "대량 연결이나 SYN Flood로 세션 테이블이 가득 차 신규 연결이 거부됩니다."
      .serviceDown "medium" [.webServer, .appServer, .loadBalancer]
      ["세션 테이블 사용률 모니터링과 임계치 알림을 설정하세요.",
       "SYN Cookie 등 DoS 방어 기능을 활성화하세요."]
      ["유휴 세션 타임아웃을 단축하세요.",
       "HA 페어로 트래픽을 넘기세요."]
      "15분~1시간",
    failure "FAIL-NET-002" .dns
      "DNS cache poisoning"
      "DNS 캐시 포이즈닝"
      "위조된 응답이 캐시에 저장되어 사용자가 악성 사이트로 유도됩니다."
      .securityBreach "low" [.webServer, .cdn]
      ["DNSSEC을 적용하세요.",
       "재귀 질의를 내부 클라이언트로 제한하세요."]
      ["DNS 캐시를 비우고 위조 레코드를 제거하세요."]
      "1~4시간",
    failure "FAIL-NET-003" .loadBalancer
      "Health check misconfiguration"
      "헬스체크 설정 오류"
      "헬스체크 경로가 잘못되어 정상 서버가 모두 제외되거나 장애 서버로 트래픽이 전달됩니다."
      .serviceDown "medium" [.webServer, .appServer]
      ["애플리케이션 상태를 반영하는 전용 헬스체크 엔드포인트를 사용하세요."]
      ["헬스체크 설정을 롤백하세요."]
      "10분~30분",
    failure "FAIL-NET-004" .cdn
      "CDN origin overload on cache purge"
      "캐시 무효화 후 원본 서버 과부하"
      "전체 캐시 퍼지 직후 모든 요청이 원본 서버로 몰립니다."
      .degraded "medium" [.webServer]
      ["경로 단위로 점진적으로 퍼지하세요."]
      ["원본 서버를 일시적으로 증설하세요."]
      "30분~2시간",
    failure "FAIL-NET-005" .router
      "BGP route leak"
      "BGP 경로 유출"
      "잘못된 경로 광고로 트래픽이 엉뚱한 경로로 흐르거나 유실됩니다."
      .serviceDown "low" [.internet, .firewall]
      ["프리픽스 필터와 RPKI를 적용하세요."]
      ["문제 경로 광고를 철회하세요."]
      "30분~3시간",
    failure "FAIL-SEC-001" .waf
      "WAF bypass"
      "WAF 우회 공격"
      "인코딩 변형이나 미등록 경로로 WAF 규칙을 우회해 공격이 웹 서버에 도달합니다."
      .securityBreach "medium" [.webServer, .appServer, .dbServer]
      ["최신 규칙셋을 유지하고 원본 서버 직접 접근을 차단하세요."]
      ["공격 패턴에 대한 가상 패치를 적용하세요."]
      "1~8시간",
    failure "FAIL-SEC-002" .vpnGateway
      "VPN tunnel drop"
      "VPN 터널 단절"
      "인증서 만료나 키 재협상 실패로 원격 접속 터널이 끊어집니다."
      .serviceDown "medium" [.user, .appServer]
      ["인증서 만료 알림을 설정하세요."]
      ["이중화된 VPN 게이트웨이로 전환하세요."]
      "30분~2시간",
    failure "FAIL-SEC-003" .ldapAd
      "Directory outage"
      "디렉터리 서비스 장애"
      "도메인 컨트롤러 장애로 모든 인증 요청이 실패합니다."
      .serviceDown "low" [.sso, .mfa, .appServer]
      ["도메인 컨트롤러를 2대 이상 운영하세요."]
      ["복제본 컨트롤러로 역할을 이전하세요."]
      "1~4시간",
    failure "FAIL-SEC-004" .sso
      "SSO token signing key compromise"
      "SSO 서명 키 유출"
      "토큰 서명 키가 유출되어 임의 사용자로 위장한 토큰이 발급됩니다."
      .securityBreach "low" [.appServer, .webServer]
      ["서명 키를 HSM에 보관하고 주기적으로 교체하세요."]
      ["키를 교체하고 발급된 세션을 모두 무효화하세요."]
      "2~8시간",
    failure "FAIL-CMP-001" .webServer
      "Web server memory exhaustion"
      "웹 서버 메모리 고갈"
      "메모리 누수나 트래픽 급증으로 웹 서버 프로세스가 OOM으로 종료됩니다."
      .serviceDown "high" [.loadBalancer, .appServer]
      ["메모리 사용량 모니터링과 워커 재시작 정책을 설정하세요."]
      ["프로세스를 재시작하고 인스턴스를 증설하세요."]
      "5분~30분",
    failure "FAIL-CMP-002" .appServer
      "Thread pool exhaustion"
      "스레드 풀 고갈"
      "느린 DB 응답으로 요청 스레드가 모두 대기 상태가 되어 응답하지 못합니다."
      .serviceDown "high" [.webServer, .dbServer]
      ["외부 호출에 타임아웃과 서킷 브레이커를 적용하세요."]
      ["느린 쿼리를 차단하고 인스턴스를 재시작하세요."]
      "15분~1시간",
    failure "FAIL-CMP-003" .dbServer
      "Database deadlock storm"
      "DB 교착 상태 연쇄"
      "동시 트랜잭션이 서로 잠금을 기다리며 처리량이 급감합니다."
      .degraded "medium" [.appServer]
      ["잠금 획득 순서를 통일하고 트랜잭션을 짧게 유지하세요."]
      ["교착 세션을 종료하세요."]
      "15분~1시간",
    failure "FAIL-CMP-004" .dbServer
      "Storage corruption"
      "데이터 파일 손상"
      "디스크 오류나 잘못된 종료로 데이터 파일이 손상됩니다."
      .dataLoss "low" [.appServer, .backup]
      ["정기 백업과 복구 리허설을 수행하세요."]
      ["최신 백업과 트랜잭션 로그로 시점 복구하세요."]
      "2~12시간",
    failure "FAIL-CMP-005" .container
      "Container OOMKilled"
      "컨테이너 메모리 초과 종료"
      "메모리 제한을 넘은 컨테이너가 반복적으로 강제 종료됩니다."
      .degraded "high" [.kubernetes]
      ["실측 기반으로 리소스 요청과 제한을 설정하세요."]
      ["메모리 제한을 상향하고 누수를 분석하세요."]
      "10분~1시간",
    failure "FAIL-CMP-006" .kubernetes
      "CrashLoopBackOff after deployment"
      "배포 후 CrashLoopBackOff"
      "잘못된 설정이 배포되어 파드가 계속 재시작됩니다."
      .serviceDown "medium" [.container, .loadBalancer]
      ["롤링 업데이트와 readiness probe를 사용하세요."]
      ["이전 리비전으로 롤백하세요."]
      "5분~30분",
    failure "FAIL-STO-001" .cache
      "Cache stampede"
      "캐시 스탬피드"
      "인기 키가 동시에 만료되어 요청이 한꺼번에 DB로 몰립니다."
      .degraded "medium" [.dbServer, .appServer]
      ["만료 시간에 지터를 주고 요청 병합을 적용하세요."]
      ["핫 키를 미리 적재하세요."]
      "10분~30분",
    failure "FAIL-STO-002" .backup
      "Backup ransomware encryption"
      "백업 랜섬웨어 암호화"
      "온라인 백업까지 암호화되어 복구 수단이 사라집니다."
      .dataLoss "low" [.dbServer, .sanNas]
      ["불변(immutable) 또는 오프라인 백업을 유지하세요."]
      ["격리된 사본에서 복구하세요."]
      "1~3일",
    failure "FAIL-STO-003" .sanNas
      "Storage controller failover failure"
      "스토리지 컨트롤러 전환 실패"
      "컨트롤러 장애 시 전환이 실패해 볼륨이 오프라인 됩니다."
      .serviceDown "low" [.dbServer, .vm]
      ["멀티패스 구성과 정기 전환 테스트를 수행하세요."]
      ["수동으로 컨트롤러를 전환하세요."]
      "1~4시간" ]

end NetSketch
