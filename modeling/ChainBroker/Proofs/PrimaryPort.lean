import ChainBroker.Proofs.Bind
import ChainBroker.Proofs.Deployment
import ChainBroker.Proofs.Docker
import ChainBroker.Proofs.Download
import ChainBroker.Proofs.Loader
import ChainBroker.Proofs.Setup

/-!
# Where the deploy tool is pointed

A bind with Docker inspects the container and gives the tool a port of the host. Which one this is
follows from the table of ports and from the number of the plan's first port; protocols do not
count.

1. Whatever runs the tool is the deployment of the bind (`Broker.exists_deploy_of_run`), and
   whatever the daemon is asked is asked by the platform's bind (`Broker.exists_bind_of_left`).
2. The deployment has the endpoint that is found under the number of the first port, and this comes
   from an entry of the table (`Docker.exists_place_of_endpoint?`).
-/

namespace ChainBroker

open Dialogue Attempt

namespace Broker

variable {I : Interface} {s : Setup I} {outer : List (Exchange interface)}
  {log : List (Exchange (Surroundings I))}

/-! ## Who says what -/

/-- The tool is run by a deployment only, to an endpoint of the instance, and right before that the
request is written for it. -/
theorem exists_deploy_of_run (spelled : Spelled s.answer outer log) {command : Workbench.Command}
    {limit : Nat} {outcome : Workbench.Outcome}
    (hrun : ⟨.inr (.inr (.run command limit)), outcome⟩ ∈ log) :
    ∃ contract inst port deployed, ⟨.deploy contract inst port, deployed⟩ ∈ outer ∧
      ∃ endpoint requestPath outputPath, DeployTool.endpoint? inst port = some endpoint ∧
        command = s.tool.command requestPath outputPath contract.path ∧
        [⟨.inr (.inr (.write requestPath (DeployTool.requestBytes
            (DeployTool.provider inst endpoint) contract.arguments))), .ok ()⟩,
          ⟨.inr (.inr (.create "deploy-output-" ".json")), .ok outputPath⟩,
          ⟨.inr (.inr (.run command limit)), outcome⟩] <:+: log := by
  obtain ⟨q, a, inner, houter, hinner, hmem, hinfix⟩ := spelled.exists_of_mem hrun
  -- only a deployment starts the tool
  cases q with
  | provision | deprovision | bind =>
    obtain ⟨said, -, rfl⟩ := transcript_onPlatform_iff.mp hinner
    obtain ⟨exchange, -, heq⟩ := List.mem_map.mp hmem
    cases heq
  | download url =>
    obtain ⟨said, hsaid, rfl⟩ := transcript_besides_iff.mp hinner
    obtain ⟨⟨q, a⟩, hexchange, heq⟩ := List.mem_map.mp hmem
    have hnot := (Contract.transcript_download hsaid).not_run _ hexchange
    cases heq
    cases hnot
  | discard path =>
    rw [transcript_question_iff.mp hinner] at hmem
    cases List.mem_singleton.mp hmem
  | deploy contract inst port =>
    obtain ⟨said, hsaid, rfl⟩ := transcript_deploy_iff.mp hinner
    obtain ⟨⟨q, a'⟩, hexchange, heq⟩ := List.mem_map.mp hmem
    cases heq
    obtain ⟨endpoint, requestPath, outputPath, hendpoint, hcommand, hwritten⟩ :=
      (DeployTool.transcript_deploy hsaid).run hexchange
    exact ⟨contract, inst, port, a, houter, endpoint, requestPath, outputPath, hendpoint, hcommand,
      (hwritten.map atWorkbench).trans hinfix⟩

variable {catalog : Catalog} {serviceId planId instanceId bindingId : String} {payload : Bytes}
  {result : Except Failure Credentials}

/-- In a bind, the platform is asked nothing but where the instance is. -/
theorem exists_bind_of_left
    (course : Course catalog serviceId planId instanceId bindingId payload outer result)
    (spelled : Spelled s.answer outer log) {q : I.Question} {a : I.Answer q}
    (hmem : ⟨.inl q, a⟩ ∈ log) :
    ∃ bound inner, ⟨.bind instanceId bindingId, bound⟩ ∈ outer ∧
      Transcript (s.platform.bind instanceId bindingId).run inner bound ∧ ⟨q, a⟩ ∈ inner := by
  obtain ⟨question, answer, inner, houter, hinner, hsaid, -⟩ := spelled.exists_of_mem hmem
  obtain ⟨url, contract, inst, port, hprefix⟩ := course.order
  -- of all questions only that for the instance reaches the platform
  cases question with
  | provision | deprovision =>
    have heffect := hprefix.subset (mem_effects houter rfl)
    simp at heffect
  | bind instanceId' bindingId' =>
    have heffect := hprefix.subset (mem_effects houter rfl)
    obtain ⟨rfl, rfl⟩ : instanceId' = instanceId ∧ bindingId' = bindingId := by
      simpa using heffect
    obtain ⟨said, htranscript, rfl⟩ := transcript_onPlatform_iff.mp hinner
    obtain ⟨exchange, hexchange, heq⟩ := List.mem_map.mp hsaid
    cases heq
    exact ⟨answer, said, houter, htranscript, hexchange⟩
  | download =>
    obtain ⟨said, -, rfl⟩ := transcript_besides_iff.mp hinner
    obtain ⟨exchange, -, heq⟩ := List.mem_map.mp hsaid
    cases heq
  | discard path =>
    rw [transcript_question_iff.mp hinner] at hsaid
    cases List.mem_singleton.mp hsaid
  | deploy =>
    obtain ⟨said, -, rfl⟩ := transcript_deploy_iff.mp hinner
    obtain ⟨exchange, -, heq⟩ := List.mem_map.mp hsaid
    cases heq

end Broker

namespace Docker

open Broker

/-! ## Where Docker points the tool -/

/-- An instance that a bind gives is made of an inspection. -/
theorem exists_inspection {internalAddress externalAddress instanceId : String}
    {log : List (Exchange interface)} {inst : Instance}
    (h : Transcript (bind internalAddress externalAddress instanceId).run log (.ok inst)) :
    ∃ inspection : Inspection, log = [⟨.inspect instanceId, .ok inspection⟩] ∧
      inst = { internalAddress, externalAddress
               endpoints := endpoints (inspection.ports.getD []) } := by
  obtain ⟨inspected, rfl, hr⟩ := transcript_bind h
  cases inspected with
  | error cause => cases hr
  | ok inspection =>
    cases hr
    exact ⟨inspection, rfl, rfl⟩

/-- What is found first under a number is listed first for some key with that number. -/
theorem exists_place_of_endpoint? {inst : Instance} {ports : Option PortTable} {number : String}
    {endpoint : Endpoint} (hinst : inst.endpoints = endpoints (ports.getD []))
    (h : DeployTool.endpoint? inst number = some endpoint) :
    ∃ table key place others, ports = some table ∧ (key, some (place :: others)) ∈ table ∧
      numberPart key = number ∧ place.endpoint = endpoint := by
  unfold DeployTool.endpoint? at h
  cases hget : inst.endpoints.get? number with
  | none => simp [hget] at h
  | some found =>
    cases found with
    | nil => simp [hget] at h
    | cons first others =>
      simp only [hget, Option.some.injEq] at h
      subst h
      rw [hinst] at hget
      obtain ⟨key, places, hmem, hnumber, hplaces⟩ := exists_mem_of_get?_endpoints hget
      cases ports with
      | none => simp at hmem
      | some table =>
        cases places with
        | none => simp at hplaces
        | some places =>
          obtain ⟨place, rest, rfl, hplace, -⟩ := List.map_eq_cons_iff.mp hplaces
          exact ⟨table, key, place, rest, rfl, hmem, hnumber, hplace⟩

/-- The tool is run for a place that the inspection lists first for the number of the port, and the
request that is written last before that names the port of the host that this place has. -/
def RunsFor (tool : DeployTool) (internalAddress instanceId : String) (payload : Bytes)
    (port : Port) (log : List (Exchange (Surroundings interface))) (command : Workbench.Command)
    (limit : Nat) (outcome : Workbench.Outcome) : Prop :=
  ∃ table key place others, ⟨.inl (.inspect instanceId), .ok ⟨some table⟩⟩ ∈ log ∧
    (key, some (place :: others)) ∈ table ∧ numberPart key = port.digits ∧
    ∃ request requestPath outputPath contractPath, BindRequest.ofPayload payload = .ok request ∧
      command = tool.command requestPath outputPath contractPath ∧
      [⟨.inr (.inr (.write requestPath (DeployTool.requestBytes
          ("http://" ++ internalAddress ++ ":" ++ place.port.getD "") request.contractArgs))),
          .ok ()⟩,
        ⟨.inr (.inr (.create "deploy-output-" ".json")), .ok outputPath⟩,
        ⟨.inr (.inr (.run command limit)), outcome⟩] <:+: log

/-- A bind points the tool at a place that the inspection lists first for the number of the port. -/
structure PointsTool (tool : DeployTool) (internalAddress instanceId : String) (payload : Bytes)
    (port : Port) (log : List (Exchange (Surroundings interface)))
    (result : Except Failure Credentials) : Prop where
  /-- The tool is run for a listed place only, and told of its port. -/
  started : ∀ command limit outcome, ⟨.inr (.inr (.run command limit)), outcome⟩ ∈ log →
    RunsFor tool internalAddress instanceId payload port log command limit outcome
  /-- If no place is listed for the number, the port is missing, and the tool is not run. -/
  missing : ∀ inspection, ⟨.inl (.inspect instanceId), .ok inspection⟩ ∈ log →
    (∀ table key place others, inspection.ports = some table →
      (key, some (place :: others)) ∈ table → numberPart key ≠ port.digits) →
    result = .error (.portMissing port.digits) ∧
      ∀ command limit outcome, ⟨.inr (.inr (.run command limit)), outcome⟩ ∉ log

variable {catalog : Catalog} {serviceId planId instanceId bindingId : String} {payload : Bytes}
  {internalAddress externalAddress : String} {tool : DeployTool} {timeout : Nat}
  {outer : List (Exchange Broker.interface)} {log : List (Exchange (Surroundings interface))}
  {result : Except Failure Credentials} {plan : Plan} {port : Port}

/-- The tool is run only for a place that the inspection lists first for the number. -/
theorem pointsTool_started
    (course : Course catalog serviceId planId instanceId bindingId payload outer result)
    (spelled : Spelled
      (Setup.answer ⟨platform internalAddress externalAddress, tool, timeout⟩) outer log)
    (lookup : catalog.plan serviceId planId = .ok plan)
    (primary : plan.primaryPort? = some port.digits) {command : Workbench.Command} {limit : Nat}
    {outcome : Workbench.Outcome} (hrun : ⟨.inr (.inr (.run command limit)), outcome⟩ ∈ log) :
    RunsFor tool internalAddress instanceId payload port log command limit outcome := by
  obtain ⟨contract, inst, primaryPort, deployed, hdeploy, endpoint, requestPath, outputPath,
    hendpoint, hcommand, hwritten⟩ := exists_deploy_of_run spelled hrun
  obtain ⟨rfl, ⟨request, read, arguments⟩, hbound⟩ := course.of_deploy lookup primary hdeploy
  obtain ⟨inner, hinner, hinfix⟩ := spelled.exists_transcript hbound
  obtain ⟨said, hsaid, rfl⟩ := transcript_onPlatform_iff.mp hinner
  obtain ⟨inspection, rfl, rfl⟩ := exists_inspection hsaid
  obtain ⟨table, key, place, others, hports, hmem, hnumber, hplace⟩ :=
    exists_place_of_endpoint? rfl hendpoint
  obtain ⟨ports⟩ := inspection
  cases hports
  cases hplace
  refine ⟨table, key, place, others, hinfix.subset List.mem_cons_self, hmem, hnumber, request,
    requestPath, outputPath, contract.path, read, hcommand, ?_⟩
  rw [← arguments]
  exact hwritten

/-- If no place is listed for the number, the deployment finds none either. -/
theorem pointsTool_missing
    (course : Course catalog serviceId planId instanceId bindingId payload outer result)
    (spelled : Spelled
      (Setup.answer ⟨platform internalAddress externalAddress, tool, timeout⟩) outer log)
    (lookup : catalog.plan serviceId planId = .ok plan)
    (primary : plan.primaryPort? = some port.digits) {inspection : Inspection}
    (hinspect : ⟨.inl (.inspect instanceId), .ok inspection⟩ ∈ log)
    (hnone : ∀ table key place others, inspection.ports = some table →
      (key, some (place :: others)) ∈ table → numberPart key ≠ port.digits) :
    result = .error (.portMissing port.digits) ∧
      ∀ command limit outcome, ⟨.inr (.inr (.run command limit)), outcome⟩ ∉ log := by
  obtain ⟨bound, inner, houter, hinner, hsaid⟩ := exists_bind_of_left course spelled hinspect
  obtain ⟨inspected, rfl, rfl⟩ := transcript_bind hinner
  cases List.mem_singleton.mp hsaid
  obtain ⟨⟨contract, deployed, hdeploy, rfl⟩, hunique⟩ := course.of_bound lookup primary houter
  have hendpoint : DeployTool.endpoint?
      ⟨internalAddress, externalAddress, endpoints (inspection.ports.getD [])⟩ port.digits =
        none := by
    cases h : DeployTool.endpoint? _ _ with
    | none => rfl
    | some endpoint =>
      obtain ⟨table, key, place, others, hports, hmem, hnumber, -⟩ :=
        exists_place_of_endpoint? rfl h
      exact absurd hnumber (hnone table key place others hports hmem)
  constructor
  · obtain ⟨inner, hdeployed, -⟩ := spelled.exists_transcript hdeploy
    obtain ⟨said, hsaid, rfl⟩ := transcript_deploy_iff.mp hdeployed
    obtain ⟨-, rfl⟩ := (DeployTool.transcript_deploy hsaid).of_unreachable hendpoint
    rfl
  · intro command limit outcome hrun
    obtain ⟨contract', inst, primaryPort, deployed', hdeploy', endpoint, _, _, hendpoint', -⟩ :=
      exists_deploy_of_run spelled hrun
    obtain ⟨rfl, -, hbound⟩ := course.of_deploy lookup primary hdeploy'
    -- the platform has been asked once, so this is the instance without the endpoint
    rw [hunique inst hbound] at hendpoint'
    exact absurd (hendpoint.symm.trans hendpoint') (by simp)

/-- For every plan of a loaded catalog, a bind with Docker points the tool at a place that is listed
for the number of the plan's first port. -/
theorem bind_pointsTool {dir : String} {freshIds : Catalog.FreshIds}
    {listing : Except OsError Listing} {catalog : Catalog}
    (loaded : Catalog.load dir freshIds listing = .ok catalog) {serviceId planId : String}
    {plan : Plan} (lookup : catalog.plan serviceId planId = .ok plan) :
    ∃ first rest, Port.parseAll plan.ports = .ok (first :: rest) ∧
      ∀ internalAddress externalAddress tool timeout instanceId bindingId payload log result,
        Transcript (Setup.run ⟨platform internalAddress externalAddress, tool, timeout⟩
          (Broker.bind catalog serviceId planId instanceId bindingId payload)).run log result →
        PointsTool tool internalAddress instanceId payload first log result := by
  obtain ⟨first, rest, parsed⟩ := ((Catalog.runnable_of_load loaded).plan lookup).2.parseAll
  have primary : plan.primaryPort? = some first.digits := Plan.primaryPort?_eq parsed
  refine ⟨first, rest, parsed, fun _ _ _ _ instanceId _ _ _ _ run => ?_⟩
  obtain ⟨outer, hbind, spelled⟩ := transcript_run_iff.mp run
  have course := Broker.transcript_bind hbind
  exact
    { started := fun _ _ _ hrun => pointsTool_started course spelled lookup primary hrun
      missing := fun _ hinspect hnone =>
        pointsTool_missing course spelled lookup primary hinspect hnone }

/-! ### Tables without such a place -/

/-- A payload that names a contract. -/
def ethPayload : Bytes := Utf8.encode "\x7b\"contract_url\":\"http://[::1]/\"\x7d"

theorem ofPayload_eth : BindRequest.ofPayload ethPayload =
    .ok { contractUrl := some "http://[::1]/", contractArgs := [] } := by decide +kernel

/-- The URL of the contract. -/
def ethUrl : Url where
  scheme := "http".toList
  host := some (.ipv6 [0, 0, 0, 0, 0, 0, 0, 1])
  path := .segments [[]]

theorem check_ethUrl : Check.url "contract_url" "http://[::1]/" = .ok ethUrl := by decide +kernel

theorem isRequestable_ethUrl : Fetch.isRequestable ethUrl.withoutCredentials = true := by
  decide +kernel

theorem transcript_fetchBody_eth (outcome : Fetch.Outcome) :
    Transcript (Contract.fetchBody ethUrl 60000).run
      [⟨.inl ⟨ethUrl.withoutCredentials, 60000⟩, outcome⟩]
      (.ok (Fetch.body ethUrl.withoutCredentials outcome)) := by
  unfold Contract.fetchBody
  rw [if_pos isRequestable_ethUrl]
  exact .ask (.done _)

/-- What is said when the contract is downloaded. -/
def ethDownload : List (Exchange Contract.interface) :=
  [⟨.inr (.create "contract-" ".sol"), .ok "c.sol"⟩,
    ⟨.inl ⟨ethUrl.withoutCredentials, 60000⟩, .answered 200 (some [])⟩,
    ⟨.inr (.write "c.sol" []), .ok ()⟩]

theorem transcript_ethDownload :
    Transcript (Contract.download "http://[::1]/" 60000).run ethDownload (.ok "c.sol") := by
  unfold Contract.download
  rw [check_ethUrl, ofExcept_ok_bind]
  refine transcript_question_bind_iff.mpr ⟨.ok "c.sol", _, rfl, ?_⟩
  rw [ofExcept_ok_bind]
  refine transcript_attempt_bind_iff.mpr (.inr ⟨_, (), [], (List.append_nil _).symm, ?_, .done _⟩)
  refine transcript_followedBy_iff.mpr ⟨_, [], (List.append_nil _).symm, ?_, .done _⟩
  exact transcript_attempt_bind_iff.mpr
    (.inr ⟨_, .ok [], [⟨.inr (.write "c.sol" []), .ok ()⟩], rfl,
      transcript_fetchBody_eth (.answered 200 (some [])), .ask (.done _)⟩)

/-- The tool of the bind. -/
def ethTool : DeployTool where
  program := "node"
  script := "deploy.js"
  timeout := 1000

/-- The contract that is deployed. -/
def ethContract : Contract where
  url := "http://[::1]/"
  arguments := []
  path := "c.sol"

/-- What is said when the contract is deployed with a request. -/
def ethDeploy (request : Bytes) : List (Exchange Workbench.interface) :=
  [⟨.create "deploy-request-" ".json", .ok "r.json"⟩, ⟨.write "r.json" request, .ok ()⟩,
    ⟨.create "deploy-output-" ".json", .ok "o.json"⟩,
    ⟨.run (ethTool.command "r.json" "o.json" "c.sol") 1000, .timedOut⟩,
    ⟨.remove "o.json", ()⟩, ⟨.remove "r.json", ()⟩]

theorem transcript_ethDeploy {inst : Instance} {endpoint : Endpoint}
    (h : DeployTool.endpoint? inst "8545" = some endpoint) :
    Transcript (ethTool.deploy ethContract inst "8545").run
      (ethDeploy (DeployTool.requestBytes (DeployTool.provider inst endpoint) []))
      (.error (.toolTimedOut 1)) := by
  unfold DeployTool.deploy
  rw [h]
  refine Workbench.transcript_withFile_iff.mpr (.inr ⟨"r.json", [_, _, _, _], rfl, ?_⟩)
  refine transcript_question_bind_iff.mpr ⟨.ok (), [_, _, _], rfl, ?_⟩
  rw [ofExcept_ok_bind]
  refine Workbench.transcript_withFile_iff.mpr (.inr ⟨"o.json", [_], rfl, ?_⟩)
  exact .ask (.done _)

/-- The setup of the bind. -/
def ethSetup : Setup interface where
  platform := platform "127.0.0.1" "localhost"
  tool := ethTool

/-- A bind of the catalog with one service in which the daemon shows the table, and in which the
tool is run. -/
def RunsTool (table : PortTable) : Prop :=
  ∃ log result,
    Transcript (ethSetup.run (Broker.bind Catalog.ethCatalog "eth" "dev" "node" "binding"
      ethPayload)).run log result ∧
    ⟨.inl (.inspect "node"), .ok ⟨some table⟩⟩ ∈ log ∧
    ∃ command limit outcome, ⟨.inr (.inr (.run command limit)), outcome⟩ ∈ log

theorem transcript_bind_eth (inst : Instance) (e : Failure) :
    Transcript (Broker.bind Catalog.ethCatalog "eth" "dev" "node" "binding" ethPayload).run
      [⟨.download "http://[::1]/", .ok "c.sol"⟩, ⟨.bind "node" "binding", .ok inst⟩,
        ⟨.deploy ethContract inst "8545", .error e⟩, ⟨.discard "c.sol", ()⟩]
      (.error e) := by
  have hplan : Catalog.ethCatalog.plan "eth" "dev" = .ok Catalog.ethPlan := rfl
  have hport : Catalog.ethPlan.primaryPort? = some "8545" := by decide +kernel
  unfold Broker.bind
  rw [hplan, ofExcept_ok_bind, ofPayload_eth, ofExcept_ok_bind]
  refine transcript_question_bind_iff.mpr ⟨.ok "c.sol", [_, _, _], rfl, ?_⟩
  rw [ofExcept_ok_bind]
  refine transcript_followedBy_iff.mpr ⟨[_, _], [_], rfl, ?_, .ask (.done _)⟩
  unfold connect
  rw [hport]
  exact .ask (.ask (.done _))

/-- What is said in the bind when the daemon shows the table, and the contract is deployed with a
request. -/
def ethBind (table : PortTable) (request : Bytes) : List (Exchange (Surroundings interface)) :=
  let inspected : Exchange (Surroundings interface) := ⟨.inl (.inspect "node"), .ok ⟨some table⟩⟩
  ethDownload.map Exchange.inr ++
    ([inspected] ++ ((ethDeploy request).map atWorkbench ++ [⟨.inr (.inr (.remove "c.sol")), ()⟩]))

theorem transcript_run_eth {table : PortTable} {endpoint : Endpoint}
    (h : DeployTool.endpoint? ⟨"127.0.0.1", "localhost", endpoints table⟩ "8545" =
      some endpoint) :
    ∃ request, Transcript (ethSetup.run (Broker.bind Catalog.ethCatalog "eth" "dev" "node" "binding"
      ethPayload)).run (ethBind table request) (.error (.toolTimedOut 1)) := by
  have hdownload : Transcript (ethSetup.answer (.download "http://[::1]/")) _ (.ok "c.sol") :=
    transcript_besides_iff.mpr ⟨_, transcript_ethDownload, rfl⟩
  have hinspect : Transcript (bind "127.0.0.1" "localhost" "node").run
      [⟨.inspect "node", .ok ⟨some table⟩⟩] (.ok ⟨"127.0.0.1", "localhost", endpoints table⟩) :=
    .ask (.done _)
  have hbind : Transcript (ethSetup.answer (.bind "node" "binding")) _ _ :=
    transcript_onPlatform_iff.mpr ⟨_, hinspect, rfl⟩
  have hdeploy : Transcript (ethSetup.answer (.deploy ethContract _ "8545")) _ _ :=
    transcript_deploy_iff.mpr ⟨_, transcript_ethDeploy h, rfl⟩
  have hdiscard : Transcript (ethSetup.answer (.discard "c.sol")) _ () :=
    transcript_question_iff.mpr rfl
  exact ⟨_, transcript_run_iff.mpr ⟨_, transcript_bind_eth _ _,
    .cons hdownload (.cons hbind (.cons hdeploy (spelled_singleton_iff.mpr hdiscard)))⟩⟩

/-- The tool is run as soon as there is an endpoint under the number. -/
theorem runsTool_of_endpoint {table : PortTable} {endpoint : Endpoint}
    (h : DeployTool.endpoint? ⟨"127.0.0.1", "localhost", endpoints table⟩ "8545" =
      some endpoint) : RunsTool table := by
  obtain ⟨request, run⟩ := transcript_run_eth h
  refine ⟨_, _, run, ?_, ?_⟩
  · exact List.mem_append_right _ (List.mem_append_left _ List.mem_cons_self)
  · exact ⟨ethTool.command "r.json" "o.json" "c.sol", 1000, .timedOut,
      List.mem_append_right _ (List.mem_append_right _ (List.mem_append_left _
        (.tail _ (.tail _ (.tail _ (.head _))))))⟩

/-- A table with the port of the host for the first port of the plan. -/
def tcpTable : PortTable := [("8545/tcp", some [⟨some "0.0.0.0", some "49153"⟩])]

theorem bind_pointsTool_eth :
    ∃ log result, Transcript (ethSetup.run (Broker.bind Catalog.ethCatalog "eth" "dev" "node"
        "binding" ethPayload)).run log result ∧
      (∃ command limit outcome, ⟨.inr (.inr (.run command limit)), outcome⟩ ∈ log) ∧
      PointsTool ethTool "127.0.0.1" "node" ethPayload Catalog.ethPort log result := by
  obtain ⟨log, result, run, -, tool⟩ :=
    @runsTool_of_endpoint tcpTable ⟨"49153", "0.0.0.0"⟩ (by decide)
  obtain ⟨first, rest, parsed, points⟩ := bind_pointsTool Catalog.load_eth
    (show Catalog.ethCatalog.plan "eth" "dev" = .ok Catalog.ethPlan from rfl)
  rw [Catalog.parseAll_ethPlan] at parsed
  cases parsed
  exact ⟨log, result, run, tool, points _ _ _ _ _ _ _ _ _ run⟩

/-- A place of the host that the table lists first under the key of a port. -/
def HasPlace (table : PortTable) (port : Port) : Prop :=
  ∃ place others p, (port.key, some (place :: others)) ∈ table ∧ place.port = some p ∧ p ≠ ""

/-- A table with another protocol of the port. -/
def udpTable : PortTable := [("8545/udp", some [⟨some "0.0.0.0", some "49153"⟩])]

/-- A table in which the place of the port has no port of the host. -/
def portlessTable : PortTable := [("8545/tcp", some [⟨some "0.0.0.0", none⟩])]

/-- The tool is run where the table lists another protocol of the port only, and where the place
that it lists has no port of the host. -/
theorem runsTool_without_place :
    Catalog.load "services" (fun _ _ => "") (.ok Catalog.ethListing) = .ok Catalog.ethCatalog ∧
    Catalog.ethCatalog.plan "eth" "dev" = .ok Catalog.ethPlan ∧
    (∃ rest, Port.parseAll Catalog.ethPlan.ports = .ok (Catalog.ethPort :: rest)) ∧
    (RunsTool udpTable ∧ ¬HasPlace udpTable Catalog.ethPort) ∧
    (RunsTool portlessTable ∧ ¬HasPlace portlessTable Catalog.ethPort) := by
  refine ⟨Catalog.load_eth, rfl, ⟨_, Catalog.parseAll_ethPlan⟩, ⟨?_, ?_⟩, ?_, ?_⟩
  · exact @runsTool_of_endpoint udpTable ⟨"49153", "0.0.0.0"⟩ (by decide)
  · rintro ⟨place, others, p, hmem, -, -⟩
    have hkey : Catalog.ethPort.key = "8545/udp" :=
      congrArg Prod.fst (List.mem_singleton.mp hmem)
    exact absurd hkey (by decide)
  · exact @runsTool_of_endpoint portlessTable ⟨"", "0.0.0.0"⟩ (by decide)
  · rintro ⟨place, others, p, hmem, hplace, -⟩
    cases List.mem_singleton.mp hmem
    cases hplace

end Docker

end ChainBroker
