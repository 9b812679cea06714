import ChainBroker.Proofs.Deployment
import ChainBroker.Proofs.JsonSpelling
import ChainBroker.Proofs.Table
import ChainBroker.Proofs.World

/-!
# What the deploy tool is told

The tool finds in its request file where the node is, an empty password and the arguments of the
contract, whatever these hold (`toldBy_requestBytes`). What it puts out may be written in any way
and with its members in any order (`Deployment.decode_spelled`).

Both come together on a bench with files, where a tool works on the files that it is given
(`Workbench.bench`): a tool that answers with what it has been told is believed
(`DeployTool.deploy_echo`).
-/

namespace ChainBroker

open Dialogue Attempt Json

/-! ## Requests -/

/-- What a deploy tool is told in its request file. -/
structure ToolRequest where
  /-- Where it reaches the node. -/
  provider : String
  /-- The password of the account. -/
  password : String
  /-- The arguments of the constructor. -/
  arguments : List String
deriving DecidableEq

namespace ToolRequest

/-- The fields that have been read. -/
structure Draft where
  /-- Where the node is reached. -/
  provider : Option String := none
  password : Option String := none
  arguments : Option (List String) := none

/-- The fields of a request, all of which are needed. -/
def shape : Shape Draft where
  title := "struct DeployRequest"
  fields :=
    [.of "provider" .required textValue Draft.provider fun d x => { d with provider := some x },
      .of "password" .required textValue Draft.password fun d x => { d with password := some x },
      .of "args" .required (listOf textValue) Draft.arguments
        fun d x => { d with arguments := some x }]

/-- Reads a request. -/
def reader : Reader ToolRequest := fun s =>
  (recordOf shape {} s).map fun t =>
    t.map fun d => ⟨d.provider.getD "", d.password.getD "", d.arguments.getD []⟩

/-- The content of a file is an object that is read as the request. -/
structure ToldBy (request : ToolRequest) (content : Bytes) : Prop where
  /-- It is an object. -/
  object : ∃ members, content = Utf8.encode ((Json.record members).render .compact)
  /-- It says what the request says. -/
  decoded : decode reader (Utf8.pieces content) = .ok request

theorem reads_request (provider : String) (arguments : List String) :
    Reads reader (DeployTool.request provider arguments) ⟨provider, "", arguments⟩ := by
  have hfills : Fills shape {}
      [("provider", .text provider), ("password", .text ""), ("args", texts arguments)]
      ⟨some provider, some "", some arguments⟩ := by
    refine .cons rfl rfl (reads_field (reads_text provider) _) ?_
    refine .cons rfl rfl (reads_field (reads_text "") _) ?_
    exact .cons rfl rfl (reads_field (reads_texts arguments) _) (.nil rfl)
  exact (reads_record hfills).map _

/-- The bytes that a deployment writes tell the tool of the node and the arguments. -/
theorem toldBy_requestBytes (provider : String) (arguments : List String) :
    ToldBy ⟨provider, "", arguments⟩ (DeployTool.requestBytes provider arguments) where
  object := ⟨_, rfl⟩
  decoded := by
    unfold DeployTool.requestBytes
    rw [Utf8.pieces_encode]
    exact (reads_request provider arguments).decode .compact

end ToolRequest

/-! ## Answers -/

namespace Deployment

/-- The names of the members of a deployment. -/
def names : List String := ["address", "abi", "contract_address", "gas_price", "transaction_hash"]

/-- What a draft has under a name. -/
def Draft.get (d : Draft) (name : String) : Option String :=
  match name with
  | "address" => d.account
  | "abi" => d.interface
  | "contract_address" => d.contractAddress
  | "gas_price" => d.gasPrice
  | "transaction_hash" => d.transactionHash
  | _ => none

/-- A draft with what named texts add to it. -/
def Draft.fill (d : Draft) (ms : List (String × String)) : Draft where
  account := d.account.or (ms.lookup "address")
  interface := d.interface.or (ms.lookup "abi")
  contractAddress := d.contractAddress.or (ms.lookup "contract_address")
  gasPrice := d.gasPrice.or (ms.lookup "gas_price")
  transactionHash := d.transactionHash.or (ms.lookup "transaction_hash")

/-- Each name has a field, into which a text is put. -/
theorem exists_field {name : String} (known : name ∈ names) :
    ∃ need get put,
      shape.fields.find? (·.name == name) = some (.of name need textValue get put) ∧
      (∀ d, get d = d.get name) ∧
      (∀ d text other, other ≠ name → (put d text).get other = d.get other) ∧
      ∀ d text ms, d.get name = none → (put d text).fill ms = d.fill ((name, text) :: ms) := by
  simp only [names, List.mem_cons, List.not_mem_nil, or_false] at known
  rcases known with rfl | rfl | rfl | rfl | rfl
  all_goals
    refine ⟨_, _, _, rfl, fun _ => rfl, fun d text other hne => ?_, fun d text ms hfree => ?_⟩
    · unfold Draft.get
      split <;> simp_all
    · simp only [Draft.get] at hfree
      simp [Draft.fill, lookup_cons_eq_ite, hfree]

/-- Texts under distinct names fill a draft that has nothing under these names. -/
theorem fillsTexts_fill {ms : List (String × String)} {d : Draft}
    (distinct : (ms.map Prod.fst).Nodup) (known : ∀ name ∈ ms.map Prod.fst, name ∈ names)
    (free : ∀ name ∈ ms.map Prod.fst, d.get name = none) : FillsTexts shape d ms (d.fill ms) := by
  induction ms generalizing d with
  | nil =>
    have hfill : d.fill [] = d := by simp [Draft.fill]
    rw [hfill]
    exact .nil rfl
  | cons m ms ih =>
    obtain ⟨name, text⟩ := m
    rw [List.map_cons, List.nodup_cons] at distinct
    obtain ⟨hname, hknown⟩ := List.forall_mem_cons.mp known
    obtain ⟨hfree, hothers⟩ := List.forall_mem_cons.mp free
    obtain ⟨need, get, put, found, hget, hput, hfill⟩ := exists_field hname
    rw [← hfill d text ms hfree]
    refine .cons found ((hget d).trans hfree) (ih distinct.2 hknown fun other hother => ?_)
    have hne : other ≠ name := fun h => distinct.1 (h ▸ hother)
    rw [hput d text other hne]
    exact hothers other hother

/-- However a record of known members is written, each of them is found, and those that are left out
are empty. -/
theorem decode_spelled {ms : List (String × String)} (distinct : (ms.map Prod.fst).Nodup)
    (known : ∀ name ∈ ms.map Prod.fst, name ∈ names) {document : String}
    (h : SpelledRecord ms document) :
    decode reader (Utf8.ofText document) = .ok
      { account := (ms.lookup "address").getD "", interface := (ms.lookup "abi").getD ""
        contractAddress := (ms.lookup "contract_address").getD ""
        gasPrice := (ms.lookup "gas_price").getD ""
        transactionHash := (ms.lookup "transaction_hash").getD "" } := by
  have hfills : FillsTexts shape {} ms (Draft.fill {} ms) :=
    fillsTexts_fill distinct known fun name _ => by unfold Draft.get; split <;> rfl
  unfold reader
  rw [decode_map, recordOf_spelled h hfills]
  simp [Draft.fill, Except.map]

end Deployment

/-! ## A bench with files -/

namespace Workbench

/-- What is left to chance at a bench. -/
structure Choice where
  /-- The middle of the name of a new file. -/
  middle : String
  /-- It has nothing but letters and digits. -/
  alphanumeric : middle.toList.all Char.isAlphanum = true
  /-- What a tool prints. -/
  stdout : Bytes
  /-- What it prints about errors. -/
  stderr : Bytes

/-- The path of a new file in a directory. -/
def newPath (dir start ending : String) (choice : Choice) : String :=
  dir ++ "/" ++ start ++ choice.middle ++ ending

/-- What comes of a question at a bench where temporary files are kept in a directory. A tool works
on the file after its first option, and puts out the file after its second one. -/
def serve (dir : String) (work : Command → Bytes → Bytes) (choice : Choice) :
    (call : Call) → Store Bytes → call.Answer × Store Bytes
  | .create start ending, files =>
    (.ok (newPath dir start ending choice),
      Function.update files (newPath dir start ending choice) (some []))
  | .write path content, files => (.ok (), Function.update files path (some content))
  | .read path, files =>
    match files path with
    | some content => (.ok content, files)
    | none => (.error .noSuchFile, files)
  | .remove path, files => ((), Function.update files path none)
  | .run command _, files =>
    match command.arguments with
    | [_, "-c", requestPath, "-o", outputPath, _] =>
      match files requestPath with
      | some content =>
        (.ended (.code 0) choice.stdout choice.stderr,
          Function.update files outputPath (some (work command content)))
      | none => (.ended (.code 1) choice.stdout choice.stderr, files)
    | _ => (.ended (.code 2) choice.stdout choice.stderr, files)

/-- A bench with files, and a tool that makes an output of a request. -/
abbrev bench (dir : String) (work : Command → Bytes → Bytes) : World interface where
  State := Store Bytes
  Chance := Choice
  react := serve dir work

section

variable {dir : String} {work : Command → Bytes → Bytes} {luck : Nat → Choice}
  {files : Store Bytes}

variable (dir work) in
theorem react_write (choice : Choice) (path : String) (content : Bytes) :
    (bench dir work).react choice (.write path content) files =
      (.ok (), Function.update files path (some content)) := rfl

variable (dir work) in
/-- A tool that finds its request succeeds. -/
theorem react_run {requestPath : String} {content : Bytes}
    (found : files requestPath = some content) (choice : Choice) (tool : DeployTool)
    (outputPath contractPath : String) (timeout : Nat) :
    (bench dir work).react choice (.run (tool.command requestPath outputPath contractPath) timeout)
        files =
      (.ended (.code 0) choice.stdout choice.stderr,
        Function.update files outputPath
          (some (work (tool.command requestPath outputPath contractPath) content))) := by
  simp [serve, DeployTool.command, found]

variable (dir work) in
theorem react_read {path : String} {content : Bytes} (found : files path = some content)
    (choice : Choice) :
    (bench dir work).react choice (.read path) files = (.ok content, files) := by
  simp [serve, found]

/-- What comes of the use of a temporary file does not depend on its removal. -/
theorem hold_withFile_fst {α : Type} (start ending : String)
    (use : String → Attempt interface Failure α) :
    ((bench dir work).hold (withFile start ending use).run luck files).1 =
      ((bench dir work).hold (use (newPath dir start ending (luck 0))).run (fun n => luck (n + 1))
        (Function.update files (newPath dir start ending (luck 0)) (some []))).1 := by
  unfold withFile ask
  rw [World.hold_question_bind rfl]
  exact World.hold_followedBy_fst ..

/-- Files whose names start apart are apart. -/
theorem newPath_ne (choice choice' : Choice) :
    newPath dir "deploy-request-" ".json" choice ≠
      newPath dir "deploy-output-" ".json" choice' := by
  intro h
  have hlist := congrArg String.toList h
  simp [newPath, String.toList_append] at hlist

end

end Workbench

namespace DeployTool

open Workbench

/-- Nothing that the tool is called with holds a NUL, so that the command can be run at all. -/
structure Callable (tool : DeployTool) (contract : Contract) (dir : String) : Prop where
  program : '\x00' ∉ tool.program.toList
  script : '\x00' ∉ tool.script.toList
  contract : '\x00' ∉ contract.path.toList
  directory : '\x00' ∉ dir.toList

variable {tool : DeployTool} {contract : Contract} {dir : String}

theorem Callable.nul_notMem_newPath (h : Callable tool contract dir) {start : String}
    (hstart : '\x00' ∉ start.toList) (choice : Choice) :
    '\x00' ∉ (newPath dir start ".json" choice).toList := by
  intro hmem
  simp only [newPath, String.toList_append, List.mem_append] at hmem
  rcases hmem with (((hmem | hmem) | hmem) | hmem) | hmem
  · exact h.directory hmem
  · revert hmem; decide
  · exact hstart hmem
  · exact absurd (List.all_eq_true.mp choice.alphanumeric _ hmem) (by decide)
  · revert hmem; decide

theorem Callable.holdsNul_eq_false (h : Callable tool contract dir) (choice choice' : Choice) :
    (tool.command (newPath dir "deploy-request-" ".json" choice)
      (newPath dir "deploy-output-" ".json" choice') contract.path).holdsNul = false := by
  simp [Command.holdsNul, command, h.program, h.script, h.contract, h.nul_notMem_newPath]

/-- The tool answers every request that it can read with an account that is the address of the node,
an interface that is the password, and the address of a contract. -/
def Echoes (work : Command → Bytes → Bytes) (contractAddress : String) : Prop :=
  ∀ command content request,
    decode ToolRequest.reader (Utf8.pieces content) = .ok request →
    ∃ members document,
      members.Perm [("address", request.provider), ("abi", request.password),
        ("contract_address", contractAddress)] ∧
      SpelledRecord members document ∧ work command content = Utf8.encode document

/-- An answer is read as what the tool has been told. -/
theorem Echoes.readOutput {work : Command → Bytes → Bytes} {contractAddress : String}
    (echoes : Echoes work contractAddress) {request : ToolRequest} {content : Bytes}
    (told : request.ToldBy content) (command : Command) (path : String) :
    readOutput path (.ok (work command content)) =
      .ok ⟨request.provider, request.password, contractAddress, "", ""⟩ := by
  obtain ⟨members, document, hperm, hspelled, hwork⟩ :=
    echoes command content request told.decoded
  have hnames : (members.map Prod.fst).Perm ["address", "abi", "contract_address"] :=
    hperm.map Prod.fst
  have distinct : (members.map Prod.fst).Nodup := hnames.nodup_iff.mpr (by decide)
  have known : ∀ name ∈ members.map Prod.fst, name ∈ Deployment.names := by
    simp [hnames.mem_iff, Deployment.names]
  have found : ∀ name text, (name, text) ∈ members → members.lookup name = some text :=
    fun name text => lookup_eq_some_of_mem distinct
  have missing : ∀ name, name ∉ members.map Prod.fst → members.lookup name = none := by
    intro name hname
    rw [List.lookup_eq_none_iff]
    intro member hmember
    exact bne_iff_ne.mpr fun h => hname (List.mem_map.mpr ⟨member, hmember, h.symm⟩)
  -- three of the names are given, and those that are not come out empty
  have hdecode := Deployment.decode_spelled distinct known hspelled
  rw [found "address" request.provider (by simp [hperm.mem_iff]),
    found "abi" request.password (by simp [hperm.mem_iff]),
    found "contract_address" contractAddress (by simp [hperm.mem_iff]),
    missing "gas_price" (by simp [hnames.mem_iff]),
    missing "transaction_hash" (by simp [hnames.mem_iff])] at hdecode
  show (decode Deployment.reader (Utf8.pieces (work command content))).mapError _ = _
  rw [hwork, Utf8.pieces_encode, hdecode]
  rfl

variable {work : Command → Bytes → Bytes} {luck : Nat → Choice} {files : Store Bytes}

/-- A tool that finds its request is believed. -/
theorem hold_runOn {contractPath requestPath outputPath : String} {content : Bytes}
    (noNul : (tool.command requestPath outputPath contractPath).holdsNul = false)
    (found : files requestPath = some content) :
    ((bench dir work).hold (tool.runOn contractPath requestPath outputPath).run luck files).1 =
      readOutput outputPath
        (.ok (work (tool.command requestPath outputPath contractPath) content)) := by
  unfold runOn Workbench.run
  rw [noNul, if_neg Bool.false_ne_true]
  unfold Workbench.ask
  rw [World.hold_question_bind (react_run dir work found (luck 0) ..)]
  have hsucceeds :
      tool.outcomeFailure? (.ended (.code 0) (luck 0).stdout (luck 0).stderr) = none := by
    unfold outcomeFailure?
    exact if_pos rfl
  simp only [hsucceeds]
  rw [World.hold_question_bind (react_read dir work (Function.update_self ..) (luck 1))]
  show (readOutput _ _).mapError id = _
  rw [mapError_id]

/-- What a deployment at a bench comes to. -/
theorem hold_deploy {inst : Instance} {port : String} {endpoint : Endpoint}
    (reachable : endpoint? inst port = some endpoint) (callable : Callable tool contract dir) :
    ∃ path command, ((bench dir work).hold (tool.deploy contract inst port).run luck files).1 =
      readOutput path
        (.ok (work command (requestBytes (provider inst endpoint) contract.arguments))) := by
  unfold deploy
  simp only [reachable]
  rw [hold_withFile_fst]
  unfold Workbench.ask
  rw [World.hold_question_bind (react_write dir work (luck 1) ..), ofExcept_ok_bind,
    hold_withFile_fst]
  refine ⟨_, _, hold_runOn (callable.holdsNul_eq_false (luck 0) (luck 2)) ?_⟩
  -- the file for the output is another one than that of the request
  rw [Function.update_of_ne (newPath_ne _ _), Function.update_self]
  rfl

/-- **A request reaches the tool unchanged, and the tool is believed.** Whatever the surroundings
do, a file for the request is created first and the request is written into it; nothing that is
written tells the tool anything else, and the tool is run on what has been written. At a bench where
the tool answers with what it has been told, that is what a deployment comes to. -/
theorem deploy_roundtrip {inst : Instance} {port : String} {endpoint : Endpoint}
    {others : List Endpoint} (reachable : inst.endpoints.get? port = some (endpoint :: others))
    (tool : DeployTool) (contract : Contract) :
    let provider := "http://" ++ inst.internalAddress ++ ":" ++ endpoint.port
    let request : ToolRequest := ⟨provider, "", contract.arguments⟩
    (∀ surroundings : Behaviour interface,
      let log := ((tool.deploy contract inst port).run.hold surroundings).2
      (∃ created rest, log = ⟨.create "deploy-request-" ".json", created⟩ :: rest ∧
        ∀ path, created = .ok path →
          ∃ content written more, rest = ⟨.write path content, written⟩ :: more) ∧
      (∀ path content written, ⟨.write path content, written⟩ ∈ log → request.ToldBy content) ∧
      ∀ command limit outcome, ⟨.run command limit, outcome⟩ ∈ log →
        ∃ requestPath content outputPath, request.ToldBy content ∧
          command = tool.command requestPath outputPath contract.path ∧
          [⟨.write requestPath content, .ok ()⟩,
            ⟨.create "deploy-output-" ".json", .ok outputPath⟩,
            ⟨.run command limit, outcome⟩] <:+: log) ∧
    ∀ (dir : String) (work : Command → Bytes → Bytes) (contractAddress : String)
      (luck : Nat → Choice) (files : Store Bytes),
      Echoes work contractAddress → Callable tool contract dir →
        ((bench dir work).hold (tool.deploy contract inst port).run luck files).1 =
          .ok ⟨provider, "", contractAddress, "", ""⟩ := by
  intro provider request
  have hendpoint : endpoint? inst port = some endpoint := by
    unfold endpoint?
    rw [reachable]
  have told : request.ToldBy (requestBytes provider contract.arguments) :=
    ToolRequest.toldBy_requestBytes provider contract.arguments
  refine ⟨fun surroundings => ?_, fun dir work contractAddress luck files echoes callable => ?_⟩
  · have course := transcript_deploy
      (transcript_hold surroundings (tool.deploy contract inst port).run)
    obtain ⟨⟨created, rest, hlog, hwritten⟩, honly⟩ := course.requests hendpoint
    refine ⟨⟨created, rest, hlog, fun path hpath => ⟨_, hwritten path hpath⟩⟩, ?_, ?_⟩
    · intro path content written hmem
      rw [honly path content written hmem]
      exact told
    · intro command limit outcome hrun
      obtain ⟨endpoint', requestPath, outputPath, hendpoint', hcommand, hinfix⟩ := course.run hrun
      rw [hendpoint] at hendpoint'
      cases hendpoint'
      exact ⟨requestPath, _, outputPath, told, hcommand, hinfix⟩
  · -- with a tool that echoes, what is read is what the request told it
    obtain ⟨path, command, hdeploy⟩ := hold_deploy hendpoint callable
    rw [hdeploy]
    exact echoes.readOutput told command path

/-! ### A tool that lays its answer out -/

/-- An instance with one port. -/
def singlePort : Instance where
  internalAddress := "127.0.0.1"
  externalAddress := "12.34.56.78"
  endpoints := Table.ofList [("8545", [{ port := "1234" }, { port := "4321" }])]

/-- A contract whose arguments have to be escaped. -/
def quoted : Contract where
  url := "http://example.com/poll.sol"
  arguments := ["say \"hi\"", "a\nb\\", ""]
  path := "/tmp/poll.sol"

/-- The tool of a broker. -/
def nodeTool : DeployTool := ⟨"node", "pusher.js", 60000⟩

/-- Answers in an order of its own. -/
def layOut (_ : Command) (content : Bytes) : Bytes :=
  match decode ToolRequest.reader (Utf8.pieces content) with
  | .ok request =>
    Utf8.encode ((ofTexts [("contract_address", "0xc0ffee"), ("abi", request.password),
      ("address", request.provider)]).render .indented)
  | .error _ => []

theorem echoes_layOut : Echoes layOut "0xc0ffee" := by
  intro command content request hdecode
  refine ⟨_, _, List.reverse_perm _, spelledRecord_render .indented _, ?_⟩
  unfold layOut
  rw [hdecode]
  rfl

/-- What happens to be chosen at a bench. -/
def someChoice : Choice where
  middle := "Zb4T1x"
  alphanumeric := by decide
  stdout := [100, 111, 110, 101]
  stderr := []

theorem quoted_roundtrip :
    ((bench "/tmp" layOut).hold (nodeTool.deploy quoted singlePort "8545").run
      (fun _ => someChoice) .empty).1 = .ok ⟨"http://127.0.0.1:1234", "", "0xc0ffee", "", ""⟩ := by
  have reachable :
      singlePort.endpoints.get? "8545" = some [{ port := "1234" }, { port := "4321" }] := by decide
  have callable : Callable nodeTool quoted "/tmp" := ⟨by decide, by decide, by decide, by decide⟩
  exact (deploy_roundtrip reachable nodeTool quoted).2 "/tmp" layOut "0xc0ffee" _ _ echoes_layOut
    callable

end DeployTool

end ChainBroker
