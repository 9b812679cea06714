import ChainBroker.Proofs.ToolRequest

/-!
# What comes of the deploy tool

When the files for it can be made, a deployment has one of seven ends, and which one it is follows
from four questions in a fixed order: is the port reachable, how has the tool ended, can its output
be read, and does the output say what has been deployed (`DeployTool.deploy_judged`).

The tool is started once for a port that is reachable, and never for another one. Its output is
looked at only after a success, so that a tool which fails is not believed, whatever it has written.
-/

namespace ChainBroker

open Dialogue Attempt

/-- Surroundings that answer every question always in one way lead to the transcript with these
answers. -/
theorem Dialogue.hold_of_transcript {I : Interface} {α : Type} {d : Dialogue I α}
    {log : List (Exchange I)} {a : α} (h : Transcript d log a)
    {answer : (q : I.Question) → I.Answer q} (answers : ∀ e ∈ log, e.2 = answer e.1) :
    d.hold (fun _ => answer) = (a, log) := by
  -- for any past, since that grows with every question
  have hrun : ∀ past, (d.interpret (Behaviour.answer fun _ => answer)).run past =
      (a, past ++ log) := by
    induction h with
    | done a =>
      intro past
      rw [List.append_nil]
      rfl
    | @ask q next given log a rest ih =>
      obtain ⟨hgiven, hrest⟩ := List.forall_mem_cons.mp answers
      obtain rfl : given = answer q := hgiven
      intro past
      have hnext := ih hrest (past ++ [⟨q, answer q⟩])
      rw [List.append_assoc] at hnext
      exact hnext
  exact hrun []

namespace Workbench

/-! ## Logs of a workbench -/

/-- No file has failed to be created or written. -/
structure MakesFiles (log : List (Exchange interface)) : Prop where
  created : ∀ start ending cause, ⟨.create start ending, .error cause⟩ ∉ log
  written : ∀ path content cause, ⟨.write path content, .error cause⟩ ∉ log

def isCreate : Exchange interface → Bool
  | ⟨.create _ _, _⟩ => true
  | _ => false

/-- Whether a program is run or a file is read. -/
def isUse : Exchange interface → Bool
  | ⟨.run _ _, _⟩ | ⟨.read _, _⟩ => true
  | _ => false

/-- A command is started once, and what is said then. One that holds a NUL cannot be started, and is
not even handed over. -/
inductive Started (command : Command) (limit : Nat) :
    List (Exchange interface) → Outcome → Prop where
  | refused (nul : command.holdsNul = true) : Started command limit [] (.notStarted .nulInArgument)
  | run (noNul : command.holdsNul = false) (outcome : Outcome) :
    Started command limit [⟨.run command limit, outcome⟩] outcome

end Workbench

namespace DeployTool

open Workbench

variable {tool : DeployTool} {contract : Contract} {inst : Instance} {port : String}
  {log : List (Exchange interface)} {r : Except Failure Deployment}

/-! ## Ends -/

/-- A port is reachable if the instance lists an endpoint under it. -/
def Reachable (inst : Instance) (port : String) : Prop :=
  ∃ endpoint others, inst.endpoints.get? port = some (endpoint :: others)

theorem endpoint?_eq_none_iff : endpoint? inst port = none ↔ ¬Reachable inst port := by
  unfold endpoint? Reachable
  cases hget : inst.endpoints.get? port with
  | none => simp
  | some found =>
    cases found with
    | nil => simp
    | cons endpoint others => simp

/-- What follows from the way in which the tool has ended: what is read of its output, and what the
deployment ends with. -/
inductive Verdict (tool : DeployTool) (outputPath : String) :
    Outcome → List (Exchange interface) → Except Failure Deployment → Prop where
  | notStarted (cause : OsError) :
    Verdict tool outputPath (.notStarted cause) [] (.error (.toolFailed "not started" cause.message))
  | timedOut :
    Verdict tool outputPath .timedOut [] (.error (.toolTimedOut (tool.timeout / 1000)))
  /-- The output is not read, even if there is a deployment in it. -/
  | failed {status : ExitStatus} (failure : status ≠ .code 0) (stdout stderr : Bytes) :
    Verdict tool outputPath (.ended status stdout stderr) []
      (.error (.toolFailed status.message (Utf8.decodeLossy stdout ++ Utf8.decodeLossy stderr)))
  | unreadable (stdout stderr : Bytes) (cause : OsError) :
    Verdict tool outputPath (.ended (.code 0) stdout stderr) [⟨.read outputPath, .error cause⟩]
      (.error (.outputUnreadable outputPath cause))
  | unparseable (stdout stderr : Bytes) {content : Bytes} {fault : Json.Fault}
      (decoded : Json.decode Deployment.reader (Utf8.pieces content) = .error fault) :
    Verdict tool outputPath (.ended (.code 0) stdout stderr) [⟨.read outputPath, .ok content⟩]
      (.error (.outputUnparseable fault (Utf8.decodeLossy content)))
  | deployed (stdout stderr : Bytes) {content : Bytes} {deployment : Deployment}
      (decoded : Json.decode Deployment.reader (Utf8.pieces content) = .ok deployment) :
    Verdict tool outputPath (.ended (.code 0) stdout stderr) [⟨.read outputPath, .ok content⟩]
      (.ok deployment)

/-- The time of a tool is told in the seconds of its settings. -/
theorem timeout_ofSettings (settings : ToolSettings) :
    (ofSettings settings).timeout / 1000 = settings.effectiveTimeoutSeconds :=
  Nat.mul_div_cancel _ (by decide)

theorem outcomeFailure?_ended (tool : DeployTool) (status : ExitStatus) (stdout stderr : Bytes) :
    tool.outcomeFailure? (.ended status stdout stderr) =
      if status = .code 0 then none
      else some (.toolFailed status.message
        (Utf8.decodeLossy stdout ++ Utf8.decodeLossy stderr)) := rfl

theorem verdict_of_outcomeFailure? {outputPath : String} {outcome : Outcome} {e : Failure}
    (h : tool.outcomeFailure? outcome = some e) :
    Verdict tool outputPath outcome [] (.error e) := by
  cases outcome with
  | notStarted cause =>
    cases h
    exact .notStarted cause
  | timedOut =>
    cases h
    exact .timedOut
  | ended status stdout stderr =>
    rw [outcomeFailure?_ended] at h
    by_cases hstatus : status = .code 0
    · rw [if_pos hstatus] at h
      cases h
    · rw [if_neg hstatus] at h
      cases h
      exact .failed hstatus stdout stderr

theorem exists_ended_of_outcomeFailure? {outcome : Outcome}
    (h : tool.outcomeFailure? outcome = none) :
    ∃ stdout stderr, outcome = .ended (.code 0) stdout stderr := by
  cases outcome with
  | notStarted | timedOut => cases h
  | ended status stdout stderr =>
    rw [outcomeFailure?_ended] at h
    by_cases hstatus : status = .code 0
    · exact ⟨stdout, stderr, by rw [hstatus]⟩
    · rw [if_neg hstatus] at h
      cases h

theorem verdict_readOutput (outputPath : String) (stdout stderr : Bytes)
    (content : Except OsError Bytes) :
    Verdict tool outputPath (.ended (.code 0) stdout stderr) [⟨.read outputPath, content⟩]
      (readOutput outputPath content) := by
  cases content with
  | error cause => exact .unreadable stdout stderr cause
  | ok content =>
    simp only [readOutput]
    cases hdecode : Json.decode Deployment.reader (Utf8.pieces content) with
    | error fault => exact .unparseable stdout stderr hdecode
    | ok deployment => exact .deployed stdout stderr hdecode

/-! ## Deployments whose files are made -/

/-- The tool is started once on its files, and the verdict on it is what the deployment ends with. -/
def Tried (tool : DeployTool) (contractPath requestPath outputPath : String)
    (log : List (Exchange interface)) (r : Except Failure Deployment) : Prop :=
  ∃ outcome started reads, log.filter isUse = started ++ reads ∧
    Started ⟨tool.program, [tool.script, "-c", requestPath, "-o", outputPath, contractPath]⟩
      tool.timeout started outcome ∧
    Verdict tool outputPath outcome reads r

theorem Used.tried {contractPath requestPath outputPath : String}
    (h : Used tool contractPath requestPath outputPath log r) :
    Tried tool contractPath requestPath outputPath log r := by
  cases h with
  | refused nul => exact ⟨_, [], [], rfl, .refused nul, .notStarted .nulInArgument⟩
  | failed noNul fails =>
    exact ⟨_, [_], [], rfl, .run noNul _, verdict_of_outcomeFailure? fails⟩
  | finished noNul succeeds content =>
    obtain ⟨stdout, stderr, rfl⟩ := exists_ended_of_outcomeFailure? succeeds
    exact ⟨_, [_], [_], rfl, .run noNul _, verdict_readOutput outputPath stdout stderr content⟩

/-- A tool that has been tried has succeeded exactly if it has ended in time with code zero and left
a deployment in its output. -/
theorem Tried.ok_iff {contractPath requestPath outputPath : String}
    (h : Tried tool contractPath requestPath outputPath log r) {deployment : Deployment} :
    r = .ok deployment ↔
      ∃ command stdout stderr content,
        log.filter isUse =
          [⟨.run command tool.timeout, .ended (.code 0) stdout stderr⟩,
            ⟨.read outputPath, .ok content⟩] ∧
        Json.decode Deployment.reader (Utf8.pieces content) = .ok deployment := by
  obtain ⟨outcome, runs, reads, huse, started, verdict⟩ := h
  rw [huse]
  constructor
  · rintro rfl
    cases verdict with
    | deployed stdout stderr decoded =>
      cases started with
      | run => exact ⟨_, stdout, stderr, _, rfl, decoded⟩
  · rintro ⟨command, stdout, stderr, content, hboth, decoded⟩
    cases started with
    | refused =>
      -- a tool that has been refused leaves no log
      cases verdict with
      | notStarted => cases hboth
    | run =>
      cases verdict with
      | unparseable _ _ decoded' =>
        cases hboth
        rw [decoded] at decoded'
        cases decoded'
      | deployed _ _ decoded' =>
        cases hboth
        rw [decoded] at decoded'
        cases decoded'
        rfl
      | notStarted | timedOut | failed | unreadable => cases hboth

/-- A tool of the settings that is not done in time has had the seconds of the settings. -/
theorem Tried.seconds_eq {contractPath requestPath outputPath : String} {settings : ToolSettings}
    {seconds : Nat}
    (h : Tried (ofSettings settings) contractPath requestPath outputPath log
      (.error (.toolTimedOut seconds))) : seconds = settings.effectiveTimeoutSeconds := by
  obtain ⟨outcome, started, reads, -, -, verdict⟩ := h
  cases verdict
  exact timeout_ofSettings settings

/-- Only what is said of running and of reading counts. -/
theorem Tried.congr {contractPath requestPath outputPath : String}
    {said : List (Exchange interface)}
    (h : Tried tool contractPath requestPath outputPath said r)
    (uses : log.filter isUse = said.filter isUse) :
    Tried tool contractPath requestPath outputPath log r := by
  unfold Tried
  rw [uses]
  exact h

theorem Used.filter_isCreate {contractPath requestPath outputPath : String}
    (h : Used tool contractPath requestPath outputPath log r) : log.filter isCreate = [] := by
  cases h <;> rfl

/-- What a deployment does and ends with when the files for the tool are made. -/
structure Judged (tool : DeployTool) (contract : Contract) (inst : Instance) (port : String)
    (log : List (Exchange interface)) (r : Except Failure Deployment) : Prop where
  /-- For a port that is not reachable nothing is done. -/
  unreachable : ¬Reachable inst port → log = [] ∧ r = .error (.portMissing port)
  /-- For a port that is reachable the tool is tried on the files that have been created. -/
  reachable : Reachable inst port → ∃ requestPath outputPath,
    log.filter isCreate =
      [⟨.create "deploy-request-" ".json", .ok requestPath⟩,
        ⟨.create "deploy-output-" ".json", .ok outputPath⟩] ∧
    Tried tool contract.path requestPath outputPath log r
  /-- There is no success but that of the tool, and it is what the output says. -/
  succeeds : ∀ deployment, r = .ok deployment ↔
    Reachable inst port ∧ ∃ outputPath command stdout stderr content,
      ⟨.create "deploy-output-" ".json", .ok outputPath⟩ ∈ log ∧
      log.filter isUse =
        [⟨.run command tool.timeout, .ended (.code 0) stdout stderr⟩,
          ⟨.read outputPath, .ok content⟩] ∧
      Json.decode Deployment.reader (Utf8.pieces content) = .ok deployment
  /-- If a tool of the settings is not done in time, that is told in the seconds of the settings. -/
  late : ∀ settings seconds, tool = ofSettings settings → r = .error (.toolTimedOut seconds) →
    seconds = settings.effectiveTimeoutSeconds

theorem judged_of_unreachable (unreachable : ¬Reachable inst port) :
    Judged tool contract inst port [] (.error (.portMissing port)) where
  unreachable _ := ⟨rfl, rfl⟩
  reachable h := absurd h unreachable
  succeeds deployment := by simp [unreachable]
  late := nofun

theorem judged_of_tried {requestPath outputPath : String} (reachable : Reachable inst port)
    (created : log.filter isCreate =
      [⟨.create "deploy-request-" ".json", .ok requestPath⟩,
        ⟨.create "deploy-output-" ".json", .ok outputPath⟩])
    (tried : Tried tool contract.path requestPath outputPath log r) :
    Judged tool contract inst port log r where
  unreachable h := absurd reachable h
  reachable _ := ⟨requestPath, outputPath, created, tried⟩
  succeeds deployment := by
    constructor
    · intro h
      obtain ⟨command, stdout, stderr, content, uses, decoded⟩ := tried.ok_iff.mp h
      have hmem : ⟨.create "deploy-output-" ".json", .ok outputPath⟩ ∈ log.filter isCreate := by
        rw [created]
        exact List.mem_cons_of_mem _ List.mem_cons_self
      exact ⟨reachable, outputPath, command, stdout, stderr, content, (List.mem_filter.mp hmem).1,
        uses, decoded⟩
    · -- the output that was read is the one that was created, for there is no other
      rintro ⟨-, path, command, stdout, stderr, content, hmem, uses, decoded⟩
      have hcreated := List.mem_filter.mpr ⟨hmem, show isCreate _ = true from rfl⟩
      rw [created] at hcreated
      obtain rfl : path = outputPath := by simpa using hcreated
      exact tried.ok_iff.mpr ⟨command, stdout, stderr, content, uses, decoded⟩
  late settings seconds htool hr := by
    rw [htool, hr] at tried
    exact tried.seconds_eq

theorem Deployed.judged (h : Deployed tool contract inst port log r) (files : MakesFiles log) :
    Judged tool contract inst port log r := by
  cases h with
  | unreachable h => exact judged_of_unreachable (endpoint?_eq_none_iff.mp h)
  | withoutRequest _ cause => exact absurd List.mem_cons_self (files.created _ _ cause)
  | @requested endpoint h requestPath said _ requested =>
    have reachable : Reachable inst port := by
      by_contra unreachable
      rw [endpoint?_eq_none_iff.mpr unreachable] at h
      cases h
    cases requested with
    | unwritten cause =>
      exact absurd (List.mem_cons_of_mem _ List.mem_cons_self)
        (files.written requestPath (requestBytes (provider inst endpoint) contract.arguments) cause)
    | withoutOutput cause => exact absurd (by simp) (files.created "deploy-output-" ".json" cause)
    | used outputPath used =>
      refine judged_of_tried reachable ?_ (used.tried.congr ?_)
      · rw [List.filter_append, List.filter_cons_of_pos rfl, List.filter_append,
          List.filter_cons_of_neg Bool.false_ne_true, List.filter_cons_of_pos rfl,
          used.filter_isCreate]
        rfl
      · simp [isUse]

/-- **What comes of a deployment follows from how the tool has ended and from its output.** Whatever
the surroundings do, as long as the files for the tool are made, the tool is started once if the port
is reachable and not at all otherwise; the deployment succeeds with what the output says if the tool
has ended in time with code zero, and otherwise fails for the first of the reasons that hold. -/
theorem deploy_judged (tool : DeployTool) (contract : Contract) (inst : Instance) (port : String)
    (surroundings : Behaviour interface) :
    let run := (tool.deploy contract inst port).run.hold surroundings
    MakesFiles run.2 → Judged tool contract inst port run.2 run.1 := by
  intro run files
  exact (transcript_deploy (transcript_hold surroundings _)).judged files

/-! ### A tool that fails after its work -/

/-- The output of a tool that has deployed a contract. -/
def deployedOutput : Bytes :=
  Utf8.encode ((Json.ofTexts [("address", "0xabc"), ("contract_address", "0xdef")]).render .compact)

theorem decode_deployedOutput :
    Json.decode Deployment.reader (Utf8.pieces deployedOutput) =
      .ok ⟨"0xabc", "", "0xdef", "", ""⟩ := by
  unfold deployedOutput
  rw [Utf8.pieces_encode]
  exact Deployment.decode_spelled (by decide) (by decide) (Json.spelledRecord_render .compact _)

/-- What a workbench answers where the tool leaves an output and exits with a code. -/
def exitsWith (code : Nat) : (call : Call) → call.Answer
  | .create start _ => .ok start
  | .write _ _ => .ok ()
  | .read _ => .ok deployedOutput
  | .remove _ => ()
  | .run _ _ => .ended (.code code) (Utf8.encode "mined, ") (Utf8.encode "not verified")

theorem hold_exitsWith :
    (nodeTool.deploy quoted singlePort "8545").run.hold (fun _ => exitsWith 3) =
      (.error (.toolFailed "exit status: 3" "mined, not verified"),
        [⟨.create "deploy-request-" ".json", .ok "deploy-request-"⟩,
          ⟨.write "deploy-request-" (requestBytes "http://127.0.0.1:1234" quoted.arguments),
            .ok ()⟩,
          ⟨.create "deploy-output-" ".json", .ok "deploy-output-"⟩,
          ⟨.run (nodeTool.command "deploy-request-" "deploy-output-" "/tmp/poll.sol") 60000,
            .ended (.code 3) (Utf8.encode "mined, ") (Utf8.encode "not verified")⟩,
          ⟨.remove "deploy-output-", ()⟩, ⟨.remove "deploy-request-", ()⟩]) := by
  have hendpoint : endpoint? singlePort "8545" = some { port := "1234" } := by decide
  have noNul : (nodeTool.command "deploy-request-" "deploy-output-" "/tmp/poll.sol").holdsNul =
      false := by decide
  have hfails : nodeTool.outcomeFailure?
      (.ended (.code 3) (Utf8.encode "mined, ") (Utf8.encode "not verified")) =
        some (.toolFailed "exit status: 3" "mined, not verified") := by decide +kernel
  refine hold_of_transcript ?_ (by simp [exitsWith])
  unfold deploy
  rw [hendpoint]
  refine Workbench.transcript_withFile_iff.mpr (.inr ⟨"deploy-request-", [_, _, _, _], rfl, ?_⟩)
  refine transcript_question_bind_iff.mpr ⟨.ok (), [_, _, _], rfl, ?_⟩
  rw [ofExcept_ok_bind]
  refine Workbench.transcript_withFile_iff.mpr (.inr ⟨"deploy-output-", [_], rfl, ?_⟩)
  unfold runOn Workbench.run
  rw [show quoted.path = "/tmp/poll.sol" from rfl, noNul, if_neg Bool.false_ne_true]
  refine transcript_question_bind_iff.mpr ⟨_, [], rfl, ?_⟩
  simp only [hfails]
  exact .done _

/-- The output of the tool is a deployment, but the tool has failed. -/
theorem exitsWith_judged :
    Json.decode Deployment.reader (Utf8.pieces deployedOutput) =
      .ok ⟨"0xabc", "", "0xdef", "", ""⟩ ∧
    let run := (nodeTool.deploy quoted singlePort "8545").run.hold fun _ => exitsWith 3
    Judged nodeTool quoted singlePort "8545" run.2 run.1 ∧
      run.1 = .error (.toolFailed "exit status: 3" "mined, not verified") := by
  refine ⟨decode_deployedOutput, ?_, by rw [hold_exitsWith]⟩
  refine deploy_judged nodeTool quoted singlePort "8545" (fun _ => exitsWith 3) ?_
  rw [hold_exitsWith]
  constructor <;> simp

end DeployTool

end ChainBroker
