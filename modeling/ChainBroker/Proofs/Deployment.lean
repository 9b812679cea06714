import ChainBroker.Contract.Deployment
import ChainBroker.Proofs.Dialogue

/-!
# The course of a deployment

A deployment writes a request, runs the tool and reads what it has put out. Both files are removed
at the end, the output before the request.

* `Workbench.transcript_withFile_iff`: the use of a temporary file.
* `DeployTool.Used` lists the ways in which the tool is run on files that are there, and
  `DeployTool.Deployed` the courses of a whole deployment.
* `DeployTool.transcript_deploy`: there are no others.
-/

namespace ChainBroker

open Dialogue Attempt

/-! ## Temporary files -/

/-- A temporary file is removed after its use, whatever has come of it. -/
theorem Workbench.transcript_withFile_iff {α : Type} {start ending : String}
    {use : String → Attempt interface Failure α} {log : List (Exchange interface)}
    {r : Except Failure α} :
    Transcript (withFile start ending use).run log r ↔
      (∃ cause, log = [⟨.create start ending, .error cause⟩] ∧ r = .error (.file cause)) ∨
        ∃ path said, log = ⟨.create start ending, .ok path⟩ :: said ++ [⟨.remove path, ()⟩] ∧
          Transcript (use path).run said r := by
  unfold withFile
  constructor
  · intro h
    obtain ⟨created, rest, rfl, h1⟩ := transcript_question_bind_iff.mp h
    cases created with
    | error cause =>
      rw [ofExcept_error_bind] at h1
      obtain ⟨rfl, rfl⟩ := transcript_throw_iff.mp h1
      exact .inl ⟨cause, rfl, rfl⟩
    | ok path =>
      rw [ofExcept_ok_bind] at h1
      obtain ⟨said, removed, rfl, h2, h3⟩ := transcript_followedBy_iff.mp h1
      rw [transcript_question_iff.mp h3]
      exact .inr ⟨path, said, rfl, h2⟩
  · intro h
    refine transcript_question_bind_iff.mpr ?_
    rcases h with ⟨cause, rfl, rfl⟩ | ⟨path, said, rfl, h1⟩
    · exact ⟨.error cause, [], rfl, transcript_throw_iff.mpr ⟨rfl, rfl⟩⟩
    · refine ⟨.ok path, said ++ [⟨.remove path, ()⟩], rfl, ?_⟩
      exact transcript_followedBy_iff.mpr ⟨said, _, rfl, h1, transcript_question_iff.mpr rfl⟩

namespace DeployTool

variable {tool : DeployTool} {log : List (Exchange Workbench.interface)}
  {r : Except Failure Deployment}

/-! ## The tool -/

/-- What is said when the tool is run on files that are there. -/
inductive Used (tool : DeployTool) (contractPath requestPath outputPath : String) :
    List (Exchange Workbench.interface) → Except Failure Deployment → Prop where
  /-- The command is one that cannot be run. -/
  | refused (nul : (tool.command requestPath outputPath contractPath).holdsNul = true) :
    Used tool contractPath requestPath outputPath []
      (.error (.toolFailed "not started" OsError.nulInArgument.message))
  /-- The tool does not succeed. -/
  | failed (noNul : (tool.command requestPath outputPath contractPath).holdsNul = false)
      {outcome : Workbench.Outcome} {e : Failure}
      (outcome_fails : tool.outcomeFailure? outcome = some e) :
    Used tool contractPath requestPath outputPath
      [⟨.run (tool.command requestPath outputPath contractPath) tool.timeout, outcome⟩] (.error e)
  /-- The tool succeeds, and its output is read. -/
  | finished (noNul : (tool.command requestPath outputPath contractPath).holdsNul = false)
      {outcome : Workbench.Outcome} (outcome_succeeds : tool.outcomeFailure? outcome = none)
      (content : Except OsError Bytes) :
    Used tool contractPath requestPath outputPath
      [⟨.run (tool.command requestPath outputPath contractPath) tool.timeout, outcome⟩,
        ⟨.read outputPath, content⟩]
      (readOutput outputPath content)

theorem transcript_runOn {contractPath requestPath outputPath : String}
    (h : Transcript (tool.runOn contractPath requestPath outputPath).run log r) :
    Used tool contractPath requestPath outputPath log r := by
  unfold runOn Workbench.run at h
  cases hnul : (tool.command requestPath outputPath contractPath).holdsNul with
  | true =>
    rw [hnul, if_pos rfl, pure_bind] at h
    obtain ⟨rfl, rfl⟩ := transcript_throw_iff.mp h
    exact .refused hnul
  | false =>
    rw [hnul, if_neg Bool.false_ne_true] at h
    obtain ⟨outcome, rest, rfl, h1⟩ := transcript_question_bind_iff.mp h
    cases hfails : tool.outcomeFailure? outcome with
    | some e =>
      simp only [hfails] at h1
      obtain ⟨rfl, rfl⟩ := transcript_throw_iff.mp h1
      exact .failed hnul hfails
    | none =>
      simp only [hfails] at h1
      obtain ⟨content, rest, rfl, h2⟩ := transcript_question_bind_iff.mp h1
      obtain ⟨rfl, rfl⟩ := transcript_ofExcept_iff.mp h2
      rw [mapError_id]
      exact .finished hnul hfails content

/-! ## Whole deployments -/

/-- The bytes of a request file. -/
def requestBytes (provider : String) (arguments : List String) : Bytes :=
  Utf8.encode ((request provider arguments).render .compact)

/-- What is said when a request is there to be written. -/
inductive Requested (tool : DeployTool) (contractPath : String) (content : Bytes) (path : String) :
    List (Exchange Workbench.interface) → Except Failure Deployment → Prop where
  /-- The request cannot be written. -/
  | unwritten (cause : OsError) :
    Requested tool contractPath content path [⟨.write path content, .error cause⟩]
      (.error (.file cause))
  /-- There is no file for the output. -/
  | withoutOutput (cause : OsError) :
    Requested tool contractPath content path
      [⟨.write path content, .ok ()⟩, ⟨.create "deploy-output-" ".json", .error cause⟩]
      (.error (.file cause))
  /-- The tool is used. -/
  | used (output : String) {said : List (Exchange Workbench.interface)}
      {result : Except Failure Deployment} (used : Used tool contractPath path output said result) :
    Requested tool contractPath content path
      (⟨.write path content, .ok ()⟩ :: ⟨.create "deploy-output-" ".json", .ok output⟩ ::
        said ++ [⟨.remove output, ()⟩])
      result

/-- What is said in a deployment, and what it ends with. -/
inductive Deployed (tool : DeployTool) (contract : Contract) (inst : Instance) (port : String) :
    List (Exchange Workbench.interface) → Except Failure Deployment → Prop where
  /-- The port is not reachable. -/
  | unreachable (h : endpoint? inst port = none) :
    Deployed tool contract inst port [] (.error (.portMissing port))
  /-- There is no file for the request. -/
  | withoutRequest {endpoint : Endpoint} (h : endpoint? inst port = some endpoint)
      (cause : OsError) :
    Deployed tool contract inst port [⟨.create "deploy-request-" ".json", .error cause⟩]
      (.error (.file cause))
  /-- There is a file for the request. -/
  | requested {endpoint : Endpoint} (h : endpoint? inst port = some endpoint) (path : String)
      {said : List (Exchange Workbench.interface)} {result : Except Failure Deployment}
      (requested : Requested tool contract.path
        (requestBytes (provider inst endpoint) contract.arguments) path said result) :
    Deployed tool contract inst port
      (⟨.create "deploy-request-" ".json", .ok path⟩ :: said ++ [⟨.remove path, ()⟩]) result

/-- A deployment takes one of the courses. -/
theorem transcript_deploy {contract : Contract} {inst : Instance} {port : String}
    (h : Transcript (tool.deploy contract inst port).run log r) :
    Deployed tool contract inst port log r := by
  unfold deploy at h
  cases hendpoint : endpoint? inst port with
  | none =>
    simp only [hendpoint] at h
    obtain ⟨rfl, rfl⟩ := transcript_throw_iff.mp h
    exact .unreachable hendpoint
  | some endpoint =>
    simp only [hendpoint] at h
    rcases Workbench.transcript_withFile_iff.mp h with
      ⟨cause, rfl, rfl⟩ | ⟨path, said, rfl, h1⟩
    · exact .withoutRequest hendpoint cause
    · refine .requested hendpoint path ?_
      obtain ⟨written, rest, rfl, h2⟩ := transcript_question_bind_iff.mp h1
      cases written with
      | error cause =>
        rw [ofExcept_error_bind] at h2
        obtain ⟨rfl, rfl⟩ := transcript_throw_iff.mp h2
        exact .unwritten cause
      | ok =>
        rw [ofExcept_ok_bind] at h2
        rcases Workbench.transcript_withFile_iff.mp h2 with
          ⟨cause, rfl, rfl⟩ | ⟨output, said, rfl, h3⟩
        · exact .withoutOutput cause
        · exact .used output (transcript_runOn h3)

/-! ## What a deployment tells the tool -/

theorem Used.ne_portMissing {contractPath requestPath outputPath : String}
    (h : Used tool contractPath requestPath outputPath log r) (port : String) :
    r ≠ .error (.portMissing port) := by
  cases h with
  | refused => simp
  | @failed _ outcome e outcome_fails =>
    rintro he
    cases he
    unfold outcomeFailure? at outcome_fails
    cases outcome with
    | notStarted | timedOut => simp at outcome_fails
    | ended =>
      simp only at outcome_fails
      split at outcome_fails <;> simp at outcome_fails
  | finished _ _ content =>
    cases content with
    | error cause => simp [readOutput]
    | ok bytes =>
      cases hread : Json.decode Deployment.reader (Utf8.pieces bytes) <;>
        simp [readOutput, hread, Except.mapError]

/-- The only port that a deployment misses is the one that is not reachable. -/
theorem Deployed.of_portMissing {contract : Contract} {inst : Instance} {port missing : String}
    (h : Deployed tool contract inst port log (.error (.portMissing missing))) :
    missing = port ∧ endpoint? inst port = none := by
  generalize hr : (Except.error (.portMissing missing) : Except Failure Deployment) = r at h
  cases h with
  | unreachable h =>
    cases hr
    exact ⟨rfl, h⟩
  | withoutRequest => cases hr
  | requested _ _ requested =>
    cases requested with
    | unwritten | withoutOutput => cases hr
    | used _ used => exact absurd hr.symm (used.ne_portMissing missing)

/-- To a port that is not reachable nothing is deployed. -/
theorem Deployed.of_unreachable {contract : Contract} {inst : Instance} {port : String}
    (h : Deployed tool contract inst port log r) (hnone : endpoint? inst port = none) :
    log = [] ∧ r = .error (.portMissing port) := by
  cases h with
  | unreachable => exact ⟨rfl, rfl⟩
  | withoutRequest h | requested h =>
    rw [hnone] at h
    cases h

/-- The log of a deployment in which the request, and nothing else, is written. -/
structure Requests (content : Bytes) (log : List (Exchange Workbench.interface)) : Prop where
  /-- A file is created first, and if it is there the request is written into it. -/
  written : ∃ created rest, log = ⟨.create "deploy-request-" ".json", created⟩ :: rest ∧
    ∀ path, created = .ok path → ∃ answer more, rest = ⟨.write path content, answer⟩ :: more
  /-- No other content is written anywhere. -/
  only : ∀ path other answer, ⟨.write path other, answer⟩ ∈ log → other = content

theorem Used.not_write {contractPath requestPath outputPath : String}
    (h : Used tool contractPath requestPath outputPath log r) (path : String) (content : Bytes)
    (answer : Except OsError Unit) : ⟨.write path content, answer⟩ ∉ log := by
  cases h <;> simp

theorem Deployed.requests {contract : Contract} {inst : Instance} {port : String}
    {endpoint : Endpoint} (h : Deployed tool contract inst port log r)
    (hendpoint : endpoint? inst port = some endpoint) :
    Requests (requestBytes (provider inst endpoint) contract.arguments) log := by
  -- a deployment writes nothing but its request
  cases h with
  | unreachable h =>
    rw [hendpoint] at h
    cases h
  | withoutRequest _ cause => exact ⟨⟨.error cause, [], rfl, by simp⟩, by simp⟩
  | requested h path requested =>
    rw [hendpoint] at h
    cases h
    cases requested with
    | unwritten | withoutOutput =>
      refine ⟨⟨.ok path, _, rfl, ?_⟩, ?_⟩
      · rintro _ ⟨⟩
        exact ⟨_, _, rfl⟩
      · intro path' other answer hmem
        simp at hmem
        exact hmem.1.2
    | used output used =>
      refine ⟨⟨.ok path, _, rfl, ?_⟩, ?_⟩
      · rintro _ ⟨⟩
        exact ⟨_, _, rfl⟩
      · intro path' other answer hmem
        have hused := used.not_write path' other answer
        simp [hused] at hmem
        exact hmem.1.2

/-- Before the tool is run, the request is written and the file for the output is created. -/
theorem Deployed.run {contract : Contract} {inst : Instance} {port : String}
    (h : Deployed tool contract inst port log r) {command : Workbench.Command} {limit : Nat}
    {outcome : Workbench.Outcome} (hrun : ⟨.run command limit, outcome⟩ ∈ log) :
    ∃ endpoint requestPath outputPath, endpoint? inst port = some endpoint ∧
      command = tool.command requestPath outputPath contract.path ∧
      [⟨.write requestPath (requestBytes (provider inst endpoint) contract.arguments), .ok ()⟩,
        ⟨.create "deploy-output-" ".json", .ok outputPath⟩,
        ⟨.run command limit, outcome⟩] <:+: log := by
  cases h with
  | unreachable | withoutRequest => simp at hrun
  | @requested endpoint h path said _ requested =>
    cases requested with
    | unwritten | withoutOutput => simp at hrun
    | @used output said _ used =>
      refine ⟨endpoint, path, output, h, ?_⟩
      cases used with
      | refused => simp at hrun
      | failed | finished =>
        obtain ⟨⟨rfl, rfl⟩, rfl⟩ : (command = _ ∧ limit = _) ∧ outcome = _ := by
          simpa using hrun
        exact ⟨rfl, [_], _, rfl⟩

end DeployTool

end ChainBroker
