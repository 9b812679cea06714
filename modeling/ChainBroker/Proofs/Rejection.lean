import ChainBroker.Command.Session
import ChainBroker.Proofs.Operations
import ChainBroker.Proofs.World

/-!
# Rejections

A rejection is a failure that is a matter of the one who asks or of how the broker is set up. What is
rejected has not been started:

1. platforms, downloads and deployments are never rejected (`Attempt.Accepts`), whatever they are
   told;
2. so an operation of the broker is rejected without a question, or not at all (`Attempt.Prompt`);
3. what a session does before it lets the broker work has no effect, so a session that is rejected
   has had none (`Session.Restrained`).

The first step rests on one rule of inference per way of putting dialogues together; these speak of
what dialogues end with (`Dialogue.Ends`), given what they are told.
-/

namespace ChainBroker

open Dialogue

variable {I J : Interface} {α β ε : Type}

/-! ## What dialogues end with -/

namespace Dialogue

/-- If every answer is as expected, the value at the end has the property. -/
def Ends (Q : (q : I.Question) → I.Answer q → Prop) (P : α → Prop) : Dialogue I α → Prop
  | done a => P a
  | ask q next => ∀ answer, Q q answer → (next answer).Ends Q P

/-- Nothing is expected of the answers. -/
abbrev anyAnswer (q : I.Question) (_ : I.Answer q) : Prop := True

variable {Q : (q : I.Question) → I.Answer q → Prop} {R : (q : J.Question) → J.Answer q → Prop}
  {P : α → Prop}

/-- What holds of the first part's outcome is known in the second. -/
theorem Ends.bind {P' : β → Prop} {d : Dialogue I α} {f : α → Dialogue I β} (h : d.Ends Q P)
    (hf : ∀ a, P a → (f a).Ends Q P') : (d.bind f).Ends Q P' := by
  induction d with
  | done a => exact hf a h
  | ask q next ih =>
    intro answer hanswer
    exact ih answer (h answer hanswer)

theorem ends_true (d : Dialogue I α) : d.Ends Q fun _ => True := by
  induction d with
  | done a => trivial
  | ask q next ih => exact fun answer _ => ih answer

/-- Questions may be answered by dialogues that end with what is expected. -/
theorem Ends.interpret {answer : (q : I.Question) → Dialogue J (I.Answer q)} {d : Dialogue I α}
    (h : d.Ends Q P) (hanswer : ∀ q, (answer q).Ends R (Q q)) : (d.interpret answer).Ends R P := by
  induction d with
  | done a => exact h
  | ask q next ih => exact (hanswer q).bind fun x hx => ih x (h x hx)

theorem Ends.of_transcript {d : Dialogue I α} {log : List (Exchange I)} {a : α}
    (h : d.Ends anyAnswer P) (said : Transcript d log a) : P a := by
  induction said with
  | done a => exact h
  | ask rest ih => exact ih (h _ trivial)

end Dialogue

/-! ## Results that are no rejections -/

/-- The request or the set-up is at fault. -/
def Failure.IsRejection (f : Failure) : Prop := f.kind = .input ∨ f.kind = .configuration

/-- What is no rejection lies with the platform, with the tool or with the system. -/
theorem Failure.not_isRejection_iff {f : Failure} :
    ¬f.IsRejection ↔ f.kind = .backend ∨ f.kind = .deploy ∨ f.kind = .system := by
  unfold IsRejection
  cases f.kind <;> decide

/-- Rejections are told by two exit codes that tell of nothing else. -/
theorem Ending.exitCode_iff {r : Except Failure String} :
    (Ending.of r).exitCode = 4 ∨ (Ending.of r).exitCode = 1 ↔ ∃ f, r = .error f ∧ f.IsRejection := by
  cases r with
  | ok output => simp [Ending.of]
  | error f =>
    have hcode : (Ending.of (.error f)).exitCode = f.kind.severity.exitCode := rfl
    have hexists : (∃ f', (Except.error f : Except Failure String) = .error f' ∧ f'.IsRejection) ↔
        f.IsRejection := by simp
    rw [hcode, hexists, Failure.IsRejection]
    cases f.kind <;> decide

/-- The result is no rejection. -/
def Accepted (r : Except Failure α) : Prop := ∀ e, r = .error e → ¬e.IsRejection

theorem accepted_ok (a : α) : Accepted (.ok a : Except Failure α) := by
  intro e he
  cases he

theorem accepted_error {e : Failure} (h : ¬e.IsRejection) :
    Accepted (.error e : Except Failure α) := by
  intro e' he
  cases he
  exact h

/-- An outcome is accepted if all that it can fail with is no rejection. -/
theorem accepted_mapError {failure : ε → Failure} (h : ∀ e, ¬(failure e).IsRejection)
    (r : Except ε α) : Accepted (r.mapError failure) := by
  cases r with
  | ok a => exact accepted_ok a
  | error e => exact accepted_error (h e)

namespace Attempt

variable {Q : (q : I.Question) → I.Answer q → Prop} {R : (q : J.Question) → J.Answer q → Prop}

/-- If every answer is as expected, the attempt is not rejected. -/
def Accepts (Q : (q : I.Question) → I.Answer q → Prop) (a : Attempt I Failure α) : Prop :=
  a.run.Ends Q Accepted

theorem accepts_pure (a : α) : (pure a : Attempt I Failure α).Accepts Q := accepted_ok a

theorem accepts_throw {e : Failure} (h : ¬e.IsRejection) :
    (throw e : Attempt I Failure α).Accepts Q :=
  accepted_error h

theorem accepts_ofExcept {failure : ε → Failure} {r : Except ε α}
    (h : Accepted (r.mapError failure)) : (ofExcept failure r : Attempt I Failure α).Accepts Q :=
  h

/-- Two parts accept if each of them does. -/
theorem accepts_bind {a : Attempt I Failure α} {f : α → Attempt I Failure β} (h : a.Accepts Q)
    (hf : ∀ x, (f x).Accepts Q) : (a >>= f).Accepts Q := by
  refine Ends.bind h fun x hx => ?_
  cases x with
  | ok x => exact hf x
  | error e => exact accepted_error (hx e rfl)

/-- What is asked does not reject, and of its answer all that is promised may be used. -/
theorem accepts_question_bind {q : I.Question} {f : I.Answer q → Attempt I Failure β}
    (hf : ∀ answer, Q q answer → (f answer).Accepts Q) : (question q >>= f).Accepts Q :=
  hf

/-- A question whose answer may be a failure that is no rejection. -/
theorem accepts_question_ofExcept {q : I.Question} {failure : ε → Failure}
    {result : I.Answer q → Except ε α} (h : ∀ e, ¬(failure e).IsRejection) :
    (question q >>= fun answer => ofExcept failure (result answer)).Accepts Q :=
  accepts_question_bind fun _ _ => accepts_ofExcept (accepted_mapError h _)

/-- An answer that fails, fails with what is no rejection. -/
theorem accepts_question_ofExcept_bind {q : I.Question} {failure : ε → Failure}
    {result : I.Answer q → Except ε α} {f : α → Attempt I Failure β}
    (h : ∀ e, ¬(failure e).IsRejection) (hf : ∀ x, (f x).Accepts Q) :
    (question q >>= fun answer => ofExcept failure (result answer) >>= f).Accepts Q :=
  accepts_question_bind fun _ _ => accepts_bind (accepts_ofExcept (accepted_mapError h _)) hf

/-- What is done at the end has no part in the outcome. -/
theorem accepts_followedBy {a : Attempt I Failure α} {next : Except Failure α → Dialogue I Unit}
    (h : a.Accepts Q) : (a.followedBy next).Accepts Q :=
  Ends.bind h fun r hr => Ends.bind (ends_true (next r)) fun _ _ => hr

end Attempt

/-! ## Platforms -/

open Attempt

/-- A platform that rejects nothing. -/
structure Platform.Accepts (p : Platform I) : Prop where
  /-- No start of an instance is rejected. -/
  provision : ∀ w, (p.provision w).Accepts anyAnswer
  /-- No removal of an instance is rejected. -/
  deprovision : ∀ instanceId, (p.deprovision instanceId).Accepts anyAnswer
  /-- No look at an instance is rejected. -/
  bind : ∀ instanceId bindingId, (p.bind instanceId bindingId).Accepts anyAnswer

/-- A text that is no port is a matter of the platform. -/
theorem Workload.accepted_parsedPorts (w : Workload) : Accepted (w.parsedPorts.mapError id) := by
  rw [mapError_id]
  refine accepted_mapError ?_ (Port.parseAll w.ports)
  intro e
  exact Failure.not_isRejection_iff.mpr (.inl rfl)

namespace Docker

/-- A daemon that fails is no rejection. -/
theorem not_isRejection (cause : Fault) : ¬(Failure.docker cause).IsRejection :=
  Failure.not_isRejection_iff.mpr (.inl rfl)

/-- Following a pull comes to no rejection. -/
theorem accepts_follow (items : List PullItem) : (follow items).Accepts anyAnswer := by
  induction items with
  | nil => exact accepts_pure ()
  | cons item items ih =>
    refine accepts_question_bind fun _ _ => ?_
    cases item with
    | ok status => exact ih
    | error cause => exact accepts_throw (not_isRejection cause)

/-- Once it is asked, Docker rejects nothing. -/
theorem platform_accepts (internalAddress externalAddress : String) :
    (platform internalAddress externalAddress).Accepts where
  provision w := by
    refine accepts_bind (accepts_question_bind fun report _ => accepts_follow report) fun _ => ?_
    refine accepts_bind (accepts_ofExcept w.accepted_parsedPorts) fun ports => ?_
    refine accepts_question_ofExcept_bind not_isRejection fun _ => ?_
    exact accepts_question_ofExcept not_isRejection
  deprovision instanceId := by
    refine accepts_question_ofExcept_bind not_isRejection fun _ => ?_
    exact accepts_question_ofExcept not_isRejection
  bind instanceId bindingId := by
    refine accepts_question_ofExcept_bind not_isRejection fun inspection => ?_
    exact accepts_pure _

end Docker

namespace Kubernetes

/-- A cluster that fails is no rejection. -/
theorem not_isRejection (cause : Fault) : ¬(Failure.kubernetes cause).IsRejection :=
  Failure.not_isRejection_iff.mpr (.inl rfl)

/-- Once it is asked, Kubernetes rejects nothing. -/
theorem platform_accepts (host : String) : (platform host).Accepts where
  provision w := by
    refine accepts_bind (accepts_ofExcept w.accepted_parsedPorts) fun ports => ?_
    refine accepts_question_ofExcept_bind not_isRejection fun _ => ?_
    exact accepts_question_ofExcept not_isRejection
  deprovision instanceId := by
    refine accepts_question_bind fun _ _ => accepts_question_bind fun _ _ => ?_
    exact accepts_pure ()
  bind instanceId bindingId := by
    refine accepts_question_ofExcept_bind not_isRejection fun service => ?_
    exact accepts_pure _

end Kubernetes

/-! ## Downloads and deployments -/

theorem not_isRejection_file (cause : OsError) : ¬(Failure.file cause).IsRejection :=
  Failure.not_isRejection_iff.mpr (.inr (.inr rfl))

namespace Contract

/-- A contract that cannot be fetched is no rejection, for it is found out on the way. -/
theorem not_isRejection_downloadFailed (source reason : String) :
    ¬(Failure.downloadFailed source reason).IsRejection :=
  Failure.not_isRejection_iff.mpr (.inr (.inl rfl))

theorem accepts_fetchBody (url : Url) (timeout : Nat) :
    (fetchBody url timeout).Accepts anyAnswer := by
  unfold fetchBody
  simp only
  split
  · exact accepts_question_bind fun outcome _ => accepts_pure _
  · exact accepts_pure _

/-- Nor is a contract that cannot be written down. -/
theorem accepts_fetchInto (path source : String) (url : Url) (timeout : Nat) :
    (fetchInto path source url timeout).Accepts anyAnswer := by
  refine accepts_bind (accepts_fetchBody url timeout) fun body => ?_
  refine accepts_bind (accepts_ofExcept ?_) fun body => ?_
  · exact accepted_mapError (not_isRejection_downloadFailed source) body
  · exact accepts_question_ofExcept not_isRejection_file

/-- The URL is checked like a setting, but a defect of it is a matter of the download. -/
theorem accepts_download (source : String) (timeout : Nat) :
    (download source timeout).Accepts anyAnswer := by
  refine accepts_bind (accepts_ofExcept ?_) fun url => ?_
  · refine accepted_mapError ?_ (Check.url "contract_url" source)
    intro e
    exact not_isRejection_downloadFailed source e.message
  · refine accepts_question_ofExcept_bind not_isRejection_file fun path => ?_
    refine accepts_bind (accepts_followedBy (accepts_fetchInto path source url timeout)) ?_
    intro _
    exact accepts_pure path

end Contract

/-- Working with a temporary file rejects nothing unless the work does. -/
theorem Workbench.accepts_withFile {start ending : String}
    {use : String → Attempt interface Failure α} (h : ∀ path, (use path).Accepts anyAnswer) :
    (withFile start ending use).Accepts anyAnswer := by
  refine accepts_question_ofExcept_bind not_isRejection_file fun path => ?_
  exact accepts_followedBy (h path)

namespace DeployTool

variable (tool : DeployTool)

/-- Whatever the tool ends with is no rejection. -/
theorem not_isRejection_outcomeFailure? {outcome : Workbench.Outcome} {e : Failure}
    (h : tool.outcomeFailure? outcome = some e) : ¬e.IsRejection := by
  refine Failure.not_isRejection_iff.mpr (.inr (.inl ?_))
  unfold outcomeFailure? at h
  cases outcome with
  | notStarted cause =>
    cases h
    rfl
  | timedOut =>
    cases h
    rfl
  | ended status stdout stderr =>
    simp only at h
    split at h
    · cases h
    · cases h
      rfl

/-- Nor is an output that is missing or cannot be read. -/
theorem accepted_readOutput (path : String) (content : Except OsError Bytes) :
    Accepted (readOutput path content) := by
  cases content with
  | error cause => exact accepted_error (Failure.not_isRejection_iff.mpr (.inr (.inl rfl)))
  | ok content =>
    refine accepted_mapError ?_ (Json.decode Deployment.reader (Utf8.pieces content))
    intro cause
    exact Failure.not_isRejection_iff.mpr (.inr (.inl rfl))

theorem accepts_runOn (contractPath requestPath outputPath : String) :
    (tool.runOn contractPath requestPath outputPath).Accepts anyAnswer := by
  refine accepts_bind ?_ fun outcome => ?_
  · unfold Workbench.run
    split
    · exact accepts_pure _
    · exact accepts_question_bind fun outcome _ => accepts_pure outcome
  · split
    · next h => exact accepts_throw (tool.not_isRejection_outcomeFailure? h)
    · refine accepts_question_bind fun content _ => accepts_ofExcept ?_
      rw [mapError_id]
      exact accepted_readOutput outputPath content

/-- A deployment comes to no rejection. -/
theorem accepts_deploy (contract : Contract) (inst : Instance) (port : String) :
    (tool.deploy contract inst port).Accepts anyAnswer := by
  unfold deploy
  split
  · exact accepts_throw (Failure.not_isRejection_iff.mpr (.inl rfl))
  · refine Workbench.accepts_withFile fun requestPath => ?_
    refine accepts_question_ofExcept_bind not_isRejection_file fun _ => ?_
    exact Workbench.accepts_withFile fun outputPath => tool.accepts_runOn _ _ outputPath

end DeployTool

/-! ## Operations of the broker -/

namespace Attempt

variable {Q : (q : I.Question) → I.Answer q → Prop} {R : (q : J.Question) → J.Answer q → Prop}

/-- The attempt asks nothing at all, or it is not rejected. -/
def Prompt (Q : (q : I.Question) → I.Answer q → Prop) (a : Attempt I Failure α) : Prop :=
  (∃ r, a.run = .done r) ∨ a.Accepts Q

/-- What is checked at first may reject. -/
theorem prompt_ofExcept_bind {failure : ε → Failure} {r : Except ε α}
    {f : α → Attempt I Failure β} (h : ∀ a, (f a).Prompt Q) : (ofExcept failure r >>= f).Prompt Q := by
  cases r with
  | error e => exact .inl ⟨.error (failure e), rfl⟩
  | ok a => exact h a

theorem Prompt.bind_pure {a : Attempt I Failure α} (h : a.Prompt Q) (f : α → β) :
    (a >>= fun x => pure (f x)).Prompt Q := by
  rcases h with ⟨r, hr⟩ | h
  · refine .inl ⟨r.map f, ?_⟩
    show Dialogue.bind a.run _ = _
    rw [hr]
    cases r <;> rfl
  · exact .inr (accepts_bind h fun x => accepts_pure (f x))

/-- An attempt stays prompt when its questions are put to others that keep their promises. -/
theorem Prompt.interpret {answer : (q : I.Question) → Dialogue J (I.Answer q)}
    {a : Attempt I Failure α} (h : a.Prompt Q) (hanswer : ∀ q, (answer q).Ends R (Q q)) :
    (a.interpret answer).Prompt R := by
  rcases h with ⟨r, hr⟩ | h
  · refine .inl ⟨r, ?_⟩
    show Dialogue.interpret answer a.run = _
    rw [hr]
    rfl
  · exact .inr (Ends.interpret h hanswer)

/-- What is said before a rejection: nothing. -/
theorem Prompt.log_eq_nil {a : Attempt I Failure α} (h : a.Prompt anyAnswer)
    {log : List (Exchange I)} {e : Failure} (said : Transcript a.run log (.error e))
    (rejected : e.IsRejection) : log = [] := by
  rcases h with ⟨r, hr⟩ | h
  · rw [hr] at said
    exact (transcript_done_iff.mp said).1
  · exact absurd rejected (h.of_transcript said e rfl)

end Attempt

namespace Broker

/-- Those to whom the broker leaves the work do not reject it. -/
def Credible : (call : Call) → call.Answer → Prop
  | .provision _, answer | .deprovision _, answer => Accepted answer
  | .bind _ _, answer => Accepted answer
  | .download _, answer => Accepted answer
  | .discard _, _ => True
  | .deploy _ _ _, answer => Accepted answer

/-- The answers that a setup works out are credible if its platform accepts. -/
theorem Setup.answer_credible {s : Setup I} (h : s.platform.Accepts) (call : Call) :
    (s.answer call).Ends anyAnswer (Credible call) := by
  cases call with
  | provision workload => exact (h.provision workload).interpret fun q => ends_true _
  | deprovision instanceId => exact (h.deprovision instanceId).interpret fun q => ends_true _
  | bind instanceId bindingId => exact (h.bind instanceId bindingId).interpret fun q => ends_true _
  | download url => exact (Contract.accepts_download url _).interpret fun q => ends_true _
  | discard path => exact ends_true _
  | deploy contract inst port =>
    refine Ends.interpret ?_ fun q => ends_true _
    exact (s.tool.accepts_deploy contract inst port).interpret fun q => ends_true _

/-- An answer that is credible is passed on without a rejection. -/
theorem accepts_ask_bind {call : Call} {result : call.Answer → Except Failure α}
    {f : α → Attempt interface Failure β}
    (h : ∀ answer, Credible call answer → Accepted (result answer))
    (hf : ∀ x, (f x).Accepts Credible) :
    (ask call >>= fun answer => ofExcept id (result answer) >>= f).Accepts Credible := by
  refine accepts_question_bind fun answer hanswer => accepts_bind (accepts_ofExcept ?_) hf
  rw [mapError_id]
  exact h answer hanswer

theorem accepts_ask {call : Call} {result : call.Answer → Except Failure α}
    (h : ∀ answer, Credible call answer → Accepted (result answer)) :
    (ask call >>= fun answer => ofExcept id (result answer)).Accepts Credible := by
  refine accepts_question_bind fun answer hanswer => accepts_ofExcept ?_
  rw [mapError_id]
  exact h answer hanswer

/-- Once a binding has its contract, nothing is rejected. -/
theorem accepts_connect (plan : Plan) (instanceId bindingId : String) (contract : Contract) :
    (connect plan instanceId bindingId contract).Accepts Credible := by
  refine accepts_ask_bind (fun _ h => h) fun inst => ?_
  split
  · exact accepts_throw (Failure.not_isRejection_iff.mpr (.inl rfl))
  · refine accepts_ask_bind (fun _ h => h) fun deployment => ?_
    exact accepts_pure _

variable (catalog : Catalog) (serviceId planId instanceId bindingId : String)

/-- A binding looks up the plan and reads the payload before it asks for anything. -/
theorem prompt_bind (payload : Bytes) :
    (Broker.bind catalog serviceId planId instanceId bindingId payload).Prompt Credible := by
  refine prompt_ofExcept_bind fun plan => prompt_ofExcept_bind fun request => ?_
  split
  · exact .inl ⟨_, rfl⟩
  · refine .inr (accepts_ask_bind (fun _ h => h) fun path => ?_)
    exact accepts_followedBy (accepts_connect plan instanceId bindingId _)

/-- Every operation looks up its plan before it asks for anything. -/
theorem Operation.prompt_on (op : Operation) : (op.on catalog).Prompt Credible := by
  cases op with
  | provision serviceId planId instanceId =>
    exact prompt_ofExcept_bind fun plan => .inr (accepts_ask fun _ h => h)
  | deprovision serviceId planId instanceId =>
    exact prompt_ofExcept_bind fun plan => .inr (accepts_ask fun _ h => h)
  | unbind | update | lastOperation => exact .inl ⟨_, rfl⟩

/-- An operation for which nothing has to be done. -/
def Operation.IsIdle : Operation → Prop
  | .provision _ _ _ | .deprovision _ _ _ => False
  | .unbind _ _ | .update _ | .lastOperation _ _ => True

/-- An operation that has nothing to do does nothing. -/
theorem Operation.IsIdle.on_eq {op : Operation} (h : op.IsIdle) : op.on catalog = pure () := by
  cases op with
  | provision | deprovision => cases h
  | unbind | update | lastOperation => rfl

/-- A setup in which nothing is said for what is rejected, or for what is idle. -/
structure Setup.Restrained (s : Setup I) (catalog : Catalog) : Prop where
  /-- An operation that is rejected has said nothing. -/
  operation : ∀ op log e, Transcript (s.run (Operation.on catalog op)).run log (.error e) →
    e.IsRejection → log = []
  /-- A bind that is rejected has said nothing. -/
  bind : ∀ serviceId planId instanceId bindingId payload log e,
    Transcript (s.run (Broker.bind catalog serviceId planId instanceId bindingId payload)).run log
      (.error e) →
    e.IsRejection → log = []
  /-- For the other operations nothing is said, whatever they end with. -/
  idle : ∀ op log r, Operation.IsIdle op →
    Transcript (s.run (Operation.on catalog op)).run log r → log = []

/-- Over a platform that accepts, all operations are restrained. -/
theorem Setup.restrained {s : Setup I} (h : s.platform.Accepts) : s.Restrained catalog where
  operation op log e said rejected :=
    ((op.prompt_on catalog).interpret (Setup.answer_credible h)).log_eq_nil said rejected
  bind serviceId planId instanceId bindingId payload log e said rejected :=
    ((prompt_bind catalog serviceId planId instanceId bindingId payload).interpret
      (Setup.answer_credible h)).log_eq_nil said rejected
  idle op log r idle said := by
    rw [idle.on_eq] at said
    exact (transcript_done_iff.mp said).1

end Broker

/-! ## Sessions -/

namespace Attempt

/-- Before a rejection there has been no effect. -/
def RejectsFirst (effect : I.Question → Bool) (a : Attempt I Failure α) : Prop :=
  ∀ log e, Transcript a.run log (.error e) → e.IsRejection → ∀ x ∈ log, effect x.1 = false

variable {effect : I.Question → Bool}

/-- A prompt attempt rejects before its first question, so before all effects. -/
theorem Prompt.rejectsFirst {a : Attempt I Failure α} (h : a.Prompt anyAnswer) :
    a.RejectsFirst effect := by
  intro log e said rejected
  rw [h.log_eq_nil said rejected]
  simp

/-- An attempt without effects rejects before all of them. -/
theorem rejectsFirst_of_only {a : Attempt I Failure α} (h : a.run.Only (effect · = false)) :
    a.RejectsFirst effect := by
  intro log e said rejected
  exact h.of_transcript said

/-- Nothing has to be known about what comes first, but that it has no effect. -/
theorem rejectsFirst_bind {a : Attempt I Failure α} {f : α → Attempt I Failure β}
    (ha : a.run.Only (effect · = false)) (hf : ∀ x, (f x).RejectsFirst effect) :
    (a >>= f).RejectsFirst effect := by
  intro log e said rejected
  rcases transcript_attempt_bind_iff.mp said with ⟨e', -, h1⟩ | ⟨before, x, after, rfl, h1, h2⟩
  · exact ha.of_transcript h1
  · rw [List.forall_mem_append]
    exact ⟨ha.of_transcript h1, hf x _ e h2 rejected⟩

end Attempt

namespace Session

open Command (Line Request)

/-- Whether a question goes beyond the files of the broker and the preparation to speak to a
platform. -/
def Call.isEffect : Call → Bool
  | .contents _ | .listing _ | .connect _ => false
  | .docker _ | .kubernetes _ _ | .contract _ => true

/-- What is asked for is told or done without a platform. -/
def IsIdle : Request → Prop
  | .provision _ _ _ | .deprovision _ _ _ | .bind _ _ _ _ _ _ _ => False
  | .catalog | .unbind _ _ | .update _ | .lastOperation _ _ => True

/-- Settings are loaded without an effect. -/
theorem only_loadSettings (env : Environment) (path : String) :
    (loadSettings env path).run.Only (Call.isEffect · = false) := by
  refine only_question_bind rfl fun read => only_bind only_ofExcept fun settings => ?_
  exact only_bind only_ofExcept fun _ => trivial

/-- So is a catalog. -/
theorem only_loadCatalog (freshIds : Catalog.FreshIds) (dir : String) :
    (loadCatalog freshIds dir).run.Only (Call.isEffect · = false) := by
  unfold loadCatalog
  simp only
  split
  · exact only_bind trivial fun listed => only_ofExcept
  · exact only_question_bind rfl fun listed => only_ofExcept

/-- A request is looked up before anything is asked for. -/
theorem prompt_perform (catalog : Catalog) (request : Request) :
    (perform catalog request).Prompt Broker.Credible := by
  cases request with
  | catalog | unbind | update | lastOperation => exact .inl ⟨_, rfl⟩
  | provision serviceId planId instanceId =>
    exact (Broker.Operation.prompt_on catalog (.provision serviceId planId instanceId)).bind_pure _
  | deprovision serviceId planId instanceId =>
    exact (Broker.Operation.prompt_on catalog (.deprovision serviceId planId instanceId)).bind_pure _
  | bind serviceId planId instanceId bindingId contractUrl contractArgs parameters =>
    exact (Broker.prompt_bind catalog serviceId planId instanceId bindingId _).bind_pure _

/-- The settings of the platform are checked before the work starts. -/
theorem rejectsFirst_withPlatform (env : Environment) (settings : Settings)
    {work : Attempt Broker.interface Failure String} (h : work.Prompt Broker.Credible) :
    (withPlatform env settings work).RejectsFirst Call.isEffect := by
  unfold withPlatform
  split
  · refine rejectsFirst_bind only_ofExcept fun docker => ?_
    refine rejectsFirst_bind (only_question_bind rfl fun _ => trivial) fun connected => ?_
    refine rejectsFirst_bind only_ofExcept fun _ => Prompt.rejectsFirst ?_
    exact (h.interpret (Broker.Setup.answer_credible (Docker.platform_accepts _ _))).interpret
      fun q => ends_true _
  · refine rejectsFirst_bind only_ofExcept fun kubernetes => ?_
    refine rejectsFirst_bind (only_question_bind rfl fun _ => trivial) fun connected => ?_
    refine rejectsFirst_bind only_ofExcept fun _ => Prompt.rejectsFirst ?_
    exact (h.interpret (Broker.Setup.answer_credible (Kubernetes.platform_accepts _))).interpret
      fun q => ends_true _

/-- A line of the command rejects before its first effect. -/
theorem rejectsFirst_run (env : Environment) (freshIds : Catalog.FreshIds) (line : Line) :
    (run env freshIds line).RejectsFirst Call.isEffect := by
  refine rejectsFirst_bind (only_loadSettings env line.config) fun settings => ?_
  refine rejectsFirst_bind (only_loadCatalog freshIds line.services) fun catalog => ?_
  split
  · exact rejectsFirst_of_only trivial
  · exact rejectsFirst_withPlatform env settings (prompt_perform catalog _)

/-- A line with nothing to do has no effect. -/
theorem only_withPlatform (env : Environment) (settings : Settings)
    {work : Attempt Broker.interface Failure String} {text : String} (h : work = pure text) :
    (withPlatform env settings work).run.Only (Call.isEffect · = false) := by
  subst h
  unfold withPlatform
  split
  · refine only_bind only_ofExcept fun docker => only_question_bind rfl fun connected => ?_
    exact only_bind only_ofExcept fun _ => trivial
  · refine only_bind only_ofExcept fun kubernetes => only_question_bind rfl fun connected => ?_
    exact only_bind only_ofExcept fun _ => trivial

theorem only_run {line : Line} (idle : IsIdle line.request) (env : Environment)
    (freshIds : Catalog.FreshIds) :
    (run env freshIds line).run.Only (Call.isEffect · = false) := by
  refine only_bind (only_loadSettings env line.config) fun settings => ?_
  refine only_bind (only_loadCatalog freshIds line.services) fun catalog => ?_
  cases hrequest : line.request with
  | catalog => trivial
  | provision | deprovision | bind =>
    rw [hrequest] at idle
    cases idle
  | unbind | update | lastOperation => exact only_withPlatform env settings rfl

/-- A session whose rejection comes before all effects. -/
structure Restrained (env : Environment) (freshIds : Catalog.FreshIds) (line : Line) : Prop where
  /-- Where the exit code tells of a rejection, there has been no effect. -/
  rejected : ∀ log r, Transcript (run env freshIds line).run log r →
    (Ending.of r).exitCode = 4 ∨ (Ending.of r).exitCode = 1 → ∀ x ∈ log, x.1.isEffect = false
  /-- After an effect, a failure is one of the platform, of the deployment or of the machine. -/
  affected : ∀ log e, Transcript (run env freshIds line).run log (.error e) →
    (∃ x ∈ log, x.1.isEffect = true) →
    e.kind = .backend ∨ e.kind = .deploy ∨ e.kind = .system
  /-- Where there is nothing to do there is no effect, however the session ends. -/
  idle : IsIdle line.request → ∀ log r, Transcript (run env freshIds line).run log r →
    ∀ x ∈ log, x.1.isEffect = false

/-- Every line of the command is restrained. -/
theorem restrained (env : Environment) (freshIds : Catalog.FreshIds) (line : Line) :
    Restrained env freshIds line where
  rejected log r said code := by
    obtain ⟨e, rfl, rejected⟩ := Ending.exitCode_iff.mp code
    exact rejectsFirst_run env freshIds line log e said rejected
  affected log e said heffect := by
    obtain ⟨x, hx, effect⟩ := heffect
    refine Failure.not_isRejection_iff.mp fun rejected => ?_
    rw [rejectsFirst_run env freshIds line log e said rejected x hx] at effect
    cases effect
  idle idle log r said := (only_run idle env freshIds).of_transcript said

end Session

/-- **What is rejected has had no effect**, whatever the platform, the servers and the tool do: not
in a session, be its command line, its settings and its directory what they may, and not in an
operation of the broker with either platform. -/
theorem rejections_without_effect :
    (∀ env freshIds line, Session.Restrained env freshIds line) ∧
      (∀ internalAddress externalAddress tool timeout catalog,
        Broker.Setup.Restrained ⟨Docker.platform internalAddress externalAddress, tool, timeout⟩
          catalog) ∧
      ∀ host tool timeout catalog,
        Broker.Setup.Restrained ⟨Kubernetes.platform host, tool, timeout⟩ catalog := by
  refine ⟨Session.restrained, ?_, ?_⟩
  · intro internalAddress externalAddress tool timeout catalog
    exact Broker.Setup.restrained catalog (Docker.platform_accepts _ _)
  · intro host tool timeout catalog
    exact Broker.Setup.restrained catalog (Kubernetes.platform_accepts host)

end ChainBroker
