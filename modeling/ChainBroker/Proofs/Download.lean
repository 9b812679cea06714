import ChainBroker.Contract.Download
import ChainBroker.Proofs.Dialogue

/-!
# The course of a download

A download checks the URL, creates a file, fetches the body and writes it. Where it fails after the
file is there, it removes the file again.

* `Contract.Fetched` lists the ways in which a body is fetched, and `Contract.Downloaded` those of a
  whole download.
* `Contract.transcript_download`: there are no others.
-/

namespace ChainBroker.Contract

open Dialogue Attempt

variable {source : String} {timeout : Nat} {log : List (Exchange interface)}

/-! ## Bodies -/

/-- What is said when the body behind a URL is fetched, and what comes of it. -/
inductive Fetched (url : Url) (timeout : Nat) :
    List (Exchange interface) → Except String Bytes → Prop where
  /-- The URL cannot be requested. -/
  | unsendable (h : Fetch.isRequestable url.withoutCredentials = false) :
    Fetched url timeout []
      (.error ("builder error for url (" ++ url.withoutCredentials.text ++ ")"))
  /-- The server is asked, without the credentials of the URL. -/
  | asked (h : Fetch.isRequestable url.withoutCredentials = true) (outcome : Fetch.Outcome) :
    Fetched url timeout [⟨.inl ⟨url.withoutCredentials, timeout⟩, outcome⟩]
      (Fetch.body url.withoutCredentials outcome)

theorem transcript_fetchBody {url : Url} {r : Except Failure (Except String Bytes)}
    (h : Transcript (fetchBody url timeout).run log r) :
    ∃ body, r = .ok body ∧ Fetched url timeout log body := by
  unfold fetchBody at h
  cases hsend : Fetch.isRequestable url.withoutCredentials with
  | false =>
    simp only [hsend] at h
    obtain ⟨rfl, rfl⟩ := transcript_pure_iff.mp h
    exact ⟨_, rfl, .unsendable hsend⟩
  | true =>
    simp only [hsend] at h
    obtain ⟨outcome, rest, rfl, h1⟩ := transcript_question_bind_iff.mp h
    obtain ⟨rfl, rfl⟩ := transcript_pure_iff.mp h1
    exact ⟨_, rfl, .asked hsend outcome⟩

/-- What is said when a body is fetched into a file. -/
inductive FetchedInto (path source : String) (url : Url) (timeout : Nat) :
    List (Exchange interface) → Except Failure Unit → Prop where
  /-- There is no body. -/
  | unfetched {said : List (Exchange interface)} {cause : String}
      (fetched : Fetched url timeout said (.error cause)) :
    FetchedInto path source url timeout said (.error (.downloadFailed source cause))
  /-- The body is there, and the file is written. -/
  | written {said : List (Exchange interface)} {body : Bytes}
      (fetched : Fetched url timeout said (.ok body)) (written : Except OsError Unit) :
    FetchedInto path source url timeout (said ++ [⟨.inr (.write path body), written⟩])
      (written.mapError .file)

theorem transcript_fetchInto {path : String} {url : Url} {r : Except Failure Unit}
    (h : Transcript (fetchInto path source url timeout).run log r) :
    FetchedInto path source url timeout log r := by
  rcases transcript_attempt_bind_iff.mp h with ⟨e, -, h1⟩ | ⟨said, body, rest, rfl, h1, h2⟩
  · obtain ⟨_, he, -⟩ := transcript_fetchBody h1
    cases he
  · obtain ⟨_, hbody, fetched⟩ := transcript_fetchBody h1
    cases hbody
    cases body with
    | error cause =>
      rw [ofExcept_error_bind] at h2
      obtain ⟨rfl, rfl⟩ := transcript_throw_iff.mp h2
      rw [List.append_nil]
      exact .unfetched fetched
    | ok body =>
      rw [ofExcept_ok_bind] at h2
      obtain ⟨written, rest, rfl, h3⟩ := transcript_question_bind_iff.mp h2
      obtain ⟨rfl, rfl⟩ := transcript_ofExcept_iff.mp h3
      exact .written fetched written

/-! ## Whole downloads -/

/-- What is said in a download, and what it ends with. -/
inductive Downloaded (source : String) (timeout : Nat) :
    List (Exchange interface) → Except Failure String → Prop where
  /-- The text is no URL that can be fetched. -/
  | rejected {e : Failure} (check : Check.url "contract_url" source = .error e) :
    Downloaded source timeout [] (.error (.downloadFailed source e.message))
  /-- No file can be created. -/
  | uncreated {url : Url} (check : Check.url "contract_url" source = .ok url) (cause : OsError) :
    Downloaded source timeout [⟨.inr (.create "contract-" ".sol"), .error cause⟩]
      (.error (.file cause))
  /-- The file cannot be filled and is removed. -/
  | failed {url : Url} (check : Check.url "contract_url" source = .ok url) {path : String}
      {said : List (Exchange interface)} {e : Failure}
      (fetched : FetchedInto path source url timeout said (.error e)) :
    Downloaded source timeout
      (⟨.inr (.create "contract-" ".sol"), .ok path⟩ :: said ++ [⟨.inr (.remove path), ()⟩])
      (.error e)
  /-- The file holds the body. -/
  | stored {url : Url} (check : Check.url "contract_url" source = .ok url) {path : String}
      {said : List (Exchange interface)}
      (fetched : FetchedInto path source url timeout said (.ok ())) :
    Downloaded source timeout (⟨.inr (.create "contract-" ".sol"), .ok path⟩ :: said) (.ok path)

/-- A download takes one of the courses. -/
theorem transcript_download {r : Except Failure String}
    (h : Transcript (download source timeout).run log r) : Downloaded source timeout log r := by
  unfold download at h
  cases check : Check.url "contract_url" source with
  | error e =>
    rw [check, ofExcept_error_bind] at h
    obtain ⟨rfl, rfl⟩ := transcript_throw_iff.mp h
    exact .rejected check
  | ok url =>
    rw [check, ofExcept_ok_bind] at h
    obtain ⟨created, rest, rfl, h1⟩ := transcript_question_bind_iff.mp h
    cases created with
    | error cause =>
      rw [ofExcept_error_bind] at h1
      obtain ⟨rfl, rfl⟩ := transcript_throw_iff.mp h1
      exact .uncreated check cause
    | ok path =>
      rw [ofExcept_ok_bind] at h1
      rcases transcript_attempt_bind_iff.mp h1 with ⟨e, rfl, h2⟩ | ⟨before, u, rest, rfl, h2, h3⟩
      · obtain ⟨said, removed, rfl, h4, h5⟩ := transcript_followedBy_iff.mp h2
        rw [transcript_question_iff.mp h5]
        exact .failed check (transcript_fetchInto h4)
      · obtain ⟨said, removed, rfl, h4, h5⟩ := transcript_followedBy_iff.mp h2
        obtain ⟨rfl, -⟩ := transcript_done_iff.mp h5
        obtain ⟨rfl, rfl⟩ := transcript_pure_iff.mp h3
        rw [List.append_nil, List.append_nil]
        exact .stored check (transcript_fetchInto h4)

/-! ## What a download does not do -/

/-- Whether a program is run. -/
def isRun : Exchange interface → Bool
  | ⟨.inr (.run _ _), _⟩ => true
  | _ => false

theorem Fetched.not_run {url : Url} {r : Except String Bytes} (h : Fetched url timeout log r) :
    ∀ e ∈ log, isRun e = false := by
  cases h with
  | unsendable => simp
  | asked => simp [isRun]

theorem FetchedInto.not_run {path : String} {url : Url} {r : Except Failure Unit}
    (h : FetchedInto path source url timeout log r) : ∀ e ∈ log, isRun e = false := by
  cases h with
  | unfetched fetched => exact fetched.not_run
  | written fetched written =>
    rw [List.forall_mem_append]
    exact ⟨fetched.not_run, by simp [isRun]⟩

/-- A download runs no program. -/
theorem Downloaded.not_run {r : Except Failure String} (h : Downloaded source timeout log r) :
    ∀ e ∈ log, isRun e = false := by
  cases h with
  | rejected => simp
  | uncreated => simp [isRun]
  | failed _ fetched =>
    rw [List.forall_mem_append, List.forall_mem_cons]
    exact ⟨⟨rfl, fetched.not_run⟩, by simp [isRun]⟩
  | stored _ fetched =>
    rw [List.forall_mem_cons]
    exact ⟨rfl, fetched.not_run⟩

/-- A download fails for want of the body or of the file. -/
theorem Downloaded.failure {e : Failure} (h : Downloaded source timeout log (.error e)) :
    (∃ reason, e = .downloadFailed source reason) ∨ ∃ cause, e = .file cause := by
  generalize hr : (Except.error e : Except Failure String) = r at h
  cases h with
  | rejected =>
    cases hr
    exact .inl ⟨_, rfl⟩
  | uncreated _ cause =>
    cases hr
    exact .inr ⟨cause, rfl⟩
  | stored => cases hr
  | failed _ fetched =>
    cases hr
    generalize hr : (Except.error e : Except Failure Unit) = r at fetched
    cases fetched with
    | unfetched =>
      cases hr
      exact .inl ⟨_, rfl⟩
    | written _ written =>
      cases written with
      | ok => cases hr
      | error cause =>
        cases hr
        exact .inr ⟨cause, rfl⟩

end ChainBroker.Contract
