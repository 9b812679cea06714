import ChainBroker.Proofs.TemporaryFiles
import ChainBroker.Proofs.ToolOutcome

/-!
# Whole downloads

A download brings the whole body of a response of success into a new file, or nothing at all.

1. A log with two partners is looked at from the side of each (`Dialogue.leftOf`,
   `Dialogue.rightOf`).
2. A URL passes the check exactly if it can be read and has one of two schemes
   (`Check.url_eq_ok_iff`).
3. A body is fetched with one request at most, and it is there exactly if the answer to that is a
   response of success with its whole body (`Contract.Fetched.arrived_iff`).
4. So this decides what comes of a download, whatever the surroundings do
   (`Contract.download_whole`).
-/

namespace ChainBroker

open Dialogue Attempt

namespace Dialogue

variable {I J : Interface} {log log' : List (Exchange (I.sum J))}

/-! ## One of two partners -/

/-- What is said to the first one of two partners. -/
def leftOf (log : List (Exchange (I.sum J))) : List (Exchange I) :=
  log.filterMap fun
    | ⟨.inl q, a⟩ => some ⟨q, a⟩
    | ⟨.inr _, _⟩ => none

/-- What is said to the second one of two partners. -/
def rightOf (log : List (Exchange (I.sum J))) : List (Exchange J) :=
  log.filterMap fun
    | ⟨.inl _, _⟩ => none
    | ⟨.inr q, a⟩ => some ⟨q, a⟩

@[simp] theorem leftOf_nil : leftOf ([] : List (Exchange (I.sum J))) = [] := rfl

@[simp] theorem leftOf_cons_inl {q : I.Question} {a : I.Answer q} :
    leftOf (⟨.inl q, a⟩ :: log) = ⟨q, a⟩ :: leftOf log := rfl

@[simp] theorem leftOf_cons_inr {q : J.Question} {a : J.Answer q} :
    leftOf (⟨.inr q, a⟩ :: log) = leftOf log := rfl

@[simp] theorem leftOf_append : leftOf (log ++ log') = leftOf log ++ leftOf log' :=
  List.filterMap_append

theorem mem_leftOf {q : I.Question} {a : I.Answer q} (h : ⟨.inl q, a⟩ ∈ log) :
    ⟨q, a⟩ ∈ leftOf log :=
  List.mem_filterMap.mpr ⟨_, h, rfl⟩

theorem mem_rightOf {q : J.Question} {a : J.Answer q} (h : ⟨.inr q, a⟩ ∈ log) :
    ⟨q, a⟩ ∈ rightOf log :=
  List.mem_filterMap.mpr ⟨_, h, rfl⟩

theorem rightOf_subset (h : log' ⊆ log) : rightOf log' ⊆ rightOf log := by
  intro e he
  obtain ⟨said, hsaid, heq⟩ := List.mem_filterMap.mp he
  exact List.mem_filterMap.mpr ⟨said, h hsaid, heq⟩

end Dialogue

/-! ## URLs that can be fetched -/

/-- The text is a URL of one of the two schemes that can be fetched. -/
def Fetchable (source : String) (url : Url) : Prop :=
  Url.parse source = .ok url ∧
    (String.ofList url.scheme = "http" ∨ String.ofList url.scheme = "https")

/-- A text passes the check if there is something that can be fetched under it. -/
theorem Check.url_eq_ok_iff {field source : String} {url : Url} :
    Check.url field source = .ok url ↔ Fetchable source url := by
  unfold Check.url Fetchable
  by_cases hempty : source = ""
  · -- the empty text has no scheme
    have hparse : Url.parse "" = .error .relative := rfl
    rw [if_pos hempty, hempty, hparse]
    exact ⟨nofun, nofun⟩
  · rw [if_neg hempty]
    cases Url.parse source with
    | error fault => exact ⟨nofun, nofun⟩
    | ok parsed =>
      dsimp only
      split
      · next hscheme =>
        constructor
        · intro h
          cases h
          exact ⟨rfl, hscheme⟩
        · rintro ⟨h, -⟩
          cases h
          rfl
      · next hscheme =>
        constructor
        · exact nofun
        · rintro ⟨h, hother⟩
          cases h
          exact absurd hother hscheme

theorem Fetchable.unique {source : String} {url other : Url} (h : Fetchable source url)
    (h' : Fetchable source other) : url = other :=
  Except.ok.inj (h.1.symm.trans h'.1)

theorem Workbench.MakesFiles.mono {log said : List (Exchange Workbench.interface)}
    (h : MakesFiles log) (hsub : said ⊆ log) : MakesFiles said :=
  ⟨fun _ _ _ hmem => h.created _ _ _ (hsub hmem), fun _ _ _ hmem => h.written _ _ _ (hsub hmem)⟩

namespace Contract

open Store Workbench

variable {source path : String} {timeout : Nat} {url : Url} {log : List (Exchange interface)}
  {files files' : Store Bytes} {r : Except Failure String}

/-! ## Bodies that arrive -/

/-- One request has been sent, and a response of success has come with its whole body. -/
def Arrived (url : Url) (timeout : Nat) (log : List (Exchange interface)) (body : Bytes) : Prop :=
  ∃ status, 200 ≤ status ∧ status < 300 ∧
    leftOf log = [⟨⟨url.withoutCredentials, timeout⟩, .answered status (some body)⟩]

/-- The answers that report success have numbers from 200 to 299. -/
theorem isSuccess_iff {status : Nat} : isSuccess status = true ↔ 200 ≤ status ∧ status < 300 := by
  simp [isSuccess]

/-- A body has arrived if it was fetched. -/
theorem Fetched.arrived_iff {content : Except String Bytes} (h : Fetched url timeout log content)
    {body : Bytes} : Arrived url timeout log body ↔ content = .ok body := by
  unfold Arrived
  cases h with
  | unsendable => simp
  | asked _ outcome =>
    rw [leftOf_cons_inl, leftOf_nil]
    constructor
    · rintro ⟨status, hlow, hhigh, hlog⟩
      cases hlog
      have success : isSuccess status = true := isSuccess_iff.mpr ⟨hlow, hhigh⟩
      simp only [Fetch.body, success, if_true]
    · intro hbody
      obtain ⟨status, rfl, success⟩ := exists_answered_of_body hbody
      obtain ⟨hlow, hhigh⟩ := isSuccess_iff.mp success
      exact ⟨status, hlow, hhigh, rfl⟩

/-- What comes of fetching into a file that can be written: it is filled, or there is no body. -/
theorem FetchedInto.arrived {filled : Except Failure Unit}
    (h : FetchedInto path source url timeout log filled) (works : MakesFiles (rightOf log)) :
    (filled = .ok () ∧ ∃ body, Arrived url timeout log body) ∨
      (∃ cause, filled = .error (.downloadFailed source cause)) ∧
        ∀ body, ¬Arrived url timeout log body := by
  cases h with
  | unfetched fetched =>
    refine .inr ⟨⟨_, rfl⟩, fun body harrived => ?_⟩
    cases fetched.arrived_iff.mp harrived
  | @written said body fetched written =>
    cases written with
    | error cause =>
      exact absurd (mem_rightOf (List.mem_append_right said List.mem_cons_self))
        (works.written path body cause)
    | ok =>
      obtain ⟨status, hlow, hhigh, hlog⟩ := fetched.arrived_iff.mpr rfl
      refine .inl ⟨rfl, body, status, hlow, hhigh, ?_⟩
      rw [leftOf_append, hlog]
      rfl

/-! ## Whole downloads -/

/-- The body of a response of success to the only request has arrived as a whole. -/
def Arrives (source : String) (timeout : Nat) (log : List (Exchange interface))
    (body : Bytes) : Prop :=
  ∃ url, Fetchable source url ∧ Arrived url timeout log body

/-- What arrives is what has arrived from the URL of the text. -/
theorem arrives_iff (fetchable : Fetchable source url) {body : Bytes} :
    Arrives source timeout log body ↔ Arrived url timeout log body := by
  constructor
  · rintro ⟨other, hother, harrived⟩
    rwa [fetchable.unique hother]
  · exact fun harrived => ⟨url, fetchable, harrived⟩

/-- Everything has been downloaded, or nothing. -/
structure Whole (source : String) (timeout : Nat) (files files' : Store Bytes)
    (log : List (Exchange interface)) (r : Except Failure String) : Prop where
  /-- There is a file exactly if a whole body has arrived. -/
  iff_arrives : (∃ path, r = .ok path) ↔ ∃ body, Arrives source timeout log body
  /-- The file is new and holds this body, and nothing else has changed. -/
  stored : ∀ path, r = .ok path → files path = none ∧ AgreeOff path files files' ∧
    ∃ body, Arrives source timeout log body ∧ files' path = some body
  /-- Otherwise the failure names the text, and nothing has changed. -/
  failed : ∀ e, r = .error e → (∃ reason, e = .downloadFailed source reason) ∧ files' = files
  /-- For a text that cannot be fetched nothing is done. -/
  unsent : (∀ url, ¬Fetchable source url) → log = []

theorem arrived_congr {said : List (Exchange interface)} (h : leftOf log = leftOf said)
    {body : Bytes} : Arrived url timeout log body ↔ Arrived url timeout said body := by
  unfold Arrived
  rw [h]

/-- As long as files can be made, there is a file and a whole body has arrived, or neither. -/
theorem Downloaded.arrives (h : Downloaded source timeout log r)
    (works : MakesFiles (rightOf log)) :
    ((∃ path, r = .ok path) ∧ ∃ body, Arrives source timeout log body) ∨
      (∃ reason, r = .error (.downloadFailed source reason)) ∧
        ∀ body, ¬Arrives source timeout log body := by
  cases h with
  -- a text that fails the check cannot be fetched
  | rejected check =>
    refine .inr ⟨⟨_, rfl⟩, ?_⟩
    rintro body ⟨url, fetchable, -⟩
    rw [Check.url_eq_ok_iff.mpr fetchable] at check
    cases check
  | uncreated _ cause =>
    exact absurd (mem_rightOf List.mem_cons_self) (works.created "contract-" ".sol" cause)
  | @failed url check path said e fetched =>
    have hworks : MakesFiles (rightOf said) := by
      refine works.mono (rightOf_subset fun e he => ?_)
      exact List.mem_append_left _ (List.mem_cons_of_mem _ he)
    have hleft : leftOf (⟨.inr (.create "contract-" ".sol"), .ok path⟩ :: said ++
        [⟨.inr (.remove path), ()⟩]) = leftOf said := by
      rw [leftOf_append, leftOf_cons_inr, leftOf_cons_inr, leftOf_nil, List.append_nil]
    simp only [arrives_iff (Check.url_eq_ok_iff.mp check), arrived_congr hleft]
    rcases fetched.arrived hworks with ⟨hfilled, -⟩ | ⟨⟨cause, hfilled⟩, hnone⟩
    · cases hfilled
    · cases hfilled
      exact .inr ⟨⟨cause, rfl⟩, hnone⟩
  | @stored url check path said fetched =>
    have hworks : MakesFiles (rightOf said) :=
      works.mono (rightOf_subset (List.subset_cons_self _ _))
    simp only [arrives_iff (Check.url_eq_ok_iff.mp check), arrived_congr leftOf_cons_inr]
    rcases fetched.arrived hworks with ⟨-, harrived⟩ | ⟨⟨cause, hfilled⟩, -⟩
    · exact .inl ⟨⟨path, rfl⟩, harrived⟩
    · cases hfilled

/-- A body of which a part of the log tells is the one that has arrived. -/
theorem Arrives.of_received {body other : Bytes} (h : Arrives source timeout log body)
    (received : Received log other) : Arrives source timeout log other := by
  obtain ⟨url, fetchable, status, hlow, hhigh, hlog⟩ := h
  obtain ⟨call, status', hmem, -⟩ := received
  have hmem' := mem_leftOf hmem
  rw [hlog, List.mem_singleton] at hmem'
  cases hmem'
  exact ⟨url, fetchable, status, hlow, hhigh, hlog⟩

/-- A download yields a whole file or changes none. -/
theorem Downloaded.whole (h : Downloaded source timeout log r) (works : MakesFiles (rightOf log))
    (leads : Leads (onRight Workbench.Acts) files log files') :
    Whole source timeout files files' log r := by
  refine ⟨?_, ?_, ?_, ?_⟩
  · rcases h.arrives works with ⟨hfile, harrives⟩ | ⟨⟨reason, rfl⟩, hnone⟩
    · exact iff_of_true hfile harrives
    · exact iff_of_false (fun ⟨_, hok⟩ => nomatch hok) (fun ⟨body, hbody⟩ => hnone body hbody)
  · rintro path rfl
    obtain ⟨free, hsame, body, received, hbody⟩ := h.received leads
    rcases h.arrives works with ⟨-, other, harrives⟩ | ⟨⟨reason, he⟩, -⟩
    · exact ⟨free, hsame, body, harrives.of_received received, hbody⟩
    · cases he
  · rintro e rfl
    refine ⟨?_, h.restores leads⟩
    rcases h.arrives works with ⟨⟨path, hok⟩, -⟩ | ⟨⟨reason, he⟩, -⟩
    · cases hok
    · cases he
      exact ⟨reason, rfl⟩
  · intro hnone
    cases h with
    | rejected => rfl
    | uncreated check | failed check | stored check =>
      exact absurd (Check.url_eq_ok_iff.mp check) (hnone _)

end Contract

end ChainBroker
