import ChainBroker.Proofs.PrimaryPort
import ChainBroker.Proofs.World

/-!
# The temporary files of a bind

A bind creates three files, for the contract, for the request to the tool and for the output of the
tool, each of them at another stage. Whatever it ends with, none of them is left, and nothing else
has changed (`Broker.bind_restores_files`).

1. The exchanges of a log act on the files one after the other (`Dialogue.Leads`,
   `Workbench.Acts`). Every path that is created was free, and the tool touches its output only.
2. A file that is created, used and removed leaves the files as they were, if its use changes nothing
   else (`Store.restores_of_removed`). So does a deployment, and a download that fails.
3. While the tool runs, the contract and the request are there. Its output is neither of them, since
   the path of the output was still free when they had been made (`DeployTool.Deployed.inPlace`).
-/

namespace ChainBroker

open Dialogue Attempt

/-! ## Logs that act on a state -/

namespace Dialogue

variable {I J : Interface} {σ : Type} {act : σ → Exchange I → σ → Prop} {s t u : σ}
  {e : Exchange I} {log log' : List (Exchange I)}

/-- The exchanges of a log lead from one state to another, if each of them acts on the state. -/
inductive Leads (act : σ → Exchange I → σ → Prop) : σ → List (Exchange I) → σ → Prop where
  | nil (s : σ) : Leads act s [] s
  | cons {s t u : σ} {e : Exchange I} {log : List (Exchange I)} (first : act s e t)
      (rest : Leads act t log u) : Leads act s (e :: log) u

@[simp] theorem leads_nil_iff : Leads act s [] t ↔ t = s := by
  constructor
  · intro h
    cases h
    rfl
  · rintro rfl
    exact .nil t

@[simp] theorem leads_cons_iff :
    Leads act s (e :: log) u ↔ ∃ t, act s e t ∧ Leads act t log u := by
  constructor
  · intro h
    cases h with
    | cons first rest => exact ⟨_, first, rest⟩
  · rintro ⟨t, first, rest⟩
    exact .cons first rest

/-- What happens in two parts leads from the one to the other. -/
theorem leads_append_iff :
    Leads act s (log ++ log') u ↔ ∃ t, Leads act s log t ∧ Leads act t log' u := by
  induction log generalizing s with
  | nil => simp
  | cons e log ih =>
    simp only [List.cons_append, leads_cons_iff, ih]
    constructor
    · rintro ⟨s', first, t, middle, last⟩
      exact ⟨t, ⟨s', first, middle⟩, last⟩
    · rintro ⟨t, ⟨s', first, middle⟩, last⟩
      exact ⟨s', first, t, middle, last⟩

/-- Of two interfaces side by side, only the second one acts on the state. -/
def onRight (act : σ → Exchange J → σ → Prop) : σ → Exchange (I.sum J) → σ → Prop
  | s, ⟨.inl _, _⟩, t => t = s
  | s, ⟨.inr q, a⟩, t => act s ⟨q, a⟩ t

/-- What is asked of the other side has no part in the state. -/
theorem leads_map_inl_iff {act : σ → Exchange J → σ → Prop} :
    Leads (onRight act) s (log.map .inl) t ↔ t = s := by
  induction log generalizing s with
  | nil => simp
  | cons e log ih =>
    rw [List.map_cons, leads_cons_iff]
    constructor
    · rintro ⟨s', rfl, h⟩
      exact ih.mp h
    · intro h
      exact ⟨s, rfl, ih.mpr h⟩

/-- What is asked of this side is all that has. -/
theorem leads_map_inr_iff :
    Leads (onRight (I := J) act) s (log.map .inr) t ↔ Leads act s log t := by
  induction log generalizing s with
  | nil => simp
  | cons e log ih =>
    rw [List.map_cons, leads_cons_iff, leads_cons_iff]
    exact exists_congr fun s' => and_congr Iff.rfl ih

end Dialogue

section

variable {α : Type} {l l' before after : List α} {x : α}

/-- What is not in the first part is found in the second. -/
theorem exists_append_of_notMem_left (h : l ++ l' = before ++ x :: after) (hx : x ∉ l) :
    ∃ between, before = l ++ between ∧ l' = between ++ x :: after := by
  rcases List.append_eq_append_iff.mp h with ⟨between, hbefore, hl'⟩ | ⟨between, hl, hafter⟩
  · exact ⟨between, hbefore, hl'⟩
  · cases between with
    | nil =>
      rw [List.append_nil] at hl
      exact ⟨[], by rw [List.append_nil, hl], hafter.symm⟩
    | cons y between =>
      cases hafter
      exact absurd (hl ▸ List.mem_append_right _ List.mem_cons_self) hx

/-- What is not in the second part is found in the first. -/
theorem exists_append_of_notMem_right (h : l ++ l' = before ++ x :: after) (hx : x ∉ l') :
    ∃ between, l = before ++ x :: between := by
  rcases List.append_eq_append_iff.mp h with ⟨between, -, hl'⟩ | ⟨between, hl, hafter⟩
  · exact absurd (hl' ▸ List.mem_append_right _ List.mem_cons_self) hx
  · cases between with
    | nil =>
      rw [List.nil_append] at hafter
      exact absurd (hafter ▸ List.mem_cons_self) hx
    | cons y between =>
      cases hafter
      exact ⟨between, hl⟩

end

/-! ## Files -/

namespace Store

variable {α : Type} {s t u : Store α} {name : String} {o : Option α}

/-- Nothing has changed, except perhaps under one name. -/
def AgreeOff (name : String) (s t : Store α) : Prop := ∀ other, other ≠ name → t other = s other

theorem AgreeOff.refl (name : String) (s : Store α) : AgreeOff name s s := fun _ _ => rfl

/-- States that agree but for a file do so whatever becomes of this file. -/
theorem AgreeOff.update (h : AgreeOff name s t) (o : Option α) :
    AgreeOff name s (Function.update t name o) := by
  intro other hne
  rw [Function.update_of_ne hne]
  exact h other hne

/-- A name that was free is free again, and then nothing has changed. -/
theorem AgreeOff.update_none (h : AgreeOff name s t) (free : s name = none) :
    Function.update t name none = s := by
  funext other
  by_cases hother : other = name
  · rw [hother, Function.update_self, free]
  · rw [Function.update_of_ne hother]
    exact h other hother

/-- A name that was free is used and removed. If nothing else has changed meanwhile, nothing has
changed at all. -/
theorem restores_of_removed {I : Interface} {act : Store Bytes → Exchange I → Store Bytes → Prop}
    {created removed : Exchange I} {said : List (Exchange I)} {files files' : Store Bytes}
    {path : String} (leads : Leads act files (created :: said ++ [removed]) files')
    (creates : ∀ s t, act s created t → s path = none ∧ t = Function.update s path (some []))
    (removes : ∀ s t, act s removed t → t = Function.update s path none)
    (use : ∀ t, Leads act (Function.update files path (some [])) said t → AgreeOff path files t) :
    files' = files := by
  rw [List.cons_append, leads_cons_iff] at leads
  obtain ⟨_, hcreated, hrest⟩ := leads
  obtain ⟨free, rfl⟩ := creates _ _ hcreated
  obtain ⟨t, hsaid, hlast⟩ := leads_append_iff.mp hrest
  obtain ⟨u, hremoved, hend⟩ := leads_cons_iff.mp hlast
  rw [leads_nil_iff.mp hend, removes t u hremoved]
  exact (use t hsaid).update_none free

end Store

namespace Workbench

open Store

/-- The file that a deploy tool is told to write. -/
def Command.output? (command : Command) : Option String :=
  match command.arguments with
  | [_, _, _, "-o", path, _] => some path
  | _ => none

/-- What an exchange does to the files. A path that is created was free; what is in a file that could
not be written is unknown; and a tool touches no file but its output. -/
def Acts (files : Store Bytes) : Exchange interface → Store Bytes → Prop
  | ⟨.create _ _, .ok path⟩, files' =>
    files path = none ∧ files' = Function.update files path (some [])
  | ⟨.create _ _, .error _⟩, files' => files' = files
  | ⟨.write path content, .ok _⟩, files' => files' = Function.update files path (some content)
  | ⟨.write path _, .error _⟩, files' => AgreeOff path files files'
  | ⟨.read path, .ok content⟩, files' => files path = some content ∧ files' = files
  | ⟨.read _, .error _⟩, files' => files' = files
  | ⟨.remove path, _⟩, files' => files' = Function.update files path none
  | ⟨.run command _, _⟩, files' =>
    ∀ path, command.output? ≠ some path → files' path = files path

variable {files files' : Store Bytes}

/-- A tool touches its output only. -/
theorem agreeOff_of_run {tool : DeployTool} {requestPath outputPath contractPath : String}
    {limit : Nat} {outcome : Outcome}
    (h : Acts files ⟨.run (tool.command requestPath outputPath contractPath) limit, outcome⟩
      files') : AgreeOff outputPath files files' := by
  intro other hne
  have houtput : (tool.command requestPath outputPath contractPath).output? = some outputPath := rfl
  refine h other ?_
  rw [houtput]
  exact fun heq => hne (Option.some.inj heq).symm

end Workbench

/-! ## Deployments -/

namespace DeployTool

open Store Workbench

variable {tool : DeployTool} {contract : Contract} {inst : Instance} {port : String}
  {log before after : List (Exchange Workbench.interface)} {r : Except Failure Deployment}
  {files files' t : Store Bytes} {command : Command} {limit : Nat} {outcome : Outcome}

/-- While the tool is used, only its output changes. -/
theorem Used.agreeOff {contractPath requestPath outputPath : String}
    (h : Used tool contractPath requestPath outputPath log r) (leads : Leads Acts files log files') :
    AgreeOff outputPath files files' := by
  cases h with
  | refused =>
    rw [leads_nil_iff.mp leads]
    exact .refl outputPath files
  | failed =>
    obtain ⟨t, hrun, hend⟩ := leads_cons_iff.mp leads
    rw [leads_nil_iff.mp hend]
    exact agreeOff_of_run hrun
  | finished _ _ content =>
    obtain ⟨t, hrun, hread⟩ := leads_cons_iff.mp leads
    obtain ⟨u, hcontent, hend⟩ := leads_cons_iff.mp hread
    have hu : u = t := by
      cases content with
      | error => exact hcontent
      | ok => exact hcontent.2
    rw [leads_nil_iff.mp hend, hu]
    exact agreeOff_of_run hrun

/-- A deployment touches nothing but its request, once the file for that is there. -/
theorem Requested.agreeOff {contractPath path : String} {content : Bytes}
    (h : Requested tool contractPath content path log r) (leads : Leads Acts files log files') :
    AgreeOff path files files' := by
  cases h with
  | unwritten =>
    obtain ⟨t, hwrite, hend⟩ := leads_cons_iff.mp leads
    rw [leads_nil_iff.mp hend]
    exact hwrite
  | withoutOutput =>
    obtain ⟨_, rfl, hcreate⟩ := leads_cons_iff.mp leads
    obtain ⟨_, rfl, hend⟩ := leads_cons_iff.mp hcreate
    rw [leads_nil_iff.mp hend]
    exact (AgreeOff.refl path files).update _
  | used output used =>
    obtain ⟨_, rfl, houtput⟩ := leads_cons_iff.mp leads
    -- the output is gone in the end, so that only the request is another one
    have hrestored := restores_of_removed houtput (fun _ _ h => h) (fun _ _ h => h)
      fun t hused other hne => by
        rw [used.agreeOff hused other hne, Function.update_of_ne hne]
    rw [hrestored]
    exact (AgreeOff.refl path files).update _

/-- A deployment leaves the files as they were. -/
theorem Deployed.restores (h : Deployed tool contract inst port log r)
    (leads : Leads Acts files log files') : files' = files := by
  cases h with
  | unreachable => exact leads_nil_iff.mp leads
  | withoutRequest =>
    obtain ⟨_, rfl, hend⟩ := leads_cons_iff.mp leads
    exact leads_nil_iff.mp hend
  | requested _ path requested =>
    refine restores_of_removed leads (fun _ _ h => h) (fun _ _ h => h)
      fun t hrequested other hne => ?_
    rw [requested.agreeOff hrequested other hne, Function.update_of_ne hne]

/-- The tool is started at first, and on the three files. -/
theorem Used.nil_of_run {contractPath requestPath outputPath : String}
    (h : Used tool contractPath requestPath outputPath log r)
    (hlog : log = before ++ ⟨.run command limit, outcome⟩ :: after) :
    before = [] ∧ command = tool.command requestPath outputPath contractPath := by
  cases before with
  | nil =>
    cases h with
    | refused => cases hlog
    | failed | finished =>
      cases hlog
      exact ⟨rfl, rfl⟩
  | cons first before =>
    -- the tool is run first, and only once
    have hmem : ⟨.run command limit, outcome⟩ ∈ log.tail := by
      rw [hlog]
      exact List.mem_append_right before List.mem_cons_self
    cases h with
    | refused | failed | finished => simp at hmem

/-- Where the tool is run, its request is there and so is all that was there before. The output is
none of it. -/
theorem Deployed.inPlace (h : Deployed tool contract inst port log r)
    (hlog : log = before ++ ⟨.run command limit, outcome⟩ :: after)
    (leads : Leads Acts files before t) :
    ∃ requestPath outputPath request,
      command = tool.command requestPath outputPath contract.path ∧
      ⟨.write requestPath request, .ok ()⟩ ∈ before ∧
      (requestPath ≠ outputPath ∧ t requestPath = some request) ∧
      ∀ path body, files path = some body → path ≠ outputPath ∧ t path = some body := by
  have hmem : ⟨.run command limit, outcome⟩ ∈ log := by
    rw [hlog]
    exact List.mem_append_right before List.mem_cons_self
  cases h with
  | unreachable | withoutRequest => simp at hmem
  | @requested endpoint _ requestPath _ _ requested =>
    cases requested with
    | unwritten | withoutOutput => simp at hmem
    | @used outputPath said _ used =>
      -- both removals come after the run, and the files have been made before it
      obtain ⟨_, hlog⟩ := exists_append_of_notMem_right hlog (by simp)
      obtain ⟨_, hlog⟩ := exists_append_of_notMem_right
        (l := _ :: _ :: _ :: said) hlog (by simp)
      obtain ⟨between, rfl, hsaid⟩ := exists_append_of_notMem_left
        (l := [_, _, _]) hlog (by simp)
      obtain ⟨rfl, hcommand⟩ := used.nil_of_run hsaid
      obtain ⟨_, ⟨free, rfl⟩, hwrite⟩ := leads_cons_iff.mp leads
      obtain ⟨_, rfl, houtput⟩ := leads_cons_iff.mp hwrite
      obtain ⟨_, ⟨outputFree, rfl⟩, hend⟩ := leads_cons_iff.mp houtput
      have hne : requestPath ≠ outputPath := by
        rintro rfl
        rw [Function.update_self] at outputFree
        cases outputFree
      rw [leads_nil_iff.mp hend]
      refine ⟨requestPath, outputPath, _, hcommand, List.mem_cons_of_mem _ List.mem_cons_self,
        ⟨hne, ?_⟩, fun path body hbody => ?_⟩
      · rw [Function.update_of_ne hne, Function.update_self]
      · have hrequest : path ≠ requestPath := by
          rintro rfl
          rw [free] at hbody
          cases hbody
        have houtput : path ≠ outputPath := by
          rintro rfl
          rw [Function.update_of_ne hrequest, Function.update_of_ne hrequest, hbody] at outputFree
          cases outputFree
        rw [Function.update_of_ne houtput, Function.update_of_ne hrequest,
          Function.update_of_ne hrequest]
        exact ⟨houtput, hbody⟩

end DeployTool

/-! ## Downloads -/

namespace Contract

open Store Workbench

variable {source path : String} {timeout : Nat} {url : Url} {log : List (Exchange interface)}
  {files files' : Store Bytes}

/-- A body is had of answers that report success. -/
theorem exists_answered_of_body {url : Url} {outcome : Fetch.Outcome} {body : Bytes}
    (h : Fetch.body url outcome = .ok body) :
    ∃ status, outcome = .answered status (some body) ∧ isSuccess status = true := by
  cases outcome with
  | unanswered | redirected => cases h
  | answered status content =>
    simp only [Fetch.body] at h
    split at h
    · cases content with
      | none => cases h
      | some content =>
        cases h
        exact ⟨status, rfl, by assumption⟩
    · cases h

/-- The body has come with a response of success. -/
def Received (log : List (Exchange interface)) (body : Bytes) : Prop :=
  ∃ call status, ⟨.inl call, .answered status (some body)⟩ ∈ log ∧ isSuccess status = true

/-- What was fetched was received. -/
theorem Fetched.received {body : Bytes} (h : Fetched url timeout log (.ok body)) :
    Received log body := by
  generalize hr : Except.ok body = r at h
  cases h with
  | unsendable => cases hr
  | asked _ outcome =>
    obtain ⟨status, rfl, success⟩ := exists_answered_of_body hr.symm
    exact ⟨_, status, List.mem_cons_self, success⟩

/-- Fetching changes no file. -/
theorem Fetched.leads_eq {r : Except String Bytes} (h : Fetched url timeout log r)
    (leads : Leads (onRight Acts) files log files') : files' = files := by
  cases h with
  | unsendable => exact leads_nil_iff.mp leads
  | asked =>
    obtain ⟨_, rfl, hend⟩ := leads_cons_iff.mp leads
    exact leads_nil_iff.mp hend

/-- Fetching into a file changes no other. -/
theorem FetchedInto.agreeOff {r : Except Failure Unit}
    (h : FetchedInto path source url timeout log r)
    (leads : Leads (onRight Acts) files log files') : AgreeOff path files files' := by
  cases h with
  | unfetched fetched =>
    rw [fetched.leads_eq leads]
    exact .refl path files
  | written fetched written =>
    obtain ⟨t, hsaid, hlast⟩ := leads_append_iff.mp leads
    obtain ⟨u, hwrite, hend⟩ := leads_cons_iff.mp hlast
    rw [leads_nil_iff.mp hend]
    rw [fetched.leads_eq hsaid] at hwrite
    cases written with
    | error => exact hwrite
    | ok =>
      obtain rfl : u = _ := hwrite
      exact (AgreeOff.refl path files).update _

/-- The file then holds what was received. -/
theorem FetchedInto.received (h : FetchedInto path source url timeout log (.ok ()))
    (leads : Leads (onRight Acts) files log files') :
    ∃ body, Received log body ∧ files' path = some body := by
  generalize hr : Except.ok () = r at h
  cases h with
  | unfetched => cases hr
  | @written said body fetched written =>
    cases written with
    | error => cases hr
    | ok =>
      obtain ⟨t, -, hlast⟩ := leads_append_iff.mp leads
      obtain ⟨_, rfl, hend⟩ := leads_cons_iff.mp hlast
      obtain ⟨call, status, hmem, success⟩ := fetched.received
      refine ⟨body, ⟨call, status, List.mem_append_left _ hmem, success⟩, ?_⟩
      rw [leads_nil_iff.mp hend, Function.update_self]

/-- A download that fails leaves the files as they were. -/
theorem Downloaded.restores {e : Failure} (h : Downloaded source timeout log (.error e))
    (leads : Leads (onRight Acts) files log files') : files' = files := by
  generalize hr : Except.error e = r at h
  cases h with
  | rejected => exact leads_nil_iff.mp leads
  | uncreated =>
    obtain ⟨_, rfl, hend⟩ := leads_cons_iff.mp leads
    exact leads_nil_iff.mp hend
  | failed _ fetched =>
    refine restores_of_removed leads (fun _ _ h => h) (fun _ _ h => h)
      fun t hfetched other hne => ?_
    rw [fetched.agreeOff hfetched other hne, Function.update_of_ne hne]
  | stored => cases hr

/-- A download that succeeds leaves one file more, with what has been received. -/
theorem Downloaded.received (h : Downloaded source timeout log (.ok path))
    (leads : Leads (onRight Acts) files log files') :
    files path = none ∧ AgreeOff path files files' ∧
      ∃ body, Received log body ∧ files' path = some body := by
  generalize hr : Except.ok path = r at h
  cases h with
  | rejected | uncreated | failed => cases hr
  | stored _ fetched =>
    cases hr
    obtain ⟨_, ⟨free, rfl⟩, hrest⟩ := leads_cons_iff.mp leads
    obtain ⟨body, ⟨call, status, hmem, success⟩, hbody⟩ := fetched.received hrest
    refine ⟨free, fun other hne => ?_, body, ⟨call, status, List.mem_cons_of_mem _ hmem, success⟩,
      hbody⟩
    rw [fetched.agreeOff hrest other hne, Function.update_of_ne hne]

end Contract

/-! ## Binds -/

namespace Broker

open Store

variable {I : Interface} {s : Setup I} {log before after : List (Exchange (Surroundings I))}
  {files files' t : Store Bytes}

/-- What an exchange of a bind does to the files. Platforms and servers do nothing to them. -/
abbrev Acts : Store Bytes → Exchange (Surroundings I) → Store Bytes → Prop :=
  onRight (onRight Workbench.Acts)

/-- What happens at the workbench of a binding is what happens there alone. -/
theorem leads_atWorkbench_iff {said : List (Exchange Workbench.interface)} :
    Leads Acts files (said.map (atWorkbench (I := I))) files' ↔
      Leads Workbench.Acts files said files' := by
  have hmap : said.map (atWorkbench (I := I)) = (said.map .inr).map .inr := by
    rw [List.map_map]
    rfl
  rw [hmap, leads_map_inr_iff, leads_map_inr_iff]

/-- What is said in a bind, part by part. -/
inductive Parts (s : Setup I) : List (Exchange (Surroundings I)) → Prop where
  | nothing : Parts s []
  | undownloaded {url : String} {e : Failure} {download : List (Exchange Contract.interface)}
      (downloaded : Contract.Downloaded url s.downloadTimeout download (.error e)) :
    Parts s (download.map .inr)
  | undeployed {url path : String} {download : List (Exchange Contract.interface)}
      (downloaded : Contract.Downloaded url s.downloadTimeout download (.ok path))
      (bound : List (Exchange I)) :
    Parts s (download.map .inr ++ (bound.map .inl ++ [⟨.inr (.inr (.remove path)), ()⟩]))
  | deployed {url : String} {download : List (Exchange Contract.interface)} {contract : Contract}
      (downloaded : Contract.Downloaded url s.downloadTimeout download (.ok contract.path))
      (bound : List (Exchange I)) {inst : Instance} {port : String}
      {deploy : List (Exchange Workbench.interface)} {r : Except Failure Deployment}
      (deployed : DeployTool.Deployed s.tool contract inst port deploy r) :
    Parts s (download.map .inr ++ (bound.map .inl ++ (deploy.map atWorkbench ++
      [⟨.inr (.inr (.remove contract.path)), ()⟩])))

/-- Each binding consists of such parts. -/
theorem parts_of_run {catalog : Catalog} {serviceId planId instanceId bindingId : String}
    {payload : Bytes} {result : Except Failure Credentials}
    (run : Transcript (s.run (bind catalog serviceId planId instanceId bindingId payload)).run log
      result) : Parts s log := by
  obtain ⟨outer, hbind, spelled⟩ := transcript_run_iff.mp run
  cases transcript_bind hbind with
  | unknown | unreadable | unnamed =>
    cases spelled
    exact .nothing
  | undownloaded =>
    obtain ⟨download, hdownload, rfl⟩ :=
      transcript_besides_iff.mp (spelled_singleton_iff.mp spelled)
    exact .undownloaded (Contract.transcript_download hdownload)
  | downloaded _ _ _ path connected =>
    cases spelled with
    | cons first others =>
      obtain ⟨download, hdownload, rfl⟩ := transcript_besides_iff.mp first
      have downloaded := Contract.transcript_download hdownload
      cases connected with
      | unbound | portless =>
        cases others with
        | cons second others =>
          obtain ⟨bound, -, rfl⟩ := transcript_onPlatform_iff.mp second
          have last : Transcript (s.answer (.discard path)) _ () := spelled_singleton_iff.mp others
          rw [transcript_question_iff.mp last]
          exact .undeployed downloaded bound
      | undeployed | deployed =>
        cases others with
        | cons second others =>
          obtain ⟨bound, -, rfl⟩ := transcript_onPlatform_iff.mp second
          cases others with
          | cons third others =>
            obtain ⟨deploy, hdeploy, rfl⟩ := transcript_deploy_iff.mp third
            have last : Transcript (s.answer (.discard path)) _ () :=
              spelled_singleton_iff.mp others
            rw [transcript_question_iff.mp last]
            exact .deployed downloaded bound (DeployTool.transcript_deploy hdeploy)

/-- What a download has left is removed, and that is all if nothing else is done. -/
theorem restores_of_discarded {url path : String} {timeout : Nat}
    {download : List (Exchange Contract.interface)} {bound : List (Exchange I)}
    {rest : List (Exchange (Surroundings I))}
    (downloaded : Contract.Downloaded url timeout download (.ok path))
    (leads : Leads Acts files (download.map .inr ++ (bound.map .inl ++ rest)) files')
    (discards : ∀ t, Leads Acts t rest files' → files' = Function.update t path none) :
    files' = files := by
  obtain ⟨t, hdownload, hothers⟩ := leads_append_iff.mp leads
  obtain ⟨free, hsame, -⟩ := downloaded.received (leads_map_inr_iff.mp hdownload)
  obtain ⟨u, hbound, hrest⟩ := leads_append_iff.mp hothers
  rw [leads_map_inl_iff.mp hbound] at hrest
  rw [discards t hrest]
  exact hsame.update_none free

/-- A file that is discarded is gone, and no other is. -/
theorem eq_update_of_discard {path : String}
    (leads : Leads (Acts (I := I)) files [⟨.inr (.inr (.remove path)), ()⟩] files') :
    files' = Function.update files path none := by
  obtain ⟨_, rfl, hend⟩ := leads_cons_iff.mp leads
  exact leads_nil_iff.mp hend

/-- A bind leaves the files as they were. -/
theorem Parts.restores (h : Parts s log) (leads : Leads Acts files log files') :
    files' = files := by
  cases h with
  | nothing => exact leads_nil_iff.mp leads
  | undownloaded downloaded => exact downloaded.restores (leads_map_inr_iff.mp leads)
  | undeployed downloaded =>
    exact restores_of_discarded downloaded leads fun t hlast => eq_update_of_discard hlast
  | deployed downloaded bound deployed =>
    refine restores_of_discarded downloaded leads fun t hrest => ?_
    obtain ⟨u, hdeploy, hlast⟩ := leads_append_iff.mp hrest
    rw [deployed.restores (leads_atWorkbench_iff.mp hdeploy)] at hlast
    exact eq_update_of_discard hlast

/-- While the tool runs, whatever it does to its output, it finds the contract that has been received
and the request that has been written. -/
def InPlace (tool : DeployTool) (command : Workbench.Command)
    (past : List (Exchange (Surroundings I))) (files : Store Bytes) : Prop :=
  ∃ requestPath outputPath contractPath request body call status,
    command = tool.command requestPath outputPath contractPath ∧
    ⟨.inr (.inl call), .answered status (some body)⟩ ∈ past ∧ isSuccess status = true ∧
    ⟨.inr (.inr (.write requestPath request)), .ok ()⟩ ∈ past ∧
    ∀ during, AgreeOff outputPath files during →
      during contractPath = some body ∧ during requestPath = some request

/-- No tool is started during a download. -/
theorem notMem_download {url : String} {timeout : Nat} {r : Except Failure String}
    {download : List (Exchange Contract.interface)}
    (h : Contract.Downloaded url timeout download r) (command : Workbench.Command) (limit : Nat)
    (outcome : Workbench.Outcome) :
    (⟨.inr (.inr (.run command limit)), outcome⟩ : Exchange (Surroundings I)) ∉
      download.map Exchange.inr := by
  intro hmem
  obtain ⟨⟨q, a⟩, he, heq⟩ := List.mem_map.mp hmem
  have hnot := h.not_run _ he
  cases heq
  cases hnot

/-- Nor is one while the platform is asked. -/
theorem notMem_bound (bound : List (Exchange I)) (command : Workbench.Command) (limit : Nat)
    (outcome : Workbench.Outcome) :
    (⟨.inr (.inr (.run command limit)), outcome⟩ : Exchange (Surroundings I)) ∉
      bound.map Exchange.inl := by
  intro hmem
  obtain ⟨e, -, heq⟩ := List.mem_map.mp hmem
  cases heq

/-- Where the tool is run, the contract has been downloaded, the platform has been asked, and the
deployment has come to the tool. -/
theorem Parts.exists_of_run (h : Parts s log) {command : Workbench.Command} {limit : Nat}
    {outcome : Workbench.Outcome}
    (hlog : log = before ++ ⟨.inr (.inr (.run command limit)), outcome⟩ :: after) :
    ∃ (url : String) (contract : Contract) (inst : Instance) (port : String)
      (r : Except Failure Deployment) (download : List (Exchange Contract.interface))
      (bound : List (Exchange I)) (said rest : List (Exchange Workbench.interface)),
      Contract.Downloaded url s.downloadTimeout download (.ok contract.path) ∧
      DeployTool.Deployed s.tool contract inst port
        (said ++ ⟨.run command limit, outcome⟩ :: rest) r ∧
      before = download.map Exchange.inr ++ (bound.map Exchange.inl ++ said.map atWorkbench) := by
  have hmem : ⟨.inr (.inr (.run command limit)), outcome⟩ ∈ log := by
    rw [hlog]
    exact List.mem_append_right before List.mem_cons_self
  cases h with
  | nothing => cases hmem
  | undownloaded downloaded => exact absurd hmem (notMem_download downloaded command limit outcome)
  | undeployed downloaded bound =>
    rcases List.mem_append.mp hmem with hmem | hmem
    · exact absurd hmem (notMem_download downloaded command limit outcome)
    · rcases List.mem_append.mp hmem with hmem | hmem
      · exact absurd hmem (notMem_bound bound command limit outcome)
      · cases List.mem_singleton.mp hmem
  | deployed downloaded bound deployed =>
    -- neither the download nor the platform runs the tool, and the contract is removed last
    obtain ⟨_, rfl, hbound⟩ := exists_append_of_notMem_left hlog
      (notMem_download downloaded command limit outcome)
    obtain ⟨_, rfl, hlast⟩ := exists_append_of_notMem_left hbound
      (notMem_bound bound command limit outcome)
    obtain ⟨_, hdeploy⟩ := exists_append_of_notMem_right hlast
      fun h => nomatch List.mem_singleton.mp h
    obtain ⟨said, rest, rfl, rfl, hrest⟩ := List.map_eq_append_iff.mp hdeploy
    obtain ⟨⟨q, a⟩, rest, rfl, hrun, -⟩ := List.map_eq_cons_iff.mp hrest
    cases hrun
    exact ⟨_, _, _, _, _, _, bound, said, rest, downloaded, deployed, rfl⟩

/-- When the tool is started, the contract and the request are in place. -/
theorem Parts.inPlace (h : Parts s log) {command : Workbench.Command} {limit : Nat}
    {outcome : Workbench.Outcome}
    (hlog : log = before ++ ⟨.inr (.inr (.run command limit)), outcome⟩ :: after)
    (leads : Leads Acts files before t) : InPlace s.tool command before t := by
  obtain ⟨_, contract, _, _, _, download, bound, said, _, downloaded, deployed, rfl⟩ :=
    h.exists_of_run hlog
  obtain ⟨u, hdownload, hleads⟩ := leads_append_iff.mp leads
  obtain ⟨v, hbound, hsaid⟩ := leads_append_iff.mp hleads
  rw [leads_map_inl_iff.mp hbound] at hsaid
  obtain ⟨-, -, body, ⟨call, status, hanswered, success⟩, hbody⟩ :=
    downloaded.received (leads_map_inr_iff.mp hdownload)
  obtain ⟨requestPath, outputPath, request, hcommand, hwritten, ⟨hne, hrequest⟩, hkept⟩ :=
    deployed.inPlace rfl (leads_atWorkbench_iff.mp hsaid)
  obtain ⟨hcontract, hbody⟩ := hkept contract.path body hbody
  refine ⟨requestPath, outputPath, contract.path, request, body, call, status, hcommand, ?_,
    success, ?_, fun during hduring => ⟨?_, ?_⟩⟩
  · exact List.mem_append_left _ (List.mem_map.mpr ⟨_, hanswered, rfl⟩)
  · exact List.mem_append_right _ (List.mem_append_right _ (List.mem_map.mpr ⟨_, hwritten, rfl⟩))
  · rw [hduring contract.path hcontract, hbody]
  · rw [hduring requestPath hne, hrequest]

/-- **A bind leaves no file behind, and the tool finds its own.** Whatever is answered, and whatever
the tool does to its output, the files are the same after a bind as before it. Where the tool is run,
the contract and the request are there, and stay there until it ends. -/
theorem bind_restores_files {s : Setup I} {catalog : Catalog}
    {serviceId planId instanceId bindingId : String} {payload : Bytes}
    {result : Except Failure Credentials}
    (run : Transcript (s.run (bind catalog serviceId planId instanceId bindingId payload)).run log
      result) (leads : Leads Acts files log files') :
    files' = files ∧
      ∀ before command limit outcome after t,
        log = before ++ ⟨.inr (.inr (.run command limit)), outcome⟩ :: after →
        Leads Acts files before t → InPlace s.tool command before t := by
  have parts : Parts s log := parts_of_run run
  exact ⟨parts.restores leads, fun _ _ _ _ _ _ hlog hleads => parts.inPlace hlog hleads⟩

end Broker

/-! ### A tool that is stopped in its work -/

namespace Docker

open Broker

/-- The files before the bind. -/
def notes : Store Bytes := Function.update Store.empty "notes.txt" (some [110, 111])

/-- The exchanges of the bind before the tool is run. -/
def ethBefore (table : PortTable) (request : Bytes) : List (Exchange (Surroundings interface)) :=
  let inspected : Exchange (Surroundings interface) := ⟨.inl (.inspect "node"), .ok ⟨some table⟩⟩
  ethDownload.map Exchange.inr ++ ([inspected] ++ ((ethDeploy request).take 3).map atWorkbench)

def ethAfter : List (Exchange (Surroundings interface)) :=
  [⟨.inr (.inr (.remove "o.json")), ()⟩, ⟨.inr (.inr (.remove "r.json")), ()⟩,
    ⟨.inr (.inr (.remove "c.sol")), ()⟩]

theorem ethBind_eq (table : PortTable) (request : Bytes) :
    ethBind table request = ethBefore table request ++
      ⟨.inr (.inr (.run (ethTool.command "r.json" "o.json" "c.sol") 1000)), .timedOut⟩ ::
        ethAfter := rfl

theorem leads_ethBefore (table : PortTable) (request : Bytes) :
    ∃ t, Leads Acts notes (ethBefore table request) t := by
  have hcontract : notes "c.sol" = none := by decide
  exact ⟨_, .cons ⟨hcontract, rfl⟩ (.cons rfl (.cons rfl (.cons rfl (.cons ⟨rfl, rfl⟩ (.cons rfl
    (.cons ⟨rfl, rfl⟩ (.nil _)))))))⟩

/-- The tool has written a part of its output when it is stopped. -/
theorem leads_stopped (t : Store Bytes) :
    ∃ files', Leads Acts t
      (⟨.inr (.inr (.run (ethTool.command "r.json" "o.json" "c.sol") 1000)), .timedOut⟩ ::
        ethAfter) files' := by
  have hrun : ∀ path, (ethTool.command "r.json" "o.json" "c.sol").output? ≠ some path →
      Function.update t "o.json" (some [123]) path = t path := by
    intro path hpath
    refine Function.update_of_ne (fun h => hpath ?_) ..
    rw [h]
    rfl
  exact ⟨_, .cons hrun (.cons rfl (.cons rfl (.cons rfl (.nil _))))⟩

/-- Nothing is left of the output, and the notes are untouched. -/
theorem bind_restores_notes :
    ∃ request result t files',
      Transcript (ethSetup.run (Broker.bind Catalog.ethCatalog "eth" "dev" "node" "binding"
        ethPayload)).run (ethBind tcpTable request) result ∧
      Leads Acts notes (ethBind tcpTable request) files' ∧ files' = notes ∧
      Leads Acts notes (ethBefore tcpTable request) t ∧
      InPlace ethTool (ethTool.command "r.json" "o.json" "c.sol") (ethBefore tcpTable request) t := by
  obtain ⟨request, run⟩ := @transcript_run_eth tcpTable ⟨"49153", "0.0.0.0"⟩ (by decide)
  obtain ⟨t, hbefore⟩ := leads_ethBefore tcpTable request
  obtain ⟨files', hstopped⟩ := leads_stopped t
  have leads : Leads Acts notes (ethBind tcpTable request) files' := by
    rw [ethBind_eq]
    exact leads_append_iff.mpr ⟨t, hbefore, hstopped⟩
  obtain ⟨restores, inPlace⟩ := bind_restores_files run leads
  exact ⟨request, _, t, files', run, leads, restores, hbefore,
    inPlace _ _ _ _ _ t (ethBind_eq tcpTable request) hbefore⟩

end Docker

end ChainBroker
