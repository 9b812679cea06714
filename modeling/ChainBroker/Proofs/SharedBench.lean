import ChainBroker.Proofs.Interleaving
import ChainBroker.Proofs.TemporaryFiles

/-!
# A bench that deployments share

Deployments take turns at one bench, with one set of files (`Workbench.shared`). All else is left to
chance: the names of new files, what the tools do, and whatever goes wrong. A tool sees no files but
its script, its request and its contract, and it changes no file but its output.

* `Workbench.held`: the temporary files of a deployment, from its first word up to its removal.
* `Scene.Fresh`: the name of a new file is not in use.
* `Workbench.Corresponds`: two dialogues do the same, each of them with the files that it holds.
* `DeployTool.corresponds_deploy`: a deployment does the same whatever its files are called.
-/

namespace ChainBroker

open Dialogue

namespace Workbench

/-! ## The bench -/

/-- The files that a tool is called with. -/
structure Places where
  script : String
  request : String
  output : String
  contract : String

/-- The files that a command is about. -/
def Command.places? (command : Command) : Option Places :=
  match command.arguments with
  | [script, "-c", request, "-o", output, contract] => some ⟨script, request, output, contract⟩
  | _ => none

theorem places?_command (tool : DeployTool) (requestPath outputPath contractPath : String) :
    (tool.command requestPath outputPath contractPath).places? =
      some ⟨tool.script, requestPath, outputPath, contractPath⟩ := by
  simp [Command.places?, DeployTool.command]

theorem output?_of_places? {command : Command} {places : Places}
    (h : command.places? = some places) : command.output? = some places.output := by
  unfold Command.places? at h
  split at h
  · cases h
    simp only [Command.output?, *]
  · cases h

/-- What a tool finds in the files that it is called with. -/
structure Readings where
  /-- The script, if it is there. -/
  script : Option Bytes
  /-- The request, if it is there. -/
  request : Option Bytes
  /-- The contract, if it is there. -/
  contract : Option Bytes

/-- What is read where the files are. -/
def Places.readings (places : Places) (files : Store Bytes) : Readings where
  script := files places.script
  request := files places.request
  contract := files places.contract

/-- What a tool does to its output. -/
inductive Change where
  | leave
  | write (content : Bytes)
  | delete

/-- What is there after a change. -/
def Change.apply : Change → Option Bytes → Option Bytes
  | leave, old => old
  | write content, _ => some content
  | delete, _ => none

/-- A name that a file can have. -/
abbrev FileName : Type := { path : String // '\x00' ∉ path.toList }

/-- What is left to chance in a turn at the bench. -/
structure Luck where
  /-- The name of a new file, or why there is none. -/
  created : Except OsError FileName
  /-- Why a file cannot be written, and what is there instead. -/
  unwritten : Option (OsError × Option Bytes)
  /-- Why a file cannot be read although it is there. -/
  unread : Option OsError
  /-- What a tool does, by what it reads. -/
  work : Readings → Outcome × Change

/-- What comes of a question. -/
def respond (luck : Luck) : (call : Call) → Store Bytes → call.Answer × Store Bytes
  | .create _ _, files =>
    match luck.created with
    | .ok name => (.ok name.1, Function.update files name.1 (some []))
    | .error cause => (.error cause, files)
  | .write path content, files =>
    match luck.unwritten with
    | none => (.ok (), Function.update files path (some content))
    | some (cause, left) => (.error cause, Function.update files path left)
  | .read path, files =>
    match luck.unread, files path with
    | some cause, _ => (.error cause, files)
    | none, some content => (.ok content, files)
    | none, none => (.error .noSuchFile, files)
  | .remove path, files => ((), Function.update files path none)
  | .run command _, files =>
    match command.places? with
    | none => ((luck.work ⟨none, none, none⟩).1, files)
    | some places =>
      let (outcome, change) := luck.work (places.readings files)
      (outcome, Function.update files places.output (change.apply (files places.output)))

/-- A bench at which any number of deployments work. -/
abbrev shared : World interface where
  State := Store Bytes
  Chance := Luck
  react := respond

/-- What becomes of the files is what the exchange does to them. -/
theorem acts_respond {luck : Luck} {q : Call} {files : Store Bytes}
    (free : ∀ start ending name, q = .create start ending → luck.created = .ok name →
      files name.1 = none) : Acts files ⟨q, (respond luck q files).1⟩ (respond luck q files).2 := by
  cases q with
  | create start ending =>
    simp only [respond]
    cases hcreated : luck.created with
    | error cause => rfl
    | ok name => exact ⟨free start ending name rfl hcreated, rfl⟩
  | write path content =>
    simp only [respond]
    cases luck.unwritten with
    | none => rfl
    | some trouble => exact (Store.AgreeOff.refl path files).update _
  | read path =>
    simp only [respond]
    cases luck.unread with
    | some cause => rfl
    | none =>
      cases hcontent : files path with
      | none => rfl
      | some content => exact ⟨hcontent, rfl⟩
  | remove path => rfl
  | run command limit =>
    intro path houtput
    simp only [respond]
    cases hplaces : command.places? with
    | none => rfl
    | some places =>
      refine Function.update_of_ne (fun heq => houtput ?_) ..
      rw [heq, output?_of_places? hplaces]

instance (call : interface.Question) : Nonempty (interface.Answer call) := by
  cases call with
  | create => exact ⟨.error .noSuchFile⟩
  | write => exact ⟨.ok ()⟩
  | read => exact ⟨.error .noSuchFile⟩
  | remove => exact ⟨()⟩
  | run => exact ⟨.timedOut⟩

/-! ## Files in use -/

/-- The files that are held after an exchange: one that has been created is held until it is removed,
even if a tool has deleted it meanwhile. -/
def hold (names : List String) : Exchange interface → List String
  | ⟨.create _ _, .ok path⟩ => path :: names
  | ⟨.remove path, _⟩ => names.erase path
  | _ => names

/-- The temporary files that are held after a log. -/
def held (log : List (Exchange interface)) : List String := log.foldl hold []

theorem held_concat (log : List (Exchange interface)) (e : Exchange interface) :
    held (log ++ [e]) = hold (held log) e := by
  simp [held]

/-! ## Dialogues that correspond -/

/-- Two dialogues ask for the same, but for the names of the temporary files. `names` are those that
they hold, in pairs; `Pair` says which names may be given to both, and `Same` which results are the
same. -/
inductive Corresponds (script contract : String) (Pair : FileName → FileName → Prop) {α : Type}
    (Same : List (String × String) → α → α → Prop) :
    List (String × String) → Dialogue interface α → Dialogue interface α → Prop where
  /-- Both are done. -/
  | done {names : List (String × String)} {a a' : α} (same : Same names a a') :
    Corresponds script contract Pair Same names (.done a) (.done a')
  /-- Both create a file. -/
  | create {names : List (String × String)} {start ending : String}
    {next next' : Except OsError String → Dialogue interface α}
    (failed : ∀ cause,
      Corresponds script contract Pair Same names (next (.error cause)) (next' (.error cause)))
    (created : ∀ name name', Pair name name' →
      Corresponds script contract Pair Same ((name.1, name'.1) :: names) (next (.ok name.1))
        (next' (.ok name'.1))) :
    Corresponds script contract Pair Same names (.ask (.create start ending) next)
      (.ask (.create start ending) next')
  /-- Both write the same into a file that they hold. -/
  | write {names : List (String × String)} {path path' : String} {content : Bytes}
    {next next' : Except OsError Unit → Dialogue interface α} (mem : (path, path') ∈ names)
    (rest : ∀ answer, Corresponds script contract Pair Same names (next answer) (next' answer)) :
    Corresponds script contract Pair Same names (.ask (.write path content) next)
      (.ask (.write path' content) next')
  /-- Both read a file that they hold. -/
  | read {names : List (String × String)} {path path' : String}
    {next next' : Except OsError Bytes → Dialogue interface α} (mem : (path, path') ∈ names)
    (rest : ∀ answer, Corresponds script contract Pair Same names (next answer) (next' answer)) :
    Corresponds script contract Pair Same names (.ask (.read path) next) (.ask (.read path') next')
  /-- Both remove the file that they have created last. -/
  | remove {names : List (String × String)} {path path' : String}
    {next next' : Unit → Dialogue interface α}
    (rest : ∀ answer, Corresponds script contract Pair Same names (next answer) (next' answer)) :
    Corresponds script contract Pair Same ((path, path') :: names) (.ask (.remove path) next)
      (.ask (.remove path') next')
  /-- Both run the tool on files that they hold. -/
  | run {names : List (String × String)} {program : String} {limit : Nat}
    {request request' output output' : String} {next next' : Outcome → Dialogue interface α}
    (mem_request : (request, request') ∈ names) (mem_output : (output, output') ∈ names)
    (rest : ∀ answer, Corresponds script contract Pair Same names (next answer) (next' answer)) :
    Corresponds script contract Pair Same names
      (.ask (.run ⟨program, [script, "-c", request, "-o", output, contract]⟩ limit) next)
      (.ask (.run ⟨program, [script, "-c", request', "-o", output', contract]⟩ limit) next')

namespace Corresponds

variable {script contract : String} {Pair : FileName → FileName → Prop} {α β : Type}
  {Same : List (String × String) → α → α → Prop} {Same' : List (String × String) → β → β → Prop}
  {names : List (String × String)}

theorem bind {d d' : Dialogue interface α} {f f' : α → Dialogue interface β}
    (h : Corresponds script contract Pair Same names d d')
    (hf : ∀ names a a', Same names a a' →
      Corresponds script contract Pair Same' names (f a) (f' a')) :
    Corresponds script contract Pair Same' names (d.bind f) (d'.bind f') := by
  induction h with
  | done same => exact hf _ _ _ same
  | create _ _ ihfailed ihcreated =>
    exact .create ihfailed fun name name' hpair => ihcreated name name' hpair
  | write mem _ ih => exact .write mem ih
  | read mem _ ih => exact .read mem ih
  | remove _ ih => exact .remove ih
  | run mem_request mem_output _ ih => exact .run mem_request mem_output ih

/-- Uses that correspond make temporary files that do. -/
theorem withFile {Result : Except Failure α → Except Failure α → Prop}
    (refl : ∀ r, Result r r) {start ending : String} {use use' : String → Attempt interface Failure α}
    (h : ∀ name name', Pair name name' →
      Corresponds script contract Pair
        (fun held r r' => held = (name.1, name'.1) :: names ∧ Result r r')
        ((name.1, name'.1) :: names) (use name.1).run (use' name'.1).run) :
    Corresponds script contract Pair (fun held r r' => held = names ∧ Result r r') names
      (Workbench.withFile start ending use).run (Workbench.withFile start ending use').run := by
  refine .create (fun cause => .done ⟨rfl, refl _⟩) fun name name' hpair => ?_
  refine (h name name' hpair).bind fun held r r' hr => ?_
  obtain ⟨rfl, hresult⟩ := hr
  exact .remove fun _ => .done ⟨rfl, hresult⟩

end Corresponds

/-! ## Dialogues that correspond go on alike -/

/-- The chances are the same, but for the name of a new file. -/
structure Luck.Like (Pair : FileName → FileName → Prop) (luck luck' : Luck) : Prop where
  created : (∃ cause, luck.created = .error cause ∧ luck'.created = .error cause) ∨
    ∃ name name', Pair name name' ∧ luck.created = .ok name ∧ luck'.created = .ok name'
  unwritten : luck'.unwritten = luck.unwritten
  unread : luck'.unread = luck.unread
  work : luck'.work = luck.work

theorem Luck.Like.refl (luck : Luck) : luck.Like Eq luck where
  created := by
    cases luck.created with
    | error cause => exact .inl ⟨cause, rfl, rfl⟩
    | ok name => exact .inr ⟨name, name, rfl, rfl, rfl⟩
  unwritten := rfl
  unread := rfl
  work := rfl

/-- In each pair, the one file holds what the other one does. -/
structure Mirrors (Pair : FileName → FileName → Prop) (names : List (String × String))
    (files files' : Store Bytes) : Prop where
  paired : ∀ p ∈ names, ∃ name name', Pair name name' ∧ p = (name.1, name'.1)
  nodup : (names.map Prod.fst).Nodup
  nodup' : (names.map Prod.snd).Nodup
  same : ∀ p ∈ names, files p.1 = files' p.2

namespace Mirrors

variable {Pair : FileName → FileName → Prop} {names : List (String × String)}
  {files files' : Store Bytes} {path path' : String}

theorem nil (Pair : FileName → FileName → Prop) (files files' : Store Bytes) :
    Mirrors Pair [] files files' :=
  ⟨by simp, .nil, .nil, by simp⟩

/-- The same is put into both files of a pair. -/
theorem update (h : Mirrors Pair names files files') (mem : (path, path') ∈ names)
    (content : Option Bytes) :
    Mirrors Pair names (Function.update files path content)
      (Function.update files' path' content) where
  paired := h.paired
  nodup := h.nodup
  nodup' := h.nodup'
  same := by
    intro p hp
    by_cases hpath : p = (path, path')
    · subst hpath
      rw [Function.update_self, Function.update_self]
    · have hne : p.1 ≠ path := fun heq =>
        hpath (List.inj_on_of_nodup_map h.nodup hp mem heq)
      have hne' : p.2 ≠ path' := fun heq =>
        hpath (List.inj_on_of_nodup_map h.nodup' hp mem heq)
      rw [Function.update_of_ne hne, Function.update_of_ne hne']
      exact h.same p hp

/-- Both files of a new pair are empty. -/
theorem cons (h : Mirrors Pair names files files') {name name' : FileName} (pair : Pair name name')
    (new : name.1 ∉ names.map Prod.fst) (new' : name'.1 ∉ names.map Prod.snd) :
    Mirrors Pair ((name.1, name'.1) :: names) (Function.update files name.1 (some []))
      (Function.update files' name'.1 (some [])) where
  paired := List.forall_mem_cons.mpr ⟨⟨name, name', pair, rfl⟩, h.paired⟩
  nodup := List.nodup_cons.mpr ⟨new, h.nodup⟩
  nodup' := List.nodup_cons.mpr ⟨new', h.nodup'⟩
  same := by
    refine List.forall_mem_cons.mpr ⟨?_, fun p hp => ?_⟩
    · rw [Function.update_self, Function.update_self]
    · have hne : p.1 ≠ name.1 := fun heq => new (heq ▸ List.mem_map_of_mem hp)
      have hne' : p.2 ≠ name'.1 := fun heq => new' (heq ▸ List.mem_map_of_mem hp)
      rw [Function.update_of_ne hne, Function.update_of_ne hne']
      exact h.same p hp

/-- Both files of a pair are removed. -/
theorem tail (h : Mirrors Pair ((path, path') :: names) files files') :
    Mirrors Pair names (Function.update files path none) (Function.update files' path' none) where
  paired := (List.forall_mem_cons.mp h.paired).2
  nodup := (List.nodup_cons.mp h.nodup).2
  nodup' := (List.nodup_cons.mp h.nodup').2
  same := fun p hp => (h.update List.mem_cons_self none).same p (List.mem_cons_of_mem _ hp)

end Mirrors

/-- No file is deleted by a tool, or by an attempt to write it. -/
structure Luck.Keeps (luck : Luck) : Prop where
  written : ∀ cause left, luck.unwritten = some (cause, left) → left ≠ none
  worked : ∀ readings, (luck.work readings).2 ≠ .delete

theorem update_ne_none {files : Store Bytes} {path other : String} {content : Option Bytes}
    (hpath : files path ≠ none) (hcontent : content ≠ none) :
    Function.update files other content path ≠ none := by
  by_cases h : path = other
  · rw [h, Function.update_self]
    exact hcontent
  · rwa [Function.update_of_ne h]

namespace Corresponds

variable {script contract : String} {Pair : FileName → FileName → Prop} {α : Type}
  {Same : List (String × String) → α → α → Prop} {names : List (String × String)}
  {luck luck' : Luck} {files files' : Store Bytes} {q q' : Call}
  {next : q.Answer → Dialogue interface α} {next' : q'.Answer → Dialogue interface α}

/-- A turn changes the files that are held, and the one that is created. -/
theorem frame {d : Dialogue interface α}
    (h : Corresponds script contract Pair Same names (.ask q next) d) (luck : Luck)
    (files : Store Bytes) {path : String} (before : path ∉ names.map Prod.fst)
    (after : path ∉ hold (names.map Prod.fst) ⟨q, (respond luck q files).1⟩) :
    (respond luck q files).2 path = files path := by
  cases h with
  | create failed created =>
    simp only [respond] at after ⊢
    split at after
    · exact Function.update_of_ne (List.ne_of_not_mem_cons after) ..
    · rfl
  | @write _ held _ _ _ _ mem rest =>
    have hne : path ≠ held := fun heq => before (heq ▸ List.mem_map_of_mem mem)
    simp only [respond]
    cases luck.unwritten <;> exact Function.update_of_ne hne ..
  | read mem rest =>
    simp only [respond]
    split <;> rfl
  | remove rest => exact Function.update_of_ne (List.ne_of_not_mem_cons before) ..
  | @run _ _ _ _ _ output _ _ _ mem_request mem_output rest =>
    have hne : path ≠ output := fun heq => before (heq ▸ List.mem_map_of_mem mem_output)
    exact Function.update_of_ne hne ..

/-- A file that is given up is not there any more. -/
theorem gone {d : Dialogue interface α}
    (h : Corresponds script contract Pair Same names (.ask q next) d) (luck : Luck)
    (files : Store Bytes) {path : String} (before : path ∈ names.map Prod.fst)
    (after : path ∉ hold (names.map Prod.fst) ⟨q, (respond luck q files).1⟩) :
    (respond luck q files).2 path = none := by
  cases h with
  | create failed created =>
    simp only [respond] at after
    split at after
    · exact absurd (List.mem_cons_of_mem _ before) after
    · exact absurd before after
  | write | read | run => exact absurd before after
  | @remove _ removed _ _ _ rest =>
    by_cases hpath : path = removed
    · rw [hpath]
      exact Function.update_self ..
    · refine absurd ?_ after
      exact (List.mem_erase_of_ne hpath).mpr before

/-- What is held is there, unless it is deleted. -/
theorem there {d : Dialogue interface α}
    (h : Corresponds script contract Pair Same names (.ask q next) d) (keeps : luck.Keeps)
    (nodup : (names.map Prod.fst).Nodup) (before : ∀ path ∈ names.map Prod.fst, files path ≠ none)
    {path : String} (after : path ∈ hold (names.map Prod.fst) ⟨q, (respond luck q files).1⟩) :
    (respond luck q files).2 path ≠ none := by
  cases h with
  | create failed created =>
    simp only [respond] at after ⊢
    split at after
    · rcases List.mem_cons.mp after with rfl | after
      · exact (Function.update_self ..).trans_ne (Option.some_ne_none _)
      · exact update_ne_none (before path after) (Option.some_ne_none _)
    · exact before path after
  | write mem rest =>
    simp only [respond]
    split
    · exact update_ne_none (before path after) (Option.some_ne_none _)
    · exact update_ne_none (before path after) (keeps.written _ _ (by assumption))
  | read mem rest =>
    simp only [respond]
    split <;> exact before path after
  | remove rest =>
    have held := (List.Nodup.mem_erase_iff nodup).mp after
    show Function.update _ _ _ _ ≠ _
    rw [Function.update_of_ne held.1]
    exact before path held.2
  | @run _ _ _ _ _ output _ _ _ mem_request mem_output rest =>
    refine update_ne_none (before path after) ?_
    have houtput := before output (List.mem_map_of_mem mem_output)
    cases hchange : (luck.work _).2 with
    | leave => exact houtput
    | write content => exact Option.some_ne_none content
    | delete => exact absurd hchange (keeps.worked _)

/-- Dialogues that correspond get the same answer, but for the name of a new file, and correspond
after it. -/
theorem advance (h : Corresponds script contract Pair Same names (.ask q next) (.ask q' next'))
    (like : luck.Like Pair luck') (mirrors : Mirrors Pair names files files')
    (hscript : files' script = files script) (hcontract : files' contract = files contract)
    (new : ∀ start ending name, q = .create start ending → luck.created = .ok name →
      name.1 ∉ names.map Prod.fst)
    (new' : ∀ start ending name, q' = .create start ending → luck'.created = .ok name →
      name.1 ∉ names.map Prod.snd) :
    ∃ names', Mirrors Pair names' (respond luck q files).2 (respond luck' q' files').2 ∧
      names'.map Prod.fst = hold (names.map Prod.fst) ⟨q, (respond luck q files).1⟩ ∧
      names'.map Prod.snd = hold (names.map Prod.snd) ⟨q', (respond luck' q' files').1⟩ ∧
      Corresponds script contract Pair Same names' (next (respond luck q files).1)
        (next' (respond luck' q' files').1) := by
  -- one case for each kind of call: both sides do the same under names that belong together
  cases h with
  | create failed created =>
    rcases like.created with ⟨cause, h1, h2⟩ | ⟨name, name', pair, h1, h2⟩
    · simp only [respond, h1, h2]
      exact ⟨names, mirrors, rfl, rfl, failed cause⟩
    · simp only [respond, h1, h2]
      exact ⟨_, mirrors.cons pair (new _ _ name rfl h1) (new' _ _ name' rfl h2), rfl, rfl,
        created name name' pair⟩
  | write mem rest =>
    simp only [respond, like.unwritten]
    cases luck.unwritten with
    | none => exact ⟨names, mirrors.update mem _, rfl, rfl, rest _⟩
    | some trouble => exact ⟨names, mirrors.update mem _, rfl, rfl, rest _⟩
  | @read _ path path' _ _ mem rest =>
    have hsame : files' path' = files path := (mirrors.same _ mem).symm
    simp only [respond, like.unread, hsame]
    cases luck.unread with
    | some cause => exact ⟨names, mirrors, rfl, rfl, rest _⟩
    | none => cases files path <;> exact ⟨names, mirrors, rfl, rfl, rest _⟩
  | @remove names _ _ _ _ rest =>
    exact ⟨names, mirrors.tail, (List.erase_cons_head ..).symm, (List.erase_cons_head ..).symm,
      rest _⟩
  -- the tool is given the same contents, so it does the same to its output
  | @run _ _ _ request request' output output' _ _ mem_request mem_output rest =>
    have hrequest : files' request' = files request := (mirrors.same _ mem_request).symm
    have houtput : files' output' = files output := (mirrors.same _ mem_output).symm
    simp only [respond, Command.places?, Places.readings, like.work, hscript, hcontract, hrequest,
      houtput]
    exact ⟨names, mirrors.update mem_output _, rfl, rfl, rest _⟩

end Corresponds

end Workbench

/-- A contract that is to be deployed with a tool to a port of an instance. -/
structure Job where
  tool : DeployTool
  contract : Contract
  inst : Instance
  port : String

/-- The deployment of a job. -/
def Job.deploy (job : Job) : Dialogue Workbench.interface (Except Failure Deployment) :=
  (job.tool.deploy job.contract job.inst job.port).run

namespace DeployTool

open Workbench

variable {tool : DeployTool} {Pair : FileName → FileName → Prop}
  {Result : Except Failure Deployment → Except Failure Deployment → Prop}

/-- Whether a command can be run does not depend on the names of its temporary files. -/
theorem holdsNul_command (contractPath : String) (request output request' output' : FileName) :
    (tool.command request.1 output.1 contractPath).holdsNul =
      (tool.command request'.1 output'.1 contractPath).holdsNul := by
  simp [Command.holdsNul, command, request.2, output.2, request'.2, output'.2]

/-- What comes of a run once the tool has ended. -/
def conclude (tool : DeployTool) (outputPath : String) (outcome : Outcome) :
    Attempt interface Failure Deployment :=
  match tool.outcomeFailure? outcome with
  | some failure => throw failure
  | none => do
    let content ← ask (.read outputPath)
    Attempt.ofExcept id (readOutput outputPath content)

theorem runOn_eq (contractPath requestPath outputPath : String) :
    tool.runOn contractPath requestPath outputPath =
      run (tool.command requestPath outputPath contractPath) tool.timeout >>=
        tool.conclude outputPath :=
  rfl

theorem corresponds_conclude (refl : ∀ r, Result r r)
    (read : ∀ name name' content, Pair name name' →
      Result (readOutput name.1 content) (readOutput name'.1 content))
    {contractPath : String} {names : List (String × String)} {output output' : FileName}
    (pair : Pair output output') (mem_output : (output.1, output'.1) ∈ names)
    (outcome : Outcome) :
    Corresponds tool.script contractPath Pair (fun held r r' => held = names ∧ Result r r') names
      (tool.conclude output.1 outcome).run (tool.conclude output'.1 outcome).run := by
  unfold conclude
  cases tool.outcomeFailure? outcome with
  | some failure => exact .done ⟨rfl, refl _⟩
  | none =>
    refine .read mem_output fun content => .done ⟨rfl, ?_⟩
    rw [Attempt.mapError_id, Attempt.mapError_id]
    exact read output output' content pair

theorem corresponds_runOn (refl : ∀ r, Result r r)
    (read : ∀ name name' content, Pair name name' →
      Result (readOutput name.1 content) (readOutput name'.1 content))
    {contractPath : String} {names : List (String × String)}
    {request request' output output' : FileName} (pair : Pair output output')
    (mem_request : (request.1, request'.1) ∈ names) (mem_output : (output.1, output'.1) ∈ names) :
    Corresponds tool.script contractPath Pair (fun held r r' => held = names ∧ Result r r') names
      (tool.runOn contractPath request.1 output.1).run
      (tool.runOn contractPath request'.1 output'.1).run := by
  rw [runOn_eq, runOn_eq]
  unfold Workbench.run
  rw [holdsNul_command contractPath request output request' output']
  cases (tool.command request'.1 output'.1 contractPath).holdsNul with
  | true => exact .done ⟨rfl, refl _⟩
  | false =>
    exact .run mem_request mem_output fun outcome =>
      corresponds_conclude refl read pair mem_output outcome

/-- A deployment does the same whatever its files are called, and holds none in the end. -/
theorem corresponds_deploy (refl : ∀ r, Result r r)
    (read : ∀ name name' content, Pair name name' →
      Result (readOutput name.1 content) (readOutput name'.1 content)) (job : Job) :
    Corresponds job.tool.script job.contract.path Pair (fun held r r' => held = [] ∧ Result r r') []
      job.deploy job.deploy := by
  unfold Job.deploy deploy
  cases endpoint? job.inst job.port with
  | none => exact .done ⟨rfl, refl _⟩
  | some endpoint =>
    refine Corresponds.withFile refl fun request request' _ => ?_
    refine .write List.mem_cons_self fun written => ?_
    cases written with
    | error cause => exact .done ⟨rfl, refl _⟩
    | ok =>
      refine Corresponds.withFile refl fun output output' pair => ?_
      exact corresponds_runOn refl read pair (List.mem_cons_of_mem _ List.mem_cons_self)
        List.mem_cons_self

end DeployTool

namespace Scene

open Workbench

variable {ι : Type} [DecidableEq ι]

/-- Deployments that share a bench. -/
abbrev Bench (ι : Type) : Type := Scene Workbench.shared fun _ : ι => Except Failure Deployment

/-- Deployments before their first turns. -/
def ofJobs (jobs : ι → Job) (files : Store Bytes) : Bench ι := .start files fun k => (jobs k).deploy

/-- The file is the script or the contract of one of the jobs. -/
def Given (jobs : ι → Job) (path : String) : Prop :=
  ∃ k, path = (jobs k).tool.script ∨ path = (jobs k).contract.path

/-- The deployment creates a file of this name in its turn. -/
def Creates (c : Bench ι) (t : ι × Luck) (path : String) : Prop :=
  ∃ start ending next name, c.calls t.1 = .ask (.create start ending) next ∧
    t.2.created = .ok name ∧ name.1 = path

/-- A file that is created in the turn does not get a name that is used. -/
def TurnAvoids (Used : Bench ι → String → Prop) (c : Bench ι) (t : ι × Luck) : Prop :=
  ∀ path, Creates c t path → ¬Used c path

/-- No file that is created in the schedule gets a name that is used then. -/
inductive Avoids (Used : Bench ι → String → Prop) : Bench ι → List (ι × Luck) → Prop where
  /-- There are no more turns. -/
  | nil (c : Bench ι) : Avoids Used c []
  /-- One turn is taken, and then the others. -/
  | cons {c : Bench ι} {t : ι × Luck} {schedule : List (ι × Luck)} (first : TurnAvoids Used c t)
    (others : Avoids Used (c.turn t.1 t.2) schedule) : Avoids Used c (t :: schedule)

/-- There is a file of this name. -/
def IsThere (c : Bench ι) (path : String) : Prop := c.state path ≠ none

/-- The name is in use: it is that of a file that is there, of a temporary file that a deployment
still has to remove, or of a script or a contract. -/
def InUse (jobs : ι → Job) (c : Bench ι) (path : String) : Prop :=
  IsThere c path ∨ (∃ k, path ∈ held (c.said k)) ∨ Given jobs path

/-- All files that are created get names that are not in use. This is more than `Avoids IsThere`,
which suffices if scripts and contracts are there and no tool deletes its output
(`Scene.fresh_of_avoids`): a name whose file a tool has deleted can be given once more, although the
deployment that holds it still reads and removes what stands under it. -/
abbrev Fresh (jobs : ι → Job) : Bench ι → List (ι × Luck) → Prop := Avoids (InUse jobs)

/-- A file that is created in the turn gets a name that is not in use. -/
abbrev FreshTurn (jobs : ι → Job) : Bench ι → ι × Luck → Prop := TurnAvoids (InUse jobs)

/-! ## Schedules that can be checked -/

section

variable {Used : Bench ι → String → Prop} {c : Bench ι} {t : ι × Luck}

/-- The name of the file that is created in a turn. -/
def created? (c : Bench ι) (t : ι × Luck) : Option FileName :=
  match c.calls t.1, t.2.created with
  | .ask (.create _ _) _, .ok name => some name
  | _, _ => none

omit [DecidableEq ι] in
theorem turnAvoids_iff : TurnAvoids Used c t ↔ ∀ name ∈ created? c t, ¬Used c name.1 := by
  constructor
  · intro h name hname
    unfold created? at hname
    split at hname
    · next hask hcreated =>
      cases hname
      exact h _ ⟨_, _, _, _, hask, hcreated, rfl⟩
    · cases hname
  · rintro h path ⟨start, ending, next, name, hask, hcreated, rfl⟩
    exact h name (by simp only [created?, hask, hcreated, Option.mem_some_iff])

theorem avoids_cons_iff {schedule : List (ι × Luck)} : Avoids Used c (t :: schedule) ↔
    TurnAvoids Used c t ∧ Avoids Used (c.turn t.1 t.2) schedule := by
  constructor
  · rintro (_ | ⟨first, others⟩)
    exact ⟨first, others⟩
  · rintro ⟨first, others⟩
    exact .cons first others

instance (path : String) : Decidable (IsThere c path) :=
  decidable_of_iff ((c.state path).isSome = true) Option.isSome_iff_ne_none

instance [Fintype ι] (jobs : ι → Job) (path : String) : Decidable (Given jobs path) :=
  inferInstanceAs (Decidable (∃ _, _))

instance [Fintype ι] (jobs : ι → Job) (path : String) : Decidable (InUse jobs c path) :=
  inferInstanceAs (Decidable (_ ∨ _))

variable [∀ c path, Decidable (Used c path)]

instance : Decidable (TurnAvoids Used c t) := decidable_of_iff _ turnAvoids_iff.symm

/-- Whether names that are used are avoided is decided turn by turn. -/
def decideAvoids : (c : Bench ι) → (schedule : List (ι × Luck)) → Decidable (Avoids Used c schedule)
  | c, [] => .isTrue (.nil c)
  | c, t :: schedule =>
    have := decideAvoids (c.turn t.1 t.2) schedule
    decidable_of_iff _ avoids_cons_iff.symm

instance (schedule : List (ι × Luck)) : Decidable (Avoids Used c schedule) :=
  decideAvoids c schedule

end

end Scene

end ChainBroker
