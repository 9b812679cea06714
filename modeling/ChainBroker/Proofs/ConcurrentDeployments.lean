import ChainBroker.Proofs.SharedBench
import ChainBroker.Proofs.ToolOutcome

/-!
# Deployments at the same time

Deployments that share a bench do not meet: each of them runs its tool on its own request, and ends
with what it would end with alone (`deployments_apart`).

1. In a `Sound` scene nobody holds the file of another one, and only files that are held differ from
   what was there in the beginning. Turns with fresh names keep it so (`Sound.turn`).
2. A deployment is `InStep` in two scenes if it holds the same files in both, but for their names. It
   stays in step if it has its turns in both (`InStep.own`), and the turns of the others do not matter
   (`Sound.foreign`).
3. So a deployment goes on as it does alone, and there its request is in place when the tool is run
   (`DeployTool.Deployed.inPlace`).

A fresh name is more than the name of no file that is there (`reused_names_mix`): when a tool has
deleted its output, the deployment still reads and removes whatever stands under that name. Where
tools keep their outputs, and scripts and contracts are there, the two are the same
(`fresh_of_avoids`).
-/

namespace ChainBroker

open Dialogue Workbench

namespace Scene

variable {ι : Type} [DecidableEq ι] {jobs : ι → Job} {files : Store Bytes} {c a : Bench ι}
  {k l : ι} {luck luck' : Luck} {Pair : FileName → FileName → Prop}
  {Result : Except Failure Deployment → Except Failure Deployment → Prop}
  {names : List (String × String)}

/-! ## Deployments in step -/

/-- A deployment is as far in one scene as in another one, and holds the same files in both. -/
structure InStep (jobs : ι → Job) (Pair : FileName → FileName → Prop)
    (Result : Except Failure Deployment → Except Failure Deployment → Prop) (k : ι)
    (names : List (String × String)) (c a : Bench ι) : Prop where
  mirrors : Mirrors Pair names c.state a.state
  holds : names.map Prod.fst = held (c.said k)
  holds' : names.map Prod.snd = held (a.said k)
  corresponds : Corresponds (jobs k).tool.script (jobs k).contract.path Pair
    (fun held r r' => held = [] ∧ Result r r') names (c.calls k) (a.calls k)

/-- A scene in which all that matters to a deployment is as before. -/
theorem InStep.congr {c' a' : Bench ι} (h : InStep jobs Pair Result k names c a)
    (said : c'.said k = c.said k) (calls : c'.calls k = c.calls k)
    (state : ∀ path ∈ held (c.said k), c'.state path = c.state path)
    (said' : a'.said k = a.said k) (calls' : a'.calls k = a.calls k)
    (state' : ∀ path ∈ held (a.said k), a'.state path = a.state path) :
    InStep jobs Pair Result k names c' a' where
  mirrors :=
    { h.mirrors with
      same := by
        intro p hp
        rw [state p.1 (h.holds ▸ List.mem_map_of_mem hp),
          state' p.2 (h.holds' ▸ List.mem_map_of_mem hp)]
        exact h.mirrors.same p hp }
  holds := by rw [said, h.holds]
  holds' := by rw [said', h.holds']
  corresponds := by
    rw [calls, calls']
    exact h.corresponds

/-- The deployment creates no file under a name that it holds already. -/
def New (c : Bench ι) (k : ι) (luck : Luck) : Prop :=
  ∀ path, Creates c (k, luck) path → path ∉ held (c.said k)

theorem New.notMem {q : Call} {next : q.Answer → Dialogue interface (Except Failure Deployment)}
    (h : New c k luck) (ask : c.calls k = .ask q next) {start ending : String} {name : FileName}
    (hq : q = .create start ending) (created : luck.created = .ok name) :
    name.1 ∉ held (c.said k) := by
  subst hq
  exact h name.1 ⟨start, ending, next, name, ask, created, rfl⟩

/-- A deployment that has its turn in both scenes stays in step. -/
theorem InStep.own (h : InStep jobs Pair Result k names c a) (like : luck.Like Pair luck')
    (hscript : a.state (jobs k).tool.script = c.state (jobs k).tool.script)
    (hcontract : a.state (jobs k).contract.path = c.state (jobs k).contract.path)
    (new : New c k luck) (new' : New a k luck') :
    ∃ names', InStep jobs Pair Result k names' (c.turn k luck) (a.turn k luck') := by
  have hcorr := h.corresponds
  -- the calls correspond, so either both have ended or both ask
  cases hc : c.calls k with
  | done r =>
    cases ha : a.calls k with
    | ask => rw [hc, ha] at hcorr; cases hcorr
    | done r' =>
      rw [turn_of_done hc, turn_of_done ha]
      exact ⟨names, h⟩
  | ask q next =>
    cases ha : a.calls k with
    | done => rw [hc, ha] at hcorr; cases hcorr
    | ask q' next' =>
      rw [hc, ha] at hcorr
      obtain ⟨names', hmirrors, hheld, hheld', hcorr'⟩ :=
        hcorr.advance like h.mirrors hscript hcontract
          (fun _ _ _ hq created => h.holds ▸ new.notMem hc hq created)
          (fun _ _ _ hq created => h.holds' ▸ new'.notMem ha hq created)
      refine ⟨names', ?_, ?_, ?_, ?_⟩
      · rw [turn_of_ask hc, turn_of_ask ha]
        exact hmirrors
      · rw [said_turn_of_ask hc, held_concat, ← h.holds]
        exact hheld
      · rw [said_turn_of_ask ha, held_concat, ← h.holds']
        exact hheld'
      · rw [calls_turn_of_ask hc, calls_turn_of_ask ha]
        exact hcorr'

/-- Nothing has been said yet. -/
theorem InStep.start (refl : ∀ r, Result r r)
    (read : ∀ name name' content, Pair name name' →
      Result (DeployTool.readOutput name.1 content) (DeployTool.readOutput name'.1 content))
    (jobs : ι → Job) (files : Store Bytes) (k : ι) :
    InStep jobs Pair Result k [] (ofJobs jobs files) (ofJobs jobs files) where
  mirrors := .nil Pair files files
  holds := rfl
  holds' := rfl
  corresponds := DeployTool.corresponds_deploy refl read (jobs k)

/-! ## Sound scenes -/

theorem TurnAvoids.new (h : FreshTurn jobs c (k, luck)) : New c k luck :=
  fun path creates held => h path creates (.inr (.inl ⟨k, held⟩))

/-- Nobody holds the file of another one, or one that has been there before; and only files that
are held have changed. -/
structure Sound (jobs : ι → Job) (files : Store Bytes) (c : Bench ι) : Prop where
  apart : ∀ k l path, path ∈ held (c.said k) → path ∈ held (c.said l) → k = l
  free : ∀ k, ∀ path ∈ held (c.said k), files path = none ∧ ¬Given jobs path
  settled : ∀ path, (∀ k, path ∉ held (c.said k)) → c.state path = files path
  inStep : ∀ k, ∃ names, InStep jobs Eq (fun _ _ => True) k names c c

/-- A deployment gets hold of a path by creating it. -/
theorem mem_held_turn {path : String} (h : path ∈ held ((c.turn k luck).said k)) :
    path ∈ held (c.said k) ∨ Creates c (k, luck) path := by
  cases hc : c.calls k with
  | done =>
    rw [turn_of_done hc] at h
    exact .inl h
  | ask q next =>
    rw [said_turn_of_ask hc, held_concat] at h
    cases q with
    | create start ending =>
      simp only [respond] at h
      cases hcreated : luck.created with
      | error cause =>
        rw [hcreated] at h
        exact .inl h
      | ok name =>
        rw [hcreated] at h
        rcases List.mem_cons.mp h with rfl | h
        · exact .inr ⟨start, ending, next, name, hc, hcreated, rfl⟩
        · exact .inl h
    | write | read | run => exact .inl h
    | remove => exact .inl (List.mem_of_mem_erase h)

namespace Sound

theorem start (jobs : ι → Job) (files : Store Bytes) : Sound jobs files (ofJobs jobs files) where
  apart := fun _ _ _ h => absurd h List.not_mem_nil
  free := fun _ _ h => absurd h List.not_mem_nil
  settled := fun _ _ => rfl
  inStep := fun k => ⟨[], .start (fun _ => trivial) (fun _ _ _ _ => trivial) jobs files k⟩

variable (h : Sound jobs files c)

include h

/-- Scripts and contracts are as they have been. -/
theorem given {path : String} (given : Given jobs path) : c.state path = files path :=
  h.settled path fun k held => (h.free k path held).2 given

/-- A deployment changes its own files only. -/
theorem frame {path : String} (before : path ∉ held (c.said k))
    (after : path ∉ held ((c.turn k luck).said k)) : (c.turn k luck).state path = c.state path := by
  cases hc : c.calls k with
  | done => rw [turn_of_done hc]
  | ask q next =>
    obtain ⟨names, hstep⟩ := h.inStep k
    have hcorr := hstep.corresponds
    rw [hc] at hcorr
    rw [said_turn_of_ask hc, held_concat, ← hstep.holds] at after
    rw [turn_of_ask hc]
    exact hcorr.frame luck c.state (hstep.holds ▸ before) after

/-- A file that a deployment gives up is not there any more. -/
theorem gone {path : String} (before : path ∈ held (c.said k))
    (after : path ∉ held ((c.turn k luck).said k)) : (c.turn k luck).state path = none := by
  cases hc : c.calls k with
  | done =>
    rw [turn_of_done hc] at after
    exact absurd before after
  | ask q next =>
    obtain ⟨names, hstep⟩ := h.inStep k
    have hcorr := hstep.corresponds
    rw [hc] at hcorr
    rw [said_turn_of_ask hc, held_concat, ← hstep.holds] at after
    rw [turn_of_ask hc]
    exact hcorr.gone luck c.state (hstep.holds ▸ before) after

variable (fresh : FreshTurn jobs c (k, luck))

include fresh

/-- What a deployment holds after its turn is held by nobody else. -/
theorem eq_of_mem_held_turn {path : String} (mine : path ∈ held ((c.turn k luck).said k))
    (other : path ∈ held (c.said l)) : l = k := by
  rcases mem_held_turn mine with held | creates
  · exact h.apart l k path other held
  · exact absurd (.inr (.inl ⟨l, other⟩)) (fresh path creates)

/-- The others find their files as they have left them. -/
theorem state_turn_of_ne (hl : l ≠ k) {path : String} (held : path ∈ held (c.said l)) :
    (c.turn k luck).state path = c.state path :=
  h.frame (fun mine => hl (h.apart l k path held mine))
    fun mine => hl (h.eq_of_mem_held_turn fresh mine held)

/-- **A turn in which a new file gets a fresh name keeps a scene sound.** -/
theorem turn : Sound jobs files (c.turn k luck) where
  apart := by
    intro l m path hl hm
    -- only the one that has its turn can get hold of something
    by_cases hlk : l = k <;> by_cases hmk : m = k
    · exact hlk.trans hmk.symm
    · subst hlk
      rw [said_turn_of_ne hmk] at hm
      exact (h.eq_of_mem_held_turn fresh hl hm).symm
    · subst hmk
      rw [said_turn_of_ne hlk] at hl
      exact h.eq_of_mem_held_turn fresh hm hl
    · rw [said_turn_of_ne hlk] at hl
      rw [said_turn_of_ne hmk] at hm
      exact h.apart l m path hl hm
  free := by
    intro l path hl
    by_cases hlk : l = k
    · subst hlk
      rcases mem_held_turn hl with held | creates
      · exact h.free l path held
      · -- a path that was just created was not there, so it is not there at the start either
        have unused := fresh path creates
        refine ⟨?_, fun given => unused (.inr (.inr given))⟩
        rw [← h.settled path fun m held => unused (.inr (.inl ⟨m, held⟩))]
        exact not_not.mp fun there => unused (.inl there)
    · rw [said_turn_of_ne hlk] at hl
      exact h.free l path hl
  settled := by
    intro path unheld
    have others : ∀ l, l ≠ k → path ∉ held (c.said l) := fun l hl held =>
      unheld l ((said_turn_of_ne hl).symm ▸ held)
    -- what is held no more was removed, and was not there at the start
    by_cases mine : path ∈ held (c.said k)
    · rw [h.gone mine (unheld k), (h.free k path mine).1]
    · rw [h.frame mine (unheld k)]
      refine h.settled path fun l => ?_
      by_cases hl : l = k
      · exact hl ▸ mine
      · exact others l hl
  inStep := by
    intro l
    obtain ⟨names, hstep⟩ := h.inStep l
    by_cases hl : l = k
    · subst hl
      exact hstep.own (.refl luck) rfl rfl fresh.new fresh.new
    · have state : ∀ path ∈ held (c.said l), (c.turn k luck).state path = c.state path :=
        fun path held => h.state_turn_of_ne fresh hl held
      exact ⟨names, hstep.congr (said_turn_of_ne hl) (calls_turn_of_ne hl) state
        (said_turn_of_ne hl) (calls_turn_of_ne hl) state⟩

/-- The turns of the others do not matter. -/
theorem foreign (hl : l ≠ k) (inStep : InStep jobs Pair Result l names c a) :
    InStep jobs Pair Result l names (c.turn k luck) a :=
  inStep.congr (said_turn_of_ne hl) (calls_turn_of_ne hl)
    (fun _ held => h.state_turn_of_ne fresh hl held) rfl rfl fun _ _ => rfl

end Sound

/-! ## Whole schedules -/

theorem Sound.run {schedule : List (ι × Luck)} (h : Sound jobs files c)
    (fresh : Fresh jobs c schedule) : Sound jobs files (c.run schedule) := by
  induction fresh with
  | nil => exact h
  | cons first _ ih => exact ih (h.turn first)

theorem Avoids.of_append {before after : List (ι × Luck)} (h : Fresh jobs c (before ++ after)) :
    Fresh jobs c before := by
  induction before generalizing c with
  | nil => exact .nil c
  | cons t before ih =>
    cases h with
    | cons first others => exact .cons first (ih others)

/-- Sound scenes have the same script and the same contract for a deployment. -/
theorem Sound.given_eq (h : Sound jobs files c) (ha : Sound jobs files a) {path : String}
    (given : Given jobs path) : a.state path = c.state path := by
  rw [h.given given, ha.given given]

omit [DecidableEq ι] in
theorem given_script (jobs : ι → Job) (k : ι) : Given jobs (jobs k).tool.script := ⟨k, .inl rfl⟩

omit [DecidableEq ι] in
theorem given_contract (jobs : ι → Job) (k : ι) : Given jobs (jobs k).contract.path :=
  ⟨k, .inr rfl⟩

/-- What is left of a schedule if only one deployment has its turns. -/
def onlyTurns (k : ι) (schedule : List (ι × Luck)) : List (ι × Luck) :=
  schedule.filter (·.1 = k)

/-- A deployment that has its turns elsewhere, with other names of files, stays in step. -/
theorem InStep.run {schedule elsewhere : List (ι × Luck)} (hc : Sound jobs files c)
    (ha : Sound jobs files a) (inStep : InStep jobs Pair Result k names c a)
    (fresh : Fresh jobs c schedule) (fresh' : Fresh jobs a elsewhere)
    (likes : List.Forall₂ (fun t t' => t'.1 = k ∧ t.2.Like Pair t'.2) (onlyTurns k schedule)
      elsewhere) :
    ∃ names', InStep jobs Pair Result k names' (c.run schedule) (a.run elsewhere) := by
  -- by induction on the schedule; the turns elsewhere are used up by the own ones
  induction fresh generalizing a names elsewhere with
  | nil =>
    cases likes
    exact ⟨names, inStep⟩
  | @cons c t schedule first others ih =>
    obtain ⟨l, luck⟩ := t
    by_cases hl : l = k
    · subst hl
      rw [onlyTurns, List.filter_cons_of_pos (by simp)] at likes
      cases likes with
      | @cons _ t' _ elsewhere like likes =>
        obtain ⟨l', luck'⟩ := t'
        obtain ⟨rfl, like⟩ := like
        cases fresh' with
        | cons first' others' =>
          obtain ⟨names', inStep'⟩ := inStep.own like (hc.given_eq ha (given_script jobs _))
            (hc.given_eq ha (given_contract jobs _)) first.new first'.new
          obtain ⟨names'', inStep''⟩ := ih (hc.turn first) (ha.turn first') inStep' others' likes
          exact ⟨names'', inStep''⟩
    · rw [onlyTurns, List.filter_cons_of_neg (by simpa using hl)] at likes
      exact ih (hc.turn first) ha (hc.foreign first (Ne.symm hl) inStep) fresh' likes

/-- A name that is fresh for a deployment among others is fresh for it alone. -/
theorem InStep.freshTurn (hc : Sound jobs files c) (ha : Sound jobs files a)
    (alone : ∀ l, l ≠ k → held (a.said l) = []) (inStep : InStep jobs Eq Result k names c a)
    (fresh : FreshTurn jobs c (k, luck)) : FreshTurn jobs a (k, luck) := by
  rintro path ⟨start, ending, next, name, hask, created, rfl⟩
  have hcorr := inStep.corresponds
  rw [hask] at hcorr
  have creates : Creates c (k, luck) name.1 := by
    generalize hd : c.calls k = d at hcorr
    cases hcorr with
    | @create _ _ _ next _ => exact ⟨start, ending, next, name, hd, created, rfl⟩
  have unused := fresh name.1 creates
  have hheld : held (a.said k) = held (c.said k) := by
    rw [← inStep.holds, ← inStep.holds']
    refine List.map_congr_left fun p hp => ?_
    obtain ⟨_, _, rfl, rfl⟩ := inStep.mirrors.paired p hp
    rfl
  have unheld : ∀ l, name.1 ∉ held (a.said l) := by
    intro l held
    by_cases hl : l = k
    · subst hl
      exact unused (.inr (.inl ⟨l, hheld ▸ held⟩))
    · rw [alone l hl] at held
      exact absurd held List.not_mem_nil
  -- nothing else is held when alone, so what is there was there at the start
  rintro (there | ⟨l, held⟩ | given)
  · rw [IsThere, ha.settled name.1 unheld,
      ← hc.settled name.1 fun l held => unused (.inr (.inl ⟨l, held⟩))] at there
    exact unused (.inl there)
  · exact unheld l held
  · exact unused (.inr (.inr given))

/-- The turns of a deployment among others, with the same names of files, are fresh for it alone. -/
theorem InStep.fresh_onlyTurns {schedule : List (ι × Luck)} (hc : Sound jobs files c)
    (ha : Sound jobs files a) (alone : ∀ l, l ≠ k → held (a.said l) = [])
    (inStep : InStep jobs Eq Result k names c a) (fresh : Fresh jobs c schedule) :
    Fresh jobs a (onlyTurns k schedule) := by
  induction fresh generalizing a names with
  | nil => exact .nil a
  | @cons c t schedule first others ih =>
    obtain ⟨l, luck⟩ := t
    by_cases hl : l = k
    · subst hl
      rw [onlyTurns, List.filter_cons_of_pos (by simp)]
      have first' : FreshTurn jobs a (l, luck) := inStep.freshTurn hc ha alone first
      obtain ⟨names', inStep'⟩ := inStep.own (.refl luck) (hc.given_eq ha (given_script jobs l))
        (hc.given_eq ha (given_contract jobs l)) first.new first'.new
      refine .cons first' (ih (hc.turn first) (ha.turn first') (fun m hm => ?_) inStep')
      rw [said_turn_of_ne hm, alone m hm]
    · rw [onlyTurns, List.filter_cons_of_neg (by simpa using hl)]
      exact ih (hc.turn first) ha alone (hc.foreign first (Ne.symm hl) inStep)

/-! ## Names of no files that are there -/

/-- What a deployment holds is there, unless it is deleted. -/
theorem Sound.held_isThere_turn (h : Sound jobs files c) (fresh : FreshTurn jobs c (k, luck))
    (keeps : luck.Keeps) (there : ∀ l, ∀ path ∈ held (c.said l), IsThere c path) (l : ι) :
    ∀ path ∈ held ((c.turn k luck).said l), IsThere (c.turn k luck) path := by
  intro path held
  by_cases hl : l = k
  · subst hl
    cases hc : c.calls l with
    | done =>
      rw [turn_of_done hc] at held ⊢
      exact there l path held
    | ask q next =>
      obtain ⟨names, hstep⟩ := h.inStep l
      have hcorr := hstep.corresponds
      rw [hc] at hcorr
      rw [said_turn_of_ask hc, held_concat, ← hstep.holds] at held
      rw [IsThere, turn_of_ask hc]
      exact hcorr.there keeps hstep.mirrors.nodup (hstep.holds ▸ there l) held
  · rw [said_turn_of_ne hl] at held
    rw [IsThere, h.state_turn_of_ne fresh hl held]
    exact there l path held

/-- If nothing is deleted while it is held, names are fresh that are those of no files. -/
theorem fresh_of_avoids (given : ∀ path, Given jobs path → files path ≠ none)
    {schedule : List (ι × Luck)} (keeps : ∀ t ∈ schedule, t.2.Keeps)
    (avoids : Avoids IsThere (ofJobs jobs files) schedule) :
    Fresh jobs (ofJobs jobs files) schedule := by
  have hc := Sound.start jobs files
  have there : ∀ l, ∀ path ∈ held ((ofJobs jobs files).said l), IsThere (ofJobs jobs files) path :=
    fun _ _ held => absurd held List.not_mem_nil
  -- the files that are held are there in every scene of the schedule
  generalize ofJobs jobs files = c at avoids hc there
  induction avoids with
  | nil => exact .nil _
  | @cons c t schedule first others ih =>
    obtain ⟨l, luck⟩ := t
    obtain ⟨keep, keeps⟩ := List.forall_mem_cons.mp keeps
    have fresh : FreshTurn jobs c (l, luck) := by
      rintro path creates (used | ⟨k, held⟩ | hgiven)
      · exact first path creates used
      · exact first path creates (there k path held)
      · exact first path creates (by rw [IsThere, hc.given hgiven]; exact given path hgiven)
    exact .cons fresh (ih keeps (hc.turn fresh) (hc.held_isThere_turn fresh keep there))

/-! ## What the tool reads -/

/-- In a schedule of turns of one deployment, nothing but its exchanges acts on the files. -/
theorem leads_run {start : Store Bytes} {schedule : List (ι × Luck)} (fresh : Fresh jobs a schedule)
    (only : ∀ t ∈ schedule, t.1 = k) (h : Leads Acts start (a.said k) a.state) :
    Leads Acts start ((a.run schedule).said k) (a.run schedule).state := by
  induction fresh with
  | nil => exact h
  | @cons a t schedule first others ih =>
    obtain ⟨l, luck⟩ := t
    obtain ⟨hl, only⟩ := List.forall_mem_cons.mp only
    cases hl
    refine ih only ?_
    cases ha : a.calls l with
    | done =>
      rw [turn_of_done ha]
      exact h
    | ask q next =>
      rw [said_turn_of_ask ha, turn_of_ask ha]
      refine leads_append_iff.mpr ⟨a.state, h, leads_cons_iff.mpr ⟨_, acts_respond ?_, .nil _⟩⟩
      rintro start ending name rfl created
      by_contra there
      exact first name.1 ⟨start, ending, next, name, ha, created, rfl⟩ (.inl there)

/-- When the tool is run, the request is there. -/
theorem request_inPlace {job : Job} {log : List (Exchange interface)} {t : Store Bytes}
    {command : Command} {limit : Nat}
    {next : Outcome → Dialogue interface (Except Failure Deployment)}
    (said : Said job.deploy log (.ask (.run command limit) next)) (leads : Leads Acts files log t) :
    ∃ endpoint requestPath outputPath,
      DeployTool.endpoint? job.inst job.port = some endpoint ∧
      command = job.tool.command requestPath outputPath job.contract.path ∧
      t requestPath = some
        (DeployTool.requestBytes (DeployTool.provider job.inst endpoint) job.contract.arguments) := by
  obtain ⟨rest, r, hrest⟩ := exists_transcript (next .timedOut)
  have deployed := DeployTool.transcript_deploy (said.transcript (.ask hrest))
  obtain ⟨requestPath, outputPath, request, hcommand, hwritten, ⟨-, hthere⟩, -⟩ :=
    deployed.inPlace rfl leads
  obtain ⟨endpoint, -, -, hendpoint, -, -⟩ := deployed.run
    (List.mem_append_right log List.mem_cons_self)
  have hrequest := (deployed.requests hendpoint).only _ _ _ (List.mem_append_left _ hwritten)
  exact ⟨endpoint, requestPath, outputPath, hendpoint, hcommand, hrequest ▸ hthere⟩

end Scene

/-! ## The end of a deployment -/

namespace Dialogue

variable {I : Interface} {α β : Type} {m n : Nat}

/-- What a dialogue ends with, if it has ended. -/
def result? : Dialogue I α → Option α
  | done a => some a
  | ask _ _ => none

/-- The dialogue ends after so many questions at most. -/
inductive EndsWithin : Nat → Dialogue I α → Prop where
  /-- It has ended. -/
  | done (n : Nat) (a : α) : EndsWithin n (done a)
  | ask {n : Nat} {q : I.Question} {next : I.Answer q → Dialogue I α}
    (rest : ∀ answer, EndsWithin n (next answer)) : EndsWithin (n + 1) (ask q next)

theorem EndsWithin.mono {d : Dialogue I α} (h : d.EndsWithin m) (hmn : m ≤ n) :
    d.EndsWithin n := by
  induction h generalizing n with
  | done _ a => exact .done n a
  | ask _ ih =>
    obtain ⟨n, rfl⟩ := Nat.exists_eq_add_of_le' (Nat.one_le_of_lt hmn)
    exact .ask fun answer => ih answer (Nat.le_of_succ_le_succ hmn)

theorem EndsWithin.bind {d : Dialogue I α} {f : α → Dialogue I β} (h : d.EndsWithin m)
    (hf : ∀ a, (f a).EndsWithin n) : (d.bind f).EndsWithin (m + n) := by
  induction h with
  | done m a => exact (hf a).mono (Nat.le_add_left n m)
  | @ask m q next _ ih =>
    rw [Nat.add_right_comm]
    exact .ask ih

end Dialogue

theorem Workbench.endsWithin_withFile {α : Type} {n : Nat} {start ending : String}
    {use : String → Attempt interface Failure α} (h : ∀ path, (use path).run.EndsWithin n) :
    (withFile start ending use).run.EndsWithin (n + 2) := by
  refine .ask fun created => ?_
  cases created with
  | error cause => exact .done _ _
  | ok path => exact (h path).bind fun _ => .ask fun _ => .done _ _

namespace DeployTool

theorem endsWithin_runOn (tool : DeployTool) (contractPath requestPath outputPath : String) :
    (tool.runOn contractPath requestPath outputPath).run.EndsWithin 2 := by
  rw [runOn_eq]
  unfold Workbench.run
  split
  · exact .done _ _
  · refine .ask fun outcome => ?_
    show (tool.conclude outputPath outcome).run.EndsWithin 1
    unfold conclude
    cases tool.outcomeFailure? outcome with
    | some failure => exact .done _ _
    | none => exact .ask fun content => .done _ _

end DeployTool

/-- A deployment takes seven calls at most: two files are created, and removed, one is written and
one read, and the tool runs once. -/
theorem Job.endsWithin_deploy (job : Job) : job.deploy.EndsWithin 7 := by
  unfold Job.deploy DeployTool.deploy
  split
  · exact .done _ _
  · refine endsWithin_withFile fun requestPath => .ask fun written => ?_
    cases written with
    | error cause => exact .done _ _
    | ok => exact endsWithin_withFile fun outputPath => DeployTool.endsWithin_runOn ..

namespace Scene

variable {ι : Type} [DecidableEq ι] {jobs : ι → Job} {files : Store Bytes} {c : Bench ι} {k : ι}

theorem endsWithin_turn {n : Nat} (h : (c.calls k).EndsWithin n) (luck : Luck) :
    ((c.turn k luck).calls k).EndsWithin (n - 1) := by
  cases hc : c.calls k with
  | done r =>
    rw [turn_of_done hc, hc]
    exact .done _ r
  | ask q next =>
    rw [hc] at h
    rw [calls_turn_of_ask hc]
    cases h with
    | ask rest => exact rest _

/-- Each turn of a deployment brings it one call nearer to its end. -/
theorem endsWithin_run {n : Nat} (h : (c.calls k).EndsWithin n) (schedule : List (ι × Luck)) :
    ((c.run schedule).calls k).EndsWithin (n - (onlyTurns k schedule).length) := by
  induction schedule generalizing c n with
  | nil => exact h
  | cons t schedule ih =>
    obtain ⟨l, luck⟩ := t
    by_cases hl : l = k
    · subst hl
      rw [onlyTurns, List.filter_cons_of_pos (by simp), List.length_cons, Nat.add_comm,
        ← Nat.sub_sub]
      exact ih (endsWithin_turn h luck)
    · rw [onlyTurns, List.filter_cons_of_neg (by simpa using hl)]
      refine ih ?_
      rwa [calls_turn_of_ne (Ne.symm hl)]

end Scene

/-! ## Results -/

/-- Results that are the same, but for the name of the output that cannot be read. -/
inductive SameButNames : Except Failure Deployment → Except Failure Deployment → Prop where
  | refl (r : Except Failure Deployment) : SameButNames r r
  | unreadable (path path' : String) (cause : OsError) :
    SameButNames (.error (.outputUnreadable path cause)) (.error (.outputUnreadable path' cause))

theorem SameButNames.readOutput (path path' : String) (content : Except OsError Bytes) :
    SameButNames (DeployTool.readOutput path content) (DeployTool.readOutput path' content) := by
  cases content with
  | error cause => exact .unreadable path path' cause
  | ok content => exact .refl _

namespace Scene

variable {ι : Type} [DecidableEq ι] {jobs : ι → Job} {files : Store Bytes} {c a : Bench ι} {k : ι}
  {Pair : FileName → FileName → Prop}
  {Result : Except Failure Deployment → Except Failure Deployment → Prop}
  {names : List (String × String)}

/-- Deployments in step have ended both or none, and with the same result. -/
theorem InStep.result? (h : InStep jobs Pair Result k names c a) :
    Option.Rel Result (c.calls k).result? (a.calls k).result? := by
  have hcorr := h.corresponds
  generalize c.calls k = d, a.calls k = d' at hcorr
  cases hcorr with
  | done same => exact .some same.2
  | create | write | read | remove | run => exact .none

theorem InStep.result?_eq (h : InStep jobs Pair Eq k names c a) :
    (c.calls k).result? = (a.calls k).result? := by
  have hrel := h.result?
  generalize (c.calls k).result? = r, (a.calls k).result? = r' at hrel
  cases hrel with
  | some heq => rw [heq]
  | none => rfl

/-- A deployment among others goes on as it does with its turns alone. -/
theorem exists_inStep_alone {schedule : List (ι × Luck)}
    (fresh : Fresh jobs (ofJobs jobs files) schedule) (k : ι) :
    Fresh jobs (ofJobs jobs files) (onlyTurns k schedule) ∧
      ∃ names, InStep jobs Eq Eq k names ((ofJobs jobs files).run schedule)
        ((ofJobs jobs files).run (onlyTurns k schedule)) := by
  have sound := Sound.start jobs files
  have inStep : InStep jobs Eq Eq k [] (ofJobs jobs files) (ofJobs jobs files) :=
    .start (fun _ => rfl) (fun _ _ _ pair => by rw [pair]) jobs files k
  have alone := inStep.fresh_onlyTurns sound sound (fun _ _ => rfl) fresh
  refine ⟨alone, inStep.run sound sound fresh alone ?_⟩
  refine List.forall₂_same.mpr fun t ht => ⟨?_, .refl t.2⟩
  simpa using (List.mem_filter.mp ht).2

/-- When a deployment among others runs its tool, its request is there. -/
theorem exists_request {schedule : List (ι × Luck)}
    (fresh : Fresh jobs (ofJobs jobs files) schedule) {command : Command} {limit : Nat}
    {next : Outcome → Dialogue interface (Except Failure Deployment)}
    (ask : ((ofJobs jobs files).run schedule).calls k = .ask (.run command limit) next) :
    ∃ endpoint requestPath outputPath,
      DeployTool.endpoint? (jobs k).inst (jobs k).port = some endpoint ∧
      command = (jobs k).tool.command requestPath outputPath (jobs k).contract.path ∧
      ((ofJobs jobs files).run schedule).state requestPath = some (DeployTool.requestBytes
        (DeployTool.provider (jobs k).inst endpoint) (jobs k).contract.arguments) := by
  obtain ⟨alone, names, inStep⟩ := exists_inStep_alone fresh k
  have only : ∀ t ∈ onlyTurns k schedule, t.1 = k := fun t ht => by
    simpa using (List.mem_filter.mp ht).2
  have leads : Leads Acts files (((ofJobs jobs files).run (onlyTurns k schedule)).said k)
      ((ofJobs jobs files).run (onlyTurns k schedule)).state := leads_run alone only (.nil files)
  have said := said_run (w := shared) files (fun l => (jobs l).deploy) (onlyTurns k schedule) k
  -- the request is found alone, and the run in step has it under its own name
  have hcorr := inStep.corresponds
  rw [ask] at hcorr
  generalize hd : ((ofJobs jobs files).run (onlyTurns k schedule)).calls k = d at hcorr
  cases hcorr with
  | @run _ program _ requestPath requestPath' outputPath outputPath' _ _ mem_request =>
    obtain ⟨endpoint, requestPath₀, outputPath₀, hendpoint, hcommand, hthere⟩ :=
      request_inPlace (hd ▸ said) leads
    obtain ⟨hprogram, hrequest⟩ : program = (jobs k).tool.program ∧ requestPath' = requestPath₀ := by
      simp only [DeployTool.command, Command.mk.injEq, List.cons.injEq] at hcommand
      exact ⟨hcommand.1, hcommand.2.2.2.1⟩
    refine ⟨endpoint, requestPath, outputPath, hendpoint, ?_, ?_⟩
    · rw [hprogram]
      rfl
    · rw [inStep.mirrors.same _ mem_request, hrequest, hthere]

end Scene

open Scene in
/-- **Deployments at the same time do not mix**, if new files get names that are not in use. Where
scripts and contracts are there and no tool deletes its output, these are the names of no files.

Whenever one of the deployments runs its tool, the tool reads the script, its own request and its
contract. Its turns alone make a run of their own, which ends with the same; and so does, up to the
names of the temporary files, every other run of it alone. It has ended after seven turns. -/
theorem deployments_apart {ι : Type} [DecidableEq ι] (jobs : ι → Job) (files : Store Bytes)
    (schedule : List (ι × Luck))
    (unused : Fresh jobs (ofJobs jobs files) schedule ∨
      (∀ path, Given jobs path → files path ≠ none) ∧ (∀ t ∈ schedule, t.2.Keeps) ∧
        Avoids IsThere (ofJobs jobs files) schedule) (k : ι) :
    (∀ before, before <+: schedule → ∀ command limit next,
      ((ofJobs jobs files).run before).calls k = .ask (.run command limit) next →
      ∃ endpoint requestPath outputPath,
        DeployTool.endpoint? (jobs k).inst (jobs k).port = some endpoint ∧
        command = (jobs k).tool.command requestPath outputPath (jobs k).contract.path ∧
        command.places?.map (·.readings ((ofJobs jobs files).run before).state) = some
          { script := files (jobs k).tool.script
            request := some (DeployTool.requestBytes
              (DeployTool.provider (jobs k).inst endpoint) (jobs k).contract.arguments)
            contract := files (jobs k).contract.path }) ∧
      (Fresh jobs (ofJobs jobs files) (onlyTurns k schedule) ∧
        (((ofJobs jobs files).run schedule).calls k).result? =
          (((ofJobs jobs files).run (onlyTurns k schedule)).calls k).result?) ∧
      (∀ alone, Fresh jobs (ofJobs jobs files) alone →
        List.Forall₂ (fun t t' => t'.1 = k ∧ t.2.Like (fun _ _ => True) t'.2)
          (onlyTurns k schedule) alone →
        Option.Rel SameButNames (((ofJobs jobs files).run schedule).calls k).result?
          (((ofJobs jobs files).run alone).calls k).result?) ∧
      (7 ≤ (onlyTurns k schedule).length →
        ∃ r, ((ofJobs jobs files).run schedule).calls k = .done r) := by
  have fresh : Fresh jobs (ofJobs jobs files) schedule :=
    unused.elim id fun ⟨given, keeps, avoids⟩ => fresh_of_avoids given keeps avoids
  have sound := Sound.start jobs files
  -- each deployment is in step with itself alone, under the same names
  obtain ⟨alone, names, inStep⟩ := exists_inStep_alone fresh k
  refine ⟨fun before hbefore command limit next ask => ?_, ⟨alone, ?_⟩,
    fun elsewhere fresh' likes => ?_, fun turns => ?_⟩
  · obtain ⟨after, rfl⟩ := hbefore
    have soundBefore := sound.run fresh.of_append
    obtain ⟨endpoint, requestPath, outputPath, hendpoint, hcommand, hthere⟩ :=
      exists_request fresh.of_append ask
    refine ⟨endpoint, requestPath, outputPath, hendpoint, hcommand, ?_⟩
    rw [hcommand, places?_command, Option.map_some, Places.readings, hthere,
      soundBefore.given (given_script jobs k), soundBefore.given (given_contract jobs k)]
  · exact inStep.result?_eq
  · -- and under other names it is in step up to the names
    have start : InStep jobs (fun _ _ => True) SameButNames k [] (ofJobs jobs files)
        (ofJobs jobs files) :=
      .start .refl (fun name name' content _ => .readOutput name.1 name'.1 content) jobs files k
    obtain ⟨names', inStep'⟩ := start.run sound sound fresh fresh' likes
    exact inStep'.result?
  · -- after as many turns as it has calls, a deployment has ended
    have hends := endsWithin_run (c := ofJobs jobs files) (jobs k).endsWithin_deploy schedule
    rw [Nat.sub_eq_zero_of_le turns] at hends
    generalize ((ofJobs jobs files).run schedule).calls k = d at hends
    cases hends with
    | done _ r => exact ⟨r, rfl⟩

/-! ### Two deployments, one of them under a name that has become free -/

/-- Two deployments of one contract with other arguments. -/
def twoJobs (k : Bool) : Job where
  tool := DeployTool.nodeTool
  contract :=
    { url := "http://example.com/poll.sol", arguments := [toString k], path := "/tmp/poll.sol" }
  inst := DeployTool.singlePort
  port := "8545"

/-- A turn in which a new file would get the name, and in which a tool deletes its output. -/
def deleting (path : String) (h : '\x00' ∉ path.toList) : Luck where
  created := .ok ⟨path, h⟩
  unwritten := none
  unread := none
  work _ := (.ended (.code 0) [] [], .delete)

/-- The second deployment is given the name of the first one's request for its output. -/
def overlapping : List (Bool × Luck) :=
  let a := deleting "/tmp/a" (by decide)
  let b := deleting "/tmp/b" (by decide)
  let c := deleting "/tmp/c" (by decide)
  [(false, a), (true, b), (false, a), (false, c), (false, a), (true, a), (false, a), (false, a),
    (false, a), (true, a), (true, a), (true, a), (true, a), (true, a)]

open Scene in
theorem overlapping_apart :
    Fresh twoJobs (ofJobs twoJobs fun _ => none) overlapping ∧
    (∀ k, (((ofJobs twoJobs fun _ => none).run overlapping).calls k).result? =
      (((ofJobs twoJobs fun _ => none).run (onlyTurns k overlapping)).calls k).result?) ∧
    (((ofJobs twoJobs fun _ => none).run overlapping).calls true).result? =
      some (.error (.outputUnreadable "/tmp/a" .noSuchFile)) := by
  have fresh : Fresh twoJobs (ofJobs twoJobs fun _ => none) overlapping := by decide +kernel
  exact ⟨fresh, fun k => (deployments_apart twoJobs _ overlapping (.inl fresh) k).2.1.2, by rfl⟩

/-! ### Names of no files that are in use nevertheless -/

/-- A turn in which a new file would get the name, and in which a tool that finds a script or a
contract writes what it has deployed. -/
def compiling (path : String) (h : '\x00' ∉ path.toList) : Luck where
  created := .ok ⟨path, h⟩
  unwritten := none
  unread := none
  work readings :=
    if readings.script.isSome || readings.contract.isSome then
      (.ended (.code 0) [] [], .write DeployTool.deployedOutput)
    else (.ended (.code 1) [] [], .leave)

/-- The tool of the first deployment deletes its output, and the second one is given the name for
its own output. -/
def reusing : List (Bool × Luck) :=
  let a := deleting "/tmp/a" (by decide)
  let c := deleting "/tmp/c" (by decide)
  let b := compiling "/tmp/b" (by decide)
  let again := compiling "/tmp/c" (by decide)
  [(false, a), (false, a), (false, c), (false, c), (true, b), (true, b), (true, again),
    (true, again), (false, a), (false, a), (false, a), (true, b), (true, b), (true, b)]

/-- The request of the second deployment is given a name, and the first one takes all its turns. -/
def lending (name : FileName) : List (Bool × Luck) :=
  let a := compiling "/tmp/a" (by decide)
  let b := compiling "/tmp/b" (by decide)
  [(true, compiling name.1 name.2), (false, a), (false, a), (false, b), (false, b), (false, b),
    (false, b), (false, b)]

/-- The script and the contract are there. -/
def twoFiles (path : String) : Option Bytes :=
  if path = DeployTool.nodeTool.script ∨ path = "/tmp/poll.sol" then some [] else none

theorem readOutput_deployedOutput (path : String) :
    DeployTool.readOutput path (.ok DeployTool.deployedOutput) =
      .ok ⟨"0xabc", "", "0xdef", "", ""⟩ := by
  rw [DeployTool.readOutput, DeployTool.decode_deployedOutput]
  rfl

open Scene in
/-- **It is not enough that new files get names of no files that are there.** If a tool deletes its
output, the output of another deployment can get the name: the first one then ends with what the
other one has deployed, and that one finds nothing to read. And if the script or the contract is not
there, a request can get its name: the tool of another deployment then takes the request for it. -/
theorem reused_names_mix :
    (Avoids IsThere (ofJobs twoJobs twoFiles) reusing ∧
      (((ofJobs twoJobs twoFiles).run reusing).calls false).result? =
        some (.ok ⟨"0xabc", "", "0xdef", "", ""⟩) ∧
      (((ofJobs twoJobs twoFiles).run (onlyTurns false reusing)).calls false).result? =
        some (.error (.outputUnreadable "/tmp/c" .noSuchFile)) ∧
      (((ofJobs twoJobs twoFiles).run reusing).calls true).result? =
        some (.error (.outputUnreadable "/tmp/c" .noSuchFile)) ∧
      (((ofJobs twoJobs twoFiles).run (onlyTurns true reusing)).calls true).result? =
        some (.ok ⟨"0xabc", "", "0xdef", "", ""⟩)) ∧
    ∀ name, Given twoJobs name.1 →
      Avoids IsThere (ofJobs twoJobs fun _ => none) (lending name) ∧
      (((ofJobs twoJobs fun _ => none).run (lending name)).calls false).result? =
        some (.ok ⟨"0xabc", "", "0xdef", "", ""⟩) ∧
      (((ofJobs twoJobs fun _ => none).run (onlyTurns false (lending name))).calls false).result? =
        some (.error (.toolFailed "exit status: 1" "")) := by
  -- evaluation goes up to the output, which the lemma above reads
  have taken : (((ofJobs twoJobs twoFiles).run reusing).calls false).result? =
      some ((DeployTool.readOutput "/tmp/c" (.ok DeployTool.deployedOutput)).mapError id) := by rfl
  have own : (((ofJobs twoJobs twoFiles).run (onlyTurns true reusing)).calls true).result? =
      some ((DeployTool.readOutput "/tmp/c" (.ok DeployTool.deployedOutput)).mapError id) := by rfl
  have misled : ∀ name, Given twoJobs name.1 →
      (((ofJobs twoJobs fun _ => none).run (lending name)).calls false).result? =
        some ((DeployTool.readOutput "/tmp/b" (.ok DeployTool.deployedOutput)).mapError id) := by
    rintro ⟨_, _⟩ ⟨_ | _, rfl | rfl⟩ <;> rfl
  simp only [readOutput_deployedOutput] at taken own misled
  refine ⟨⟨by decide +kernel, taken, by rfl, by rfl, own⟩, fun name given =>
    ⟨?_, misled name given, ?_⟩⟩
  · obtain ⟨_, _⟩ := name
    obtain ⟨_ | _, rfl | rfl⟩ := given <;> decide +kernel +revert
  · rfl

end ChainBroker
