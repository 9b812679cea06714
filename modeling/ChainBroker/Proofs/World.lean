import ChainBroker.Platform
import ChainBroker.Proofs.Dialogue
import Mathlib.Logic.Function.Basic

/-!
# Surroundings with a state

A world answers questions out of a state, and a question may change the state. What the state does
not settle is left to chance, so that a run is a function of the chances, and what holds for all
chances holds for every behaviour.

* `World.hold` holds a dialogue with a world to its end.
* `World.after` is the state after a history of requests to a platform.
* `World.faulty` is a world of which every question may meet with a mishap.
* `Store` is a state of objects under names; `Store.visit` is a question about one of them.
* `Dialogue.Only` speaks of every question that a dialogue can ever ask; what these questions keep,
  the whole dialogue keeps (`Dialogue.Only.keeps`).
-/

namespace ChainBroker

open Dialogue

variable {I : Interface} {α β ε : Type}

/-! ## Questions that can be asked -/

namespace Dialogue

/-- Whatever is answered, all questions that are asked have the property. -/
def Only (P : I.Question → Prop) : Dialogue I α → Prop
  | done _ => True
  | ask q next => P q ∧ ∀ answer, (next answer).Only P

variable {P Q : I.Question → Prop}

theorem Only.mono {d : Dialogue I α} (h : d.Only P) (imp : ∀ q, P q → Q q) : d.Only Q := by
  induction d with
  | done a => trivial
  | ask q next ih => exact ⟨imp q h.1, fun answer => ih answer (h.2 answer)⟩

theorem Only.mp {d : Dialogue I α} (h : d.Only fun q => P q → Q q) (h' : d.Only P) : d.Only Q := by
  induction d with
  | done a => trivial
  | ask q next ih => exact ⟨h.1 h'.1, fun answer => ih answer (h.2 answer) (h'.2 answer)⟩

theorem Only.bind {d : Dialogue I α} {f : α → Dialogue I β} (h : d.Only P)
    (hf : ∀ a, (f a).Only P) : (d.bind f).Only P := by
  induction d with
  | done a => exact hf a
  | ask q next ih => exact ⟨h.1, fun answer => ih answer (h.2 answer)⟩

theorem Only.interpret {J : Interface} {R : J.Question → Prop}
    {answer : (q : I.Question) → Dialogue J (I.Answer q)} {d : Dialogue I α} (h : d.Only P)
    (hanswer : ∀ q, P q → (answer q).Only R) : (d.interpret answer).Only R := by
  induction d with
  | done a => trivial
  | ask q next ih => exact (hanswer q h.1).bind fun a => ih a (h.2 a)

theorem Only.of_transcript {d : Dialogue I α} {log : List (Exchange I)} {a : α} (h : d.Only P)
    (said : Transcript d log a) : ∀ x ∈ log, P x.1 := by
  induction said with
  | done a => simp
  | ask rest ih =>
    rw [List.forall_mem_cons]
    exact ⟨h.1, ih (h.2 _)⟩

end Dialogue

namespace Attempt

variable {P : I.Question → Prop}

theorem only_bind {a : Attempt I ε α} {f : α → Attempt I ε β} (h : a.run.Only P)
    (hf : ∀ x, (f x).run.Only P) : (a >>= f).run.Only P := by
  refine Only.bind h fun x => ?_
  cases x with
  | ok x => exact hf x
  | error e => trivial

theorem only_question_bind {q : I.Question} {f : I.Answer q → Attempt I ε β} (h : P q)
    (hf : ∀ answer, (f answer).run.Only P) : (question q >>= f).run.Only P :=
  ⟨h, hf⟩

theorem only_ofExcept {failure : β → ε} {x : Except β α} :
    (ofExcept failure x : Attempt I ε α).run.Only P := by
  trivial

end Attempt

/-! ## Worlds -/

/-- Surroundings that answer the questions of an interface out of a state. -/
structure World (I : Interface) where
  /-- What is remembered. -/
  State : Type
  /-- What is left to chance whenever a question is answered. -/
  Chance : Type
  /-- The answer to a question, and the state after it. -/
  react : Chance → (q : I.Question) → State → I.Answer q × State

namespace World

variable {w : World I}

/-- What a dialogue ends with, and the state after it; `luck n` is the chance at its `n`th question.
-/
def hold (w : World I) : Dialogue I α → (Nat → w.Chance) → w.State → α × w.State
  | .done a, _, s => (a, s)
  | .ask q next, luck, s =>
    w.hold (next (w.react (luck 0) q s).1) (fun n => luck (n + 1)) (w.react (luck 0) q s).2

theorem hold_question_bind {q : I.Question} {f : I.Answer q → Attempt I ε β}
    {luck : Nat → w.Chance} {s s' : w.State} {answer : I.Answer q}
    (h : w.react (luck 0) q s = (answer, s')) :
    w.hold (Attempt.question q >>= f).run luck s =
      w.hold (f answer).run (fun n => luck (n + 1)) s' := by
  show w.hold (f (w.react (luck 0) q s).1).run (fun n => luck (n + 1)) (w.react (luck 0) q s).2 = _
  rw [h]

/-- Two dialogues in a row are held one after the other, the second one with what is left of the
luck. -/
theorem hold_bind (d : Dialogue I α) (f : α → Dialogue I β) (luck : Nat → w.Chance) (s : w.State) :
    ∃ rest, w.hold (d.bind f) luck s = w.hold (f (w.hold d luck s).1) rest (w.hold d luck s).2 := by
  induction d generalizing luck s with
  | done a => exact ⟨luck, rfl⟩
  | ask q next ih => exact ih _ _ _

/-- An attempt goes on after a success. -/
theorem hold_attempt_bind {a : Attempt I ε α} {f : α → Attempt I ε β} {luck : Nat → w.Chance}
    {s s' : w.State} {x : α} (h : w.hold a.run luck s = (.ok x, s')) :
    ∃ rest, w.hold (a >>= f).run luck s = w.hold (f x).run rest s' := by
  obtain ⟨rest, hrest⟩ := hold_bind a.run (fun
    | .ok x => (f x).run
    | .error e => .done (.error e)) luck s
  rw [h] at hrest
  refine ⟨rest, Eq.trans ?_ hrest⟩
  refine congrArg (fun g => w.hold (Dialogue.bind a.run g) luck s) (funext fun x => ?_)
  cases x <;> rfl

/-- Worlds that react alike to all questions of a dialogue hold it alike. -/
theorem hold_congr {P : I.Question → Prop} {State Chance : Type}
    {react react' : Chance → (q : I.Question) → State → I.Answer q × State}
    (alike : ∀ q, P q → ∀ chance s, react chance q s = react' chance q s) {d : Dialogue I α}
    (h : d.Only P) (luck : Nat → Chance) (s : State) :
    hold ⟨State, Chance, react⟩ d luck s = hold ⟨State, Chance, react'⟩ d luck s := by
  induction d generalizing luck s with
  | done a => rfl
  | ask q next ih =>
    simp only [hold, alike q h.1]
    exact ih _ (h.2 _) _ _

/-- What comes after an attempt changes nothing of its result. -/
theorem hold_followedBy_fst (a : Attempt I ε α) (next : Except ε α → Dialogue I Unit)
    (luck : Nat → w.Chance) (s : w.State) :
    (w.hold (a.followedBy next).run luck s).1 = (w.hold a.run luck s).1 := by
  obtain ⟨rest, hrest⟩ := hold_bind a.run (fun r => (next r).bind fun _ => .done r) luck s
  obtain ⟨rest', hrest'⟩ := hold_bind (next (w.hold a.run luck s).1)
    (fun _ => .done (w.hold a.run luck s).1) rest (w.hold a.run luck s).2
  show (w.hold (a.run.bind fun r => (next r).bind fun _ => .done r) luck s).1 = _
  rw [hrest, hrest']
  rfl

end World

/-- What every question of a dialogue keeps, the dialogue keeps. -/
theorem Dialogue.Only.keeps {w : World I} {P : I.Question → Prop} {Inv : w.State → Prop}
    {d : Dialogue I α} (h : d.Only P)
    (keep : ∀ c q s, P q → Inv s → Inv (w.react c q s).2) {luck : Nat → w.Chance} {s : w.State}
    (hs : Inv s) : Inv (w.hold d luck s).2 := by
  induction d generalizing luck s with
  | done a => exact hs
  | ask q next ih => exact ih _ (h.2 _) (keep _ _ _ h.1 hs)

/-! ## Mishaps -/

/-- Something that goes wrong with a question: the one who asks is told of a failure, while what was
asked for may have been done all the same. -/
structure Mishap (ε : Type) where
  /-- The failure. -/
  cause : ε
  /-- Whether the question takes effect. -/
  takesEffect : Bool

namespace World

/-- The world where every question may meet with a mishap; `fail` is how a failure is told. -/
abbrev faulty (w : World I) (fail : w.Chance → ε → (q : I.Question) → I.Answer q) : World I where
  State := w.State
  Chance := w.Chance × Option (Mishap ε)
  react chance q s :=
    match chance.2 with
    | none => w.react chance.1 q s
    | some mishap =>
      (fail chance.1 mishap.cause q,
        if mishap.takesEffect then (w.react chance.1 q s).2 else s)

variable {w : World I} {fail : w.Chance → ε → (q : I.Question) → I.Answer q}

/-- What a world keeps, it keeps when mishaps happen. -/
theorem faulty_keeps {P : w.State → Prop} {q : I.Question}
    (keep : ∀ c s, P s → P (w.react c q s).2) (chance : (w.faulty fail).Chance) (s : w.State)
    (hs : P s) : P ((w.faulty fail).react chance q s).2 := by
  obtain ⟨c, mishap⟩ := chance
  cases mishap with
  | none => exact keep c s hs
  | some mishap =>
    show P (if mishap.takesEffect then (w.react c q s).2 else s)
    split
    · exact keep c s hs
    · exact hs

theorem faulty_react_of_none {chance : (w.faulty fail).Chance} (lucky : chance.2 = none)
    (q : I.Question) (s : w.State) :
    (w.faulty fail).react chance q s = w.react chance.1 q s := by
  obtain ⟨c, mishap⟩ := chance
  cases lucky
  rfl

/-- No question meets with a mishap. -/
def Lucky (luck : Nat → (w.faulty fail).Chance) : Prop := ∀ n, (luck n).2 = none

/-- Without mishaps a faulty world is the world itself. -/
theorem hold_faulty {d : Dialogue I α} {luck : Nat → (w.faulty fail).Chance} (lucky : Lucky luck)
    (s : w.State) : (w.faulty fail).hold d luck s = w.hold d (fun n => (luck n).1) s := by
  induction d generalizing luck s with
  | done a => rfl
  | ask q next ih =>
    unfold hold
    rw [faulty_react_of_none (lucky 0)]
    exact ih _ (fun n => lucky (n + 1)) _

end World

/-! ## Stores -/

/-- Objects under their names. -/
abbrev Store (α : Type) : Type := String → Option α

namespace Store

variable {name name' : String} {f : Option α → β × Option α} {s t : Store α}

/-- There are no objects. -/
def empty : Store α := fun _ => none

/-- Looks for the object of a name, and leaves something in its place. -/
def visit (name : String) (f : Option α → β × Option α) (s : Store α) : β × Store α :=
  ((f (s name)).1, Function.update s name (f (s name)).2)

theorem visit_eq {b : β} {o : Option α} (h : f (s name) = (b, o)) :
    visit name f s = (b, Function.update s name o) := by
  unfold visit
  rw [h]

/-- A visit that leaves what it has found changes nothing. -/
theorem visit_eq_self {b : β} (h : f (s name) = (b, s name)) : visit name f s = (b, s) := by
  rw [visit_eq h, Function.update_eq_self]

theorem visit_snd_self : (visit name f s).2 name = (f (s name)).2 := Function.update_self ..

theorem visit_snd_of_ne (h : name' ≠ name) : (visit name f s).2 name' = s name' :=
  Function.update_of_ne h ..

/-- What a visit finds and leaves depends on the object of the name alone. -/
theorem visit_congr (h : s name = t name) :
    (visit name f s).1 = (visit name f t).1 ∧
      (visit name f s).2 name = (visit name f t).2 name := by
  rw [visit_snd_self, visit_snd_self, ← h]
  exact ⟨congrArg (fun o => (f o).1) h, rfl⟩

end Store

/-! ## Requests -/

/-- What may be asked of a platform about an instance. -/
inductive Platform.Task where
  /-- Start it. -/
  | provision (image : String) (ports : List String)
  /-- Remove it. -/
  | deprovision
  /-- Say where it is reachable. -/
  | bind (bindingId : String)

/-- What a task ends with, unless it fails. -/
abbrev Platform.Task.Result : Platform.Task → Type
  | .provision _ _ | .deprovision => Unit
  | .bind _ => Instance

/-- What a task comes to on a platform. -/
def Platform.Task.on (p : Platform I) (instanceId : String) :
    (task : Platform.Task) → Dialogue I (Except Failure task.Result)
  | .provision image ports => (p.provision ⟨instanceId, image, ports⟩).run
  | .deprovision => (p.deprovision instanceId).run
  | .bind bindingId => (p.bind instanceId bindingId).run

/-- A task for the instance of an id. -/
structure Platform.Request where
  instanceId : String
  task : Platform.Task

/-- What a request comes to on a platform. -/
def Platform.Request.on (p : Platform I) (r : Platform.Request) :
    Dialogue I (Except Failure r.task.Result) :=
  r.task.on p r.instanceId

/-- The requests of a history, in order, each with the chances that it meets with. -/
abbrev History (w : World I) : Type := List (Platform.Request × (Nat → w.Chance))

/-- The state after the requests of a history, each of them held to its end. -/
def World.after (w : World I) (p : Platform I) (history : History w) (s : w.State) : w.State :=
  history.foldl (fun s call => (w.hold (call.1.on p) call.2 s).2) s

/-- What every request of a history keeps, the history keeps. -/
theorem World.after_keeps {w : World I} {p : Platform I} {P : w.State → Prop} {history : History w}
    (keep : ∀ call ∈ history, ∀ s, P s → P (w.hold (call.1.on p) call.2 s).2) {s : w.State}
    (hs : P s) : P (w.after p history s) := by
  induction history generalizing s with
  | nil => exact hs
  | cons call history ih =>
    obtain ⟨first, others⟩ := List.forall_mem_cons.mp keep
    exact ih others (first s hs)

end ChainBroker
