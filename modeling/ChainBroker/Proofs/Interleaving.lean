import ChainBroker.Proofs.World
import Mathlib.Data.Fintype.Basic
import Mathlib.Logic.Function.Basic

/-!
# Dialogues that take turns

Several dialogues are held with one world at the same time. A schedule says whose turn is next, and
what chance brings then; a turn is one question with its answer.

* `Scene.run` is what has become of the world and of the dialogues after a schedule.
* `Scene.run_keeps`: what every turn keeps, every schedule keeps.
* `Scene.said_run`: what each of the dialogues has said so far is the beginning of a transcript.
* `Scene.exists_ended`: every schedule of finitely many dialogues can be continued until all of them
  have ended.
-/

namespace ChainBroker

open Dialogue

variable {I : Interface} {α : Type}

/-! ## The beginning of a transcript -/

namespace Dialogue

/-- The first dialogue asks the questions of the log and gets its answers; the second one is what is
left of it. -/
inductive Said : Dialogue I α → List (Exchange I) → Dialogue I α → Prop where
  /-- Nothing has been asked yet. -/
  | nil (d : Dialogue I α) : Said d [] d
  /-- The first question has been answered. -/
  | cons {q : I.Question} {next : I.Answer q → Dialogue I α} {answer : I.Answer q}
      {log : List (Exchange I)} {d : Dialogue I α} (rest : Said (next answer) log d) :
      Said (ask q next) (⟨q, answer⟩ :: log) d

variable {d d' : Dialogue I α} {log : List (Exchange I)}

/-- One more question is answered. -/
theorem Said.concat {q : I.Question} {next : I.Answer q → Dialogue I α}
    (h : Said d log (ask q next)) (answer : I.Answer q) :
    Said d (log ++ [⟨q, answer⟩]) (next answer) := by
  generalize he : ask q next = e at h
  induction h with
  | nil d =>
    subst he
    exact .cons (.nil _)
  | cons rest ih => exact .cons (ih he)

/-- What has been said are questions that can be asked. -/
theorem Said.only {P : I.Question → Prop} (h : Said d log d') (only : d.Only P) :
    ∀ x ∈ log, P x.1 := by
  induction h with
  | nil => exact fun x hx => absurd hx List.not_mem_nil
  | cons rest ih => exact List.forall_mem_cons.mpr ⟨only.1, ih (only.2 _)⟩

/-- The rest of a dialogue completes the transcript. -/
theorem Said.transcript {rest : List (Exchange I)} {a : α} (h : Said d log d')
    (ht : Transcript d' rest a) : Transcript d (log ++ rest) a := by
  induction h with
  | nil d => exact ht
  | cons _ ih => exact .ask (ih ht)

theorem Said.transcript_of_done {a : α} (h : Said d log (.done a)) : Transcript d log a := by
  have ht := h.transcript (.done a)
  rwa [List.append_nil] at ht

theorem exists_transcript [∀ q, Nonempty (I.Answer q)] (d : Dialogue I α) :
    ∃ log a, Transcript d log a := by
  induction d with
  | done a => exact ⟨[], a, .done a⟩
  | ask q next ih =>
    obtain ⟨answer⟩ := ‹∀ q, Nonempty (I.Answer q)› q
    obtain ⟨log, a, h⟩ := ih answer
    exact ⟨_, a, .ask h⟩

end Dialogue

/-! ## Scenes -/

variable {ι : Type} {w : World I} {ρ : ι → Type}

/-- Dialogues in the middle of their turns with a world. -/
structure Scene (w : World I) {ι : Type} (ρ : ι → Type) where
  /-- The state of the world. -/
  state : w.State
  /-- What is left of each dialogue. -/
  calls : (k : ι) → Dialogue I (ρ k)
  /-- What has been said, and in which dialogue. -/
  log : List (ι × Exchange I)

namespace Scene

/-- Nobody has had a turn. -/
def start (s : w.State) (calls : (k : ι) → Dialogue I (ρ k)) : Scene w ρ := ⟨s, calls, []⟩

/-- All dialogues have ended. -/
def Ended (c : Scene w ρ) : Prop := ∀ k, ∃ a, c.calls k = .done a

variable [DecidableEq ι]

/-- What has been said in one of the dialogues. -/
def said (c : Scene w ρ) (k : ι) : List (Exchange I) :=
  (c.log.filter (·.1 = k)).map Prod.snd

/-- A dialogue asks its next question, if it has one. -/
def turn (c : Scene w ρ) (k : ι) (chance : w.Chance) : Scene w ρ :=
  match c.calls k with
  | .done _ => c
  | .ask q next =>
    { state := (w.react chance q c.state).2
      calls := Function.update c.calls k (next (w.react chance q c.state).1)
      log := c.log ++ [(k, ⟨q, (w.react chance q c.state).1⟩)] }

/-- The turns of a schedule are taken. -/
def run (c : Scene w ρ) (schedule : List (ι × w.Chance)) : Scene w ρ :=
  schedule.foldl (fun c t => c.turn t.1 t.2) c

variable {c : Scene w ρ} {k : ι} {chance : w.Chance}

theorem turn_of_done {a : ρ k} (h : c.calls k = .done a) : c.turn k chance = c := by
  unfold turn
  rw [h]

theorem turn_of_ask {q : I.Question} {next : I.Answer q → Dialogue I (ρ k)}
    (h : c.calls k = .ask q next) :
    c.turn k chance =
      { state := (w.react chance q c.state).2
        calls := Function.update c.calls k (next (w.react chance q c.state).1)
        log := c.log ++ [(k, ⟨q, (w.react chance q c.state).1⟩)] } := by
  unfold turn
  rw [h]

theorem calls_turn_of_ask {q : I.Question} {next : I.Answer q → Dialogue I (ρ k)}
    (h : c.calls k = .ask q next) :
    (c.turn k chance).calls k = next (w.react chance q c.state).1 := by
  rw [turn_of_ask h]
  exact Function.update_self ..

/-- A turn leaves the other dialogues where they are. -/
theorem calls_turn_of_ne {l : ι} (hl : l ≠ k) : (c.turn k chance).calls l = c.calls l := by
  cases hk : c.calls k with
  | done a => rw [turn_of_done hk]
  | ask q next =>
    rw [turn_of_ask hk]
    exact Function.update_of_ne hl ..

theorem run_append {first second : List (ι × w.Chance)} :
    c.run (first ++ second) = (c.run first).run second :=
  List.foldl_append

/-- What every turn of a schedule keeps, the schedule keeps. -/
theorem run_keeps {P : Scene w ρ → Prop} {schedule : List (ι × w.Chance)}
    (keep : ∀ c, ∀ t ∈ schedule, P c → P (c.turn t.1 t.2)) (hc : P c) : P (c.run schedule) := by
  induction schedule generalizing c with
  | nil => exact hc
  | cons t schedule ih =>
    refine ih (fun c t' ht' => keep c t' (List.mem_cons_of_mem t ht')) ?_
    exact keep c t List.mem_cons_self hc

/-! ## What each of the dialogues says -/

theorem said_turn_of_ask {q : I.Question} {next : I.Answer q → Dialogue I (ρ k)}
    (h : c.calls k = .ask q next) :
    (c.turn k chance).said k = c.said k ++ [⟨q, (w.react chance q c.state).1⟩] := by
  rw [turn_of_ask h]
  simp [said]

theorem said_turn_of_ne {l : ι} (hl : l ≠ k) : (c.turn k chance).said l = c.said l := by
  cases hk : c.calls k with
  | done a => rw [turn_of_done hk]
  | ask q next =>
    rw [turn_of_ask hk]
    simp [said, Ne.symm hl]

/-- What has been said after a turn has been said before, or it is what is said in the turn. -/
theorem mem_said_turn_iff {q : I.Question} {next : I.Answer q → Dialogue I (ρ k)}
    (h : c.calls k = .ask q next) {l : ι} {x : Exchange I} :
    x ∈ (c.turn k chance).said l ↔
      x ∈ c.said l ∨ (l = k ∧ x = ⟨q, (w.react chance q c.state).1⟩) := by
  by_cases hl : l = k
  · subst hl
    rw [said_turn_of_ask h]
    simp
  · rw [said_turn_of_ne hl]
    simp [hl]

/-- In every turn each of the dialogues goes on where it has been. -/
theorem said_turn {calls : (k : ι) → Dialogue I (ρ k)}
    (h : ∀ l, Said (calls l) (c.said l) (c.calls l)) (k : ι) (chance : w.Chance) (l : ι) :
    Said (calls l) ((c.turn k chance).said l) ((c.turn k chance).calls l) := by
  by_cases hl : l = k
  · subst hl
    cases hk : c.calls l with
    | done a =>
      rw [turn_of_done hk]
      exact h l
    | ask q next =>
      have hsaid := h l
      rw [hk] at hsaid
      rw [said_turn_of_ask hk, calls_turn_of_ask hk]
      exact hsaid.concat _
  · rw [said_turn_of_ne hl, calls_turn_of_ne hl]
    exact h l

theorem said_run (s : w.State) (calls : (k : ι) → Dialogue I (ρ k))
    (schedule : List (ι × w.Chance)) (k : ι) :
    Said (calls k) (((start s calls).run schedule).said k)
      (((start s calls).run schedule).calls k) := by
  refine run_keeps (P := fun c => ∀ l, Said (calls l) (c.said l) (c.calls l)) ?_ ?_ k
  · exact fun c t _ h => said_turn h t.1 t.2
  · exact fun l => .nil (calls l)

/-- Whatever has been said, an answer in it was given by the world at some time. -/
theorem answered_run (s : w.State) (calls : (k : ι) → Dialogue I (ρ k))
    {schedule : List (ι × w.Chance)} {k : ι} {x : Exchange I}
    (hx : x ∈ ((start s calls).run schedule).said k) :
    ∃ t ∈ schedule, ∃ s', x.2 = (w.react t.2 x.1 s').1 := by
  refine run_keeps (P := fun c => ∀ {l x}, x ∈ c.said l →
    ∃ t ∈ schedule, ∃ s', x.2 = (w.react t.2 x.1 s').1) ?_
    (fun hx => absurd hx List.not_mem_nil) hx
  intro c t ht h l x hx
  cases hk : c.calls t.1 with
  | done a =>
    rw [turn_of_done hk] at hx
    exact h hx
  | ask q next =>
    rcases (mem_said_turn_iff hk).mp hx with hx | ⟨-, rfl⟩
    · exact h hx
    · exact ⟨t, ht, c.state, rfl⟩

/-! ## The end of all dialogues -/

/-- A dialogue that gets all the turns ends, and the others wait. -/
theorem exists_done (c : Scene w ρ) (k : ι) (chance : w.Chance) :
    ∃ schedule, (∀ t ∈ schedule, t.2 = chance) ∧ (∃ a, (c.run schedule).calls k = .done a) ∧
      ∀ l, l ≠ k → (c.run schedule).calls l = c.calls l := by
  generalize hd : c.calls k = d
  induction d generalizing c with
  | done a => exact ⟨[], by simp, ⟨a, hd⟩, fun _ _ => rfl⟩
  | ask q next ih =>
    obtain ⟨schedule, hchance, hdone, hothers⟩ := ih _ (c.turn k chance) (calls_turn_of_ask hd)
    refine ⟨(k, chance) :: schedule, ?_, hdone, fun l hl => ?_⟩
    · exact List.forall_mem_cons.mpr ⟨rfl, hchance⟩
    · exact (hothers l hl).trans (calls_turn_of_ne hl)

/-- However turns have been taken, all dialogues can be brought to their end. -/
theorem exists_ended [Fintype ι] (c : Scene w ρ) (chance : w.Chance) :
    ∃ schedule, (∀ t ∈ schedule, t.2 = chance) ∧ (c.run schedule).Ended := by
  -- one dialogue after the other; those that have ended stay ended
  have key : ∀ running : Finset ι, ∀ c : Scene w ρ,
      (∀ k, k ∉ running → ∃ a, c.calls k = .done a) →
      ∃ schedule, (∀ t ∈ schedule, t.2 = chance) ∧ (c.run schedule).Ended := by
    intro running
    induction running using Finset.induction_on with
    | empty => exact fun c h => ⟨[], by simp, fun k => h k (Finset.notMem_empty k)⟩
    | insert k rest _ ih =>
      intro c h
      obtain ⟨first, hfirst, hdone, hothers⟩ := exists_done c k chance
      have hrest : ∀ l, l ∉ rest → ∃ a, (c.run first).calls l = .done a := by
        intro l hl
        by_cases hlk : l = k
        · subst hlk
          exact hdone
        · rw [hothers l hlk]
          exact h l fun hmem => (Finset.mem_insert.mp hmem).elim hlk hl
      obtain ⟨second, hsecond, hended⟩ := ih (c.run first) hrest
      refine ⟨first ++ second, ?_, by rwa [run_append]⟩
      exact fun t ht => (List.mem_append.mp ht).elim (hfirst t) (hsecond t)
  exact key Finset.univ c fun k hk => absurd (Finset.mem_univ k) hk

end Scene

end ChainBroker
