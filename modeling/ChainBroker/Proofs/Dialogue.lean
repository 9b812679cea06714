import ChainBroker.Dialogue
import Mathlib.Data.List.Infix

/-!
# What dialogues say

A transcript of a composed dialogue falls apart into transcripts of its parts, so that the run of an
operation is read off stage by stage.

* `transcript_bind_iff`: what two dialogues in a row say is cut between them.
* `transcript_attempt_bind_iff`: an attempt either goes on after its first part or ends with its
  failure.
* `transcript_interpret_iff`: a dialogue whose questions are answered by other dialogues says what
  these say, one after the other.
* `transcript_hold`: any surroundings, even those that remember everything, lead to one transcript.
-/

namespace ChainBroker

variable {I J : Interface} {α β ε ε' : Type}

namespace Dialogue

instance : LawfulMonad (Dialogue I) := .mk' _ bind_pure (fun _ _ => rfl) bind_assoc

/-! ## Taking transcripts apart -/

@[simp] theorem transcript_done_iff {a b : α} {log : List (Exchange I)} :
    Transcript (done a) log b ↔ log = [] ∧ b = a := by
  constructor
  · intro h
    cases h
    exact ⟨rfl, rfl⟩
  · rintro ⟨rfl, rfl⟩
    exact .done b

@[simp] theorem transcript_ask_iff {q : I.Question} {next : I.Answer q → Dialogue I α}
    {log : List (Exchange I)} {a : α} :
    Transcript (ask q next) log a ↔
      ∃ answer rest, log = ⟨q, answer⟩ :: rest ∧ Transcript (next answer) rest a := by
  constructor
  · intro h
    cases h with
    | ask rest => exact ⟨_, _, rfl, rest⟩
  · rintro ⟨answer, rest, rfl, h⟩
    exact .ask h

/-- A transcript of two parts is one of the first, followed by one of the second. -/
theorem transcript_bind_iff {d : Dialogue I α} {f : α → Dialogue I β} {log : List (Exchange I)}
    {b : β} :
    Transcript (d.bind f) log b ↔
      ∃ before a after, log = before ++ after ∧ Transcript d before a ∧
        Transcript (f a) after b := by
  constructor
  · intro h
    -- on the first dialogue, since the log does not show where the second one begins
    induction d generalizing log with
    | done a => exact ⟨[], a, log, rfl, .done a, h⟩
    | ask q next ih =>
      rw [bind_ask] at h
      obtain ⟨answer, rest, rfl, hrest⟩ := transcript_ask_iff.mp h
      obtain ⟨before, a, after, rfl, h1, h2⟩ := ih answer hrest
      exact ⟨⟨q, answer⟩ :: before, a, after, rfl, .ask h1, h2⟩
  · rintro ⟨before, a, after, rfl, h1, h2⟩
    exact h1.bind h2

@[simp] theorem transcript_question_iff {q : I.Question} {log : List (Exchange I)}
    {a : I.Answer q} : Transcript (question q) log a ↔ log = [⟨q, a⟩] := by
  unfold question
  rw [transcript_ask_iff]
  constructor
  · rintro ⟨answer, rest, rfl, h⟩
    obtain ⟨rfl, rfl⟩ := transcript_done_iff.mp h
    rfl
  · rintro rfl
    exact ⟨a, [], rfl, .done a⟩

/-- What a dialogue ends with is settled by what is said. -/
theorem Transcript.unique {d : Dialogue I α} {log : List (Exchange I)} {a b : α}
    (h : Transcript d log a) (h' : Transcript d log b) : a = b := by
  induction h with
  | done a => exact (transcript_done_iff.mp h').2.symm
  | ask rest ih =>
    obtain ⟨answer, log, e, h'⟩ := transcript_ask_iff.mp h'
    cases e
    exact ih h'

/-! ## Questions that are answered by dialogues -/

/-- The exchanges of the first log, each of them held as a dialogue, say what is in the second. -/
inductive Spelled (answer : (q : I.Question) → Dialogue J (I.Answer q)) :
    List (Exchange I) → List (Exchange J) → Prop where
  /-- Nothing is said. -/
  | nil : Spelled answer [] []
  /-- What the first exchange says comes before what the others say. -/
  | cons {q : I.Question} {a : I.Answer q} {outer : List (Exchange I)}
      {inner rest : List (Exchange J)} (first : Transcript (answer q) inner a)
      (others : Spelled answer outer rest) : Spelled answer (⟨q, a⟩ :: outer) (inner ++ rest)

/-- A dialogue that is led through another one has the transcripts of what its questions come to. -/
theorem transcript_interpret_iff {answer : (q : I.Question) → Dialogue J (I.Answer q)}
    {d : Dialogue I α} {log : List (Exchange J)} {a : α} :
    Transcript (d.interpret answer) log a ↔
      ∃ outer, Transcript d outer a ∧ Spelled answer outer log := by
  constructor
  · intro h
    -- the dialogue is followed, not the log: a question may be answered without a word
    induction d generalizing log with
    | done b =>
      obtain ⟨rfl, rfl⟩ := transcript_done_iff.mp h
      exact ⟨[], .done a, .nil⟩
    | ask q next ih =>
      obtain ⟨inner, answered, rest, rfl, h1, h2⟩ := transcript_bind_iff.mp h
      obtain ⟨outer, h3, h4⟩ := ih answered h2
      exact ⟨⟨q, answered⟩ :: outer, .ask h3, .cons h1 h4⟩
  · rintro ⟨outer, h, spelled⟩
    induction h generalizing log with
    | done b =>
      cases spelled
      exact .done b
    | ask rest ih =>
      cases spelled with
      | cons first others => exact first.bind (ih others)

@[simp] theorem spelled_singleton_iff {answer : (q : I.Question) → Dialogue J (I.Answer q)}
    {q : I.Question} {a : I.Answer q} {log : List (Exchange J)} :
    Spelled answer [⟨q, a⟩] log ↔ Transcript (answer q) log a := by
  constructor
  · intro h
    cases h with
    | cons first others =>
      cases others
      rwa [List.append_nil]
  · intro h
    rw [← List.append_nil log]
    exact .cons h .nil

/-- Whatever is said comes from one of the exchanges, and what this one says stands together. -/
theorem Spelled.exists_of_mem {answer : (q : I.Question) → Dialogue J (I.Answer q)}
    {outer : List (Exchange I)} {log : List (Exchange J)} (h : Spelled answer outer log)
    {e : Exchange J} (he : e ∈ log) :
    ∃ q a inner, ⟨q, a⟩ ∈ outer ∧ Transcript (answer q) inner a ∧ e ∈ inner ∧ inner <:+: log := by
  induction h with
  | nil => simp at he
  | @cons q a outer inner rest first others ih =>
    rcases List.mem_append.mp he with he | he
    · exact ⟨q, a, inner, List.mem_cons_self, first, he, List.infix_append' [] inner rest⟩
    · obtain ⟨q', a', inner', hm, ht, he, hi⟩ := ih he
      exact ⟨q', a', inner', List.mem_cons_of_mem _ hm, ht, he,
        hi.trans (List.suffix_append inner rest).isInfix⟩

/-- Every exchange has been held as a dialogue, and what that says stands together. -/
theorem Spelled.exists_transcript {answer : (q : I.Question) → Dialogue J (I.Answer q)}
    {outer : List (Exchange I)} {log : List (Exchange J)} (h : Spelled answer outer log)
    {q : I.Question} {a : I.Answer q} (hm : ⟨q, a⟩ ∈ outer) :
    ∃ inner, Transcript (answer q) inner a ∧ inner <:+: log := by
  induction h with
  | nil => simp at hm
  | @cons q' a' outer inner rest first others ih =>
    rcases List.mem_cons.mp hm with hm | hm
    · cases hm
      exact ⟨inner, first, List.infix_append' [] inner rest⟩
    · obtain ⟨inner', ht, hi⟩ := ih hm
      exact ⟨inner', ht, hi.trans (List.suffix_append inner rest).isInfix⟩

/-- An exchange of the first of two interfaces side by side. -/
def Exchange.inl (e : Exchange I) : Exchange (I.sum J) := ⟨.inl e.1, e.2⟩

/-- An exchange of the second of two interfaces side by side. -/
def Exchange.inr (e : Exchange J) : Exchange (I.sum J) := ⟨.inr e.1, e.2⟩

/-- Questions that are passed on as they are make the same log. -/
theorem spelled_inl_iff {outer : List (Exchange I)} {log : List (Exchange (I.sum J))} :
    Spelled (fun q => question (I := I.sum J) (.inl q)) outer log ↔ log = outer.map .inl := by
  constructor
  · intro h
    induction h with
    | nil => rfl
    | cons first others ih =>
      rw [transcript_question_iff.mp first, ih]
      rfl
  · rintro rfl
    induction outer with
    | nil => exact .nil
    | cons e outer ih =>
      exact @Spelled.cons _ _ _ e.1 e.2 outer [e.inl] (outer.map .inl)
        (transcript_question_iff.mpr rfl) ih

theorem spelled_inr_iff {outer : List (Exchange J)} {log : List (Exchange (I.sum J))} :
    Spelled (fun q => question (I := I.sum J) (.inr q)) outer log ↔ log = outer.map .inr := by
  constructor
  · intro h
    induction h with
    | nil => rfl
    | cons first others ih =>
      rw [transcript_question_iff.mp first, ih]
      rfl
  · rintro rfl
    induction outer with
    | nil => exact .nil
    | cons e outer ih =>
      exact @Spelled.cons _ _ _ e.1 e.2 outer [e.inr] (outer.map .inr)
        (transcript_question_iff.mpr rfl) ih

/-! ## Surroundings that remember -/

/-- A way to answer questions, which may depend on all that has been said before. -/
abbrev Behaviour (I : Interface) : Type := List (Exchange I) → (q : I.Question) → I.Answer q

/-- Answers a question and remembers the exchange. -/
def Behaviour.answer (b : Behaviour I) (q : I.Question) :
    StateM (List (Exchange I)) (I.Answer q) := fun past => (b past q, past ++ [⟨q, b past q⟩])

/-- What a dialogue ends with under a behaviour, and all that is said till then. -/
def hold (b : Behaviour I) (d : Dialogue I α) : α × List (Exchange I) :=
  (d.interpret b.answer).run []

theorem transcript_interpret_behaviour (b : Behaviour I) (d : Dialogue I α)
    (past : List (Exchange I)) :
    ∃ log, ((d.interpret b.answer).run past).2 = past ++ log ∧
      Transcript d log ((d.interpret b.answer).run past).1 := by
  induction d generalizing past with
  | done a => exact ⟨[], (List.append_nil past).symm, .done a⟩
  | ask q next ih =>
    obtain ⟨log, hlog, ht⟩ := ih (b past q) (past ++ [⟨q, b past q⟩])
    refine ⟨⟨q, b past q⟩ :: log, ?_, .ask ht⟩
    rw [List.append_assoc] at hlog
    exact hlog

/-- What a dialogue comes to when it is held, it comes to by what was said. -/
theorem transcript_hold (b : Behaviour I) (d : Dialogue I α) :
    Transcript d (d.hold b).2 (d.hold b).1 := by
  obtain ⟨log, hlog, ht⟩ := transcript_interpret_behaviour b d []
  rw [List.nil_append] at hlog
  unfold hold
  rw [hlog]
  exact ht

/-- The first question is answered when nothing has been said yet. -/
theorem hold_ask (b : Behaviour I) (q : I.Question) (next : I.Answer q → Dialogue I α) :
    ∃ log, ((ask q next).hold b).2 = ⟨q, b [] q⟩ :: log :=
  let ⟨log, hlog, _⟩ := transcript_interpret_behaviour b (next (b [] q)) [⟨q, b [] q⟩]
  ⟨log, hlog⟩

end Dialogue

/-! ## Attempts -/

namespace Attempt

open Dialogue

/-- An attempt in two parts fails in the first one, or goes on with its value. -/
theorem transcript_attempt_bind_iff {a : Attempt I ε α} {f : α → Attempt I ε β}
    {log : List (Exchange I)} {r : Except ε β} :
    Transcript (a >>= f).run log r ↔
      (∃ e, r = .error e ∧ Transcript a.run log (.error e)) ∨
        ∃ before x after, log = before ++ after ∧ Transcript a.run before (.ok x) ∧
          Transcript (f x).run after r := by
  have hrun : (a >>= f).run = a.run.bind fun
      | .ok x => (f x).run
      | .error e => .done (.error e) := by
    refine congrArg (Dialogue.bind a.run) (funext fun x => ?_)
    cases x <;> rfl
  rw [hrun, transcript_bind_iff]
  constructor
  · rintro ⟨before, x, after, rfl, h1, h2⟩
    cases x with
    | ok x => exact .inr ⟨before, x, after, rfl, h1, h2⟩
    | error e =>
      obtain ⟨rfl, rfl⟩ := transcript_done_iff.mp h2
      exact .inl ⟨e, rfl, by rwa [List.append_nil]⟩
  · rintro (⟨e, rfl, h⟩ | ⟨before, x, after, rfl, h1, h2⟩)
    · exact ⟨log, .error e, [], (List.append_nil log).symm, h, .done _⟩
    · exact ⟨before, .ok x, after, rfl, h1, h2⟩

/-- A question is answered, and the attempt goes on with the answer. -/
theorem transcript_question_bind_iff {q : I.Question} {f : I.Answer q → Attempt I ε β}
    {log : List (Exchange I)} {r : Except ε β} :
    Transcript (question q >>= f).run log r ↔
      ∃ answer rest, log = ⟨q, answer⟩ :: rest ∧ Transcript (f answer).run rest r :=
  transcript_ask_iff

theorem ofExcept_ok_bind (failure : ε' → ε) (a : α) (f : α → Attempt I ε β) :
    (ofExcept failure (.ok a) >>= f) = f a := rfl

theorem ofExcept_error_bind (failure : ε' → ε) (e : ε') (f : α → Attempt I ε β) :
    (ofExcept failure (.error e) >>= f) = throw (failure e) := rfl

/-- What comes after an attempt is said in any case and changes nothing of its result. -/
theorem transcript_followedBy_iff {a : Attempt I ε α} {next : Except ε α → Dialogue I Unit}
    {log : List (Exchange I)} {r : Except ε α} :
    Transcript (a.followedBy next).run log r ↔
      ∃ before after, log = before ++ after ∧ Transcript a.run before r ∧
        Transcript (next r) after () := by
  have hrun : (a.followedBy next).run =
      a.run.bind fun result => (next result).bind fun _ => .done result := rfl
  rw [hrun, transcript_bind_iff]
  constructor
  · rintro ⟨before, x, after, rfl, h1, h2⟩
    obtain ⟨said, _, rest, rfl, h3, h4⟩ := transcript_bind_iff.mp h2
    obtain ⟨rfl, rfl⟩ := transcript_done_iff.mp h4
    exact ⟨before, said, by rw [List.append_nil], h1, h3⟩
  · rintro ⟨before, after, rfl, h1, h2⟩
    refine ⟨before, r, after, rfl, h1, ?_⟩
    rw [← List.append_nil after]
    exact h2.bind (.done r)

@[simp] theorem transcript_pure_iff {a : α} {log : List (Exchange I)} {r : Except ε α} :
    Transcript (pure a : Attempt I ε α).run log r ↔ log = [] ∧ r = .ok a :=
  transcript_done_iff

@[simp] theorem transcript_throw_iff {e : ε} {log : List (Exchange I)} {r : Except ε α} :
    Transcript (throw e : Attempt I ε α).run log r ↔ log = [] ∧ r = .error e :=
  transcript_done_iff

@[simp] theorem mapError_id (x : Except ε α) : x.mapError id = x := by
  cases x <;> rfl

@[simp] theorem transcript_ofExcept_iff {failure : ε' → ε} {x : Except ε' α}
    {log : List (Exchange I)} {r : Except ε α} :
    Transcript (ofExcept failure x : Attempt I ε α).run log r ↔
      log = [] ∧ r = x.mapError failure :=
  transcript_done_iff

end Attempt

end ChainBroker
