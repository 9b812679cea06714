/-!
# Dialogues

A dialogue is a computation that asks its surroundings questions one at a time and goes on with the
answers: it has either finished with a value, or it asks a question and says how it continues for
each answer. Everything that the broker does to a container platform, a network, a temporary
directory or a tool is a dialogue, so the surroundings may be anything: a recorded script, a store
of named objects, several dialogues taking turns, or a real machine.

* `Dialogue.interpret` runs a dialogue where its questions are answered in a monad.
* `Dialogue.Transcript d log a` says that `d`, given the answers in `log`, asks exactly the
  questions in `log` and finishes with `a`.
* An interface can be placed beside another one (`Interface.sum`), and `Dialogue.interpret` into
  dialogues of a second interface refines the questions of the first.
-/

namespace ChainBroker

/-- The questions that may be asked, and the kind of answer that each of them gets. -/
structure Interface where
  Question : Type
  /-- What an answer to the question is. -/
  Answer : Question → Type

/-- Either a finished value, or a question together with what follows for each answer. -/
inductive Dialogue (I : Interface) (α : Type) : Type where
  /-- Nothing more is asked. -/
  | done (value : α)
  /-- The question is asked, and `next` goes on with the answer. -/
  | ask (question : I.Question) (next : I.Answer question → Dialogue I α)

namespace Dialogue

variable {I J : Interface} {α β γ : Type}

/-- Holds the first dialogue, then the one that its value selects. -/
def bind : Dialogue I α → (α → Dialogue I β) → Dialogue I β
  | done a, f => f a
  | ask q next, f => ask q fun answer => (next answer).bind f

instance : Monad (Dialogue I) where
  pure := done
  bind := bind

/-- Asks one question and returns its answer. -/
def question (q : I.Question) : Dialogue I (I.Answer q) := ask q done

/-- Runs a dialogue where every question is answered in the monad `m`. -/
def interpret {m : Type → Type} [Monad m] (answer : (q : I.Question) → m (I.Answer q)) :
    Dialogue I α → m α
  | done a => pure a
  | ask q next => do (next (← answer q)).interpret answer

/-! ## What was said -/

/-- A question together with the answer that it got. -/
abbrev Exchange (I : Interface) : Type := (q : I.Question) × I.Answer q

/-- The dialogue asks the questions of the log in order, gets its answers, and ends with the value.
-/
inductive Transcript : Dialogue I α → List (Exchange I) → α → Prop where
  /-- A finished dialogue asks nothing. -/
  | done (a : α) : Transcript (done a) [] a
  /-- A question and its answer come before what follows for that answer. -/
  | ask {q : I.Question} {next : I.Answer q → Dialogue I α} {answer : I.Answer q}
      {log : List (Exchange I)} {a : α} (rest : Transcript (next answer) log a) :
      Transcript (ask q next) (⟨q, answer⟩ :: log) a

@[simp] theorem bind_done (a : α) (f : α → Dialogue I β) : (done a).bind f = f a := rfl

@[simp] theorem bind_ask (q : I.Question) (next : I.Answer q → Dialogue I α)
    (f : α → Dialogue I β) : (ask q next).bind f = ask q fun answer => (next answer).bind f := rfl

theorem bind_assoc (d : Dialogue I α) (f : α → Dialogue I β) (g : β → Dialogue I γ) :
    (d.bind f).bind g = d.bind fun a => (f a).bind g := by
  induction d with
  | done a => rfl
  | ask q next ih => simp [ih]

theorem bind_pure (d : Dialogue I α) : d.bind done = d := by
  induction d with
  | done a => rfl
  | ask q next ih => simp [ih]

/-- The transcript of two dialogues in a row is the first one's followed by the second one's. -/
theorem Transcript.bind {d : Dialogue I α} {f : α → Dialogue I β} {log log' : List (Exchange I)}
    {a : α} {b : β} (h : Transcript d log a) (h' : Transcript (f a) log' b) :
    Transcript (d.bind f) (log ++ log') b := by
  induction h with
  | done a => exact h'
  | ask rest ih => exact .ask (ih h')

end Dialogue

/-- The interface with no questions. -/
def Interface.empty : Interface := ⟨Empty, nofun⟩

/-- The questions of two interfaces side by side. -/
def Interface.sum (I J : Interface) : Interface where
  Question := I.Question ⊕ J.Question
  Answer
    | .inl q => I.Answer q
    | .inr q => J.Answer q

/-- A dialogue that may fail: it ends with a value or with the reason why there is none. -/
abbrev Attempt (I : Interface) (ε α : Type) : Type := ExceptT ε (Dialogue I) α

namespace Attempt

variable {I J : Interface} {α ε ε' : Type}

/-- Asks one question. -/
def question (q : I.Question) : Attempt I ε (I.Answer q) :=
  ExceptT.lift (Dialogue.question q)

/-- Goes on with the value of a result, or ends with the failure that its error leads to. -/
def ofExcept (failure : ε' → ε) (result : Except ε' α) : Attempt I ε α :=
  ExceptT.mk (.done (result.mapError failure))

/-- Goes on with something else, whatever has come of the attempt. -/
def followedBy (a : Attempt I ε α) (next : Except ε α → Dialogue I Unit) : Attempt I ε α :=
  ExceptT.mk <| a.run.bind fun result => (next result).bind fun _ => .done result

/-- The same attempt with its questions put to other surroundings. -/
def interpret (answer : (q : I.Question) → Dialogue J (I.Answer q)) (a : Attempt I ε α) :
    Attempt J ε α :=
  ExceptT.mk (Dialogue.interpret answer a.run)

end Attempt

end ChainBroker
