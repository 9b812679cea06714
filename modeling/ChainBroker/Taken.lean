/-!
# Readings

A reader takes a value off the front of a list and leaves a strictly shorter rest, so every loop
over what is left ends. What was read carries the proof.
-/

namespace ChainBroker

/-- A value that was read off a list of `τ`, and a rest that is shorter than the bound. -/
structure Taken (τ : Type) (bound : Nat) (α : Type) where
  value : α
  /-- What is left to read. -/
  rest : List τ
  /-- Something was read. -/
  shorter : rest.length < bound

namespace Taken

variable {τ α β : Type} {m n : Nat}

/-- The same reading with a wider bound. -/
def widen (h : m ≤ n) (t : Taken τ m α) : Taken τ n α :=
  ⟨t.value, t.rest, Nat.lt_of_lt_of_le t.shorter h⟩

/-- The same reading with another value. -/
def map (f : α → β) (t : Taken τ n α) : Taken τ n β :=
  ⟨f t.value, t.rest, t.shorter⟩

/-- The same reading behind one more element. -/
def behind (x : τ) {s : List τ} (t : Taken τ s.length α) : Taken τ (x :: s).length α :=
  t.widen (Nat.le_succ s.length)

end Taken

/-- What is left of a list when perhaps nothing was read. -/
abbrev Remainder {τ : Type} (s : List τ) : Type := { rest : List τ // rest.length ≤ s.length }

/-- Nothing was read. -/
def Remainder.whole {τ : Type} (s : List τ) : Remainder s := ⟨s, Nat.le_refl s.length⟩

end ChainBroker
