/-!
# Splitting texts

A text is cut at every occurrence of a character, and parts are joined by a character. There is
always at least one part.
-/

namespace ChainBroker.Text

/-- The parts of a text between the occurrences of a character. -/
def splitAt (c : Char) : List Char → List (List Char)
  | [] => [[]]
  | d :: s =>
    if d = c then [] :: splitAt c s
    else match splitAt c s with
      | [] => [[d]]
      | part :: parts => (d :: part) :: parts

/-- The parts with the character between them. -/
def joinWith (c : Char) : List (List Char) → List Char
  | [] => []
  | [part] => part
  | part :: parts => part ++ c :: joinWith c parts

/-- A character that does not occur differs from all that do. -/
theorem forall_ne_of_notMem {c : Char} {s : List Char} (h : c ∉ s) :
    ∀ d ∈ s, decide (d ≠ c) = true := by
  intro d hd
  rw [decide_eq_true_iff]
  rintro rfl
  exact h hd

theorem splitAt_ne_nil (c : Char) (s : List Char) : splitAt c s ≠ [] := by
  cases s with
  | nil => simp [splitAt]
  | cons d s =>
    unfold splitAt
    split
    · simp
    · split <;> simp

end ChainBroker.Text
