import ChainBroker.Json.Fault
import ChainBroker.Taken
import ChainBroker.Text.Utf8

/-!
# Sources of JSON

A source is a list of UTF-8 pieces, from the front of which readers take values.
-/

namespace ChainBroker.Json

open Utf8 (Piece)

/-- What is left to read. -/
abbrev Source : Type := List Piece

/-- A value that was read, and a rest that is shorter than the bound. -/
abbrev Taken (bound : Nat) (α : Type) : Type := ChainBroker.Taken Piece bound α

/-- Takes a value off the front of a source. -/
abbrev Reader (α : Type) : Type := (s : Source) → Except Fault (Taken s.length α)

/-! ## Blanks and words -/

/-- Whether the piece separates tokens. -/
def isSpace : Piece → Bool
  | .char c => c == ' ' || c == '\n' || c == '\t' || c == '\r'
  | .broken _ => false

/-- The source without the blanks at its front. -/
def skipBlanks (s : Source) : Source := s.dropWhile isSpace

theorem length_skipBlanks_le (s : Source) : (skipBlanks s).length ≤ s.length :=
  (List.dropWhile_suffix isSpace).length_le

/-- What follows the first piece after the blanks is shorter than the source. -/
theorem length_lt_of_skipBlanks {s rest : Source} {p : Piece} (h : skipBlanks s = p :: rest) :
    rest.length < s.length := by
  have := length_skipBlanks_le s
  rw [h] at this
  exact this

/-- The rest of a word after its first letter. -/
def word : List Char → (s : Source) → Except Fault (Remainder s)
  | [], s => .ok (.whole s)
  | _ :: _, [] => .error .endInValue
  | c :: cs, p :: s =>
    if p = .char c then
      match word cs s with
      | .ok r => .ok ⟨r.1, Nat.le_succ_of_le r.2⟩
      | .error e => .error e
    else .error .wordExpected

end ChainBroker.Json
