import ChainBroker.Taken

/-!
# Sources of TOML

A source is a list of characters, from the front of which readers take values. All that matters of a
source that is no TOML is that it is none, so a reader that fails gives no reason.

Blanks are the space and the tab. A comment runs to the end of its line. A line ends in a line feed,
before which a carriage return may stand; elsewhere a carriage return is not allowed.
-/

namespace ChainBroker.Toml

/-- What is left to read. -/
abbrev Source : Type := List Char

/-- A value that was read, and a rest that is shorter than the bound. -/
abbrev Taken (bound : Nat) (α : Type) : Type := ChainBroker.Taken Char bound α

/-- Takes a value off the front of a source. -/
abbrev Reader (α : Type) : Type := (s : Source) → Option (Taken s.length α)

/-- Whether the character separates tokens on a line. -/
def isBlank (c : Char) : Bool := c == ' ' || c == '\t'

/-- Whether the character may stand in a comment or a text: no control character but the tab. -/
def isPlain (c : Char) : Bool := c == '\t' || (0x20 ≤ c.toNat && c.toNat != 0x7F)

/-- The source without the blanks at its front. -/
def skipBlanks (s : Source) : Source := s.dropWhile isBlank

theorem length_skipBlanks_le (s : Source) : (skipBlanks s).length ≤ s.length :=
  (List.dropWhile_suffix isBlank).length_le

/-- What follows the end of the line, up to which only blanks and a comment may stand. -/
def lineEnd (inComment : Bool) : Source → Option Source
  | [] => some []
  | '\n' :: s => some s
  | '\r' :: '\n' :: s => some s
  | c :: s =>
    if inComment then if isPlain c then lineEnd true s else none
    else if isBlank c then lineEnd false s
    else if c = '#' then lineEnd true s
    else none

/-- What follows any number of blanks, comments and ends of lines. -/
def trivia (inComment : Bool) : Source → Option Source
  | [] => some []
  | '\n' :: s => trivia false s
  | '\r' :: '\n' :: s => trivia false s
  | c :: s =>
    if inComment then if isPlain c then trivia true s else none
    else if isBlank c then trivia false s
    else if c = '#' then trivia true s
    else some (c :: s)

theorem length_le_of_lineEnd {inComment : Bool} {s rest : Source}
    (h : lineEnd inComment s = some rest) : rest.length ≤ s.length := by
  induction inComment, s using lineEnd.induct generalizing rest <;>
    grind [lineEnd]

theorem length_le_of_trivia {inComment : Bool} {s rest : Source}
    (h : trivia inComment s = some rest) : rest.length ≤ s.length := by
  induction inComment, s using trivia.induct generalizing rest <;>
    grind [trivia]

end ChainBroker.Toml
