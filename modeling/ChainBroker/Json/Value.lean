import ChainBroker.Text.Hex

/-!
# JSON values and how they are written

A value is written compactly, without any blanks, or laid out: every member and item on a line of
its own, two blanks further in than the bracket that holds it, and a blank after each colon. Empty
lists and records stand on one line in both layouts. Texts escape the quotation mark, the backslash
and the characters below U+0020, and nothing else.
-/

namespace ChainBroker

/-- A JSON value; the members of a record keep their order. -/
inductive Json where
  /-- The null value. -/
  | null
  /-- A truth value. -/
  | bool (value : Bool)
  /-- A whole number. -/
  | int (value : Int)
  | text (value : String)
  /-- A list of values. -/
  | list (items : List Json)
  /-- Named values. -/
  | record (members : List (String × Json))
deriving Inhabited, Repr

namespace Json

/-- A character as it stands inside a JSON text. -/
def escape (c : Char) : List Char :=
  match c with
  | '"' => ['\\', '"']
  | '\\' => ['\\', '\\']
  | '\x08' => ['\\', 'b']
  | '\x0c' => ['\\', 'f']
  | '\n' => ['\\', 'n']
  | '\r' => ['\\', 'r']
  | '\t' => ['\\', 't']
  | c =>
    if c.toNat < 0x20 then
      ['\\', 'u', '0', '0', Text.hexDigit (c.toNat / 16), Text.hexDigit (c.toNat % 16)]
    else [c]

/-- A text between quotation marks. -/
def writeText (s : String) : List Char := '"' :: s.toList.flatMap escape ++ ['"']

/-- A whole number in decimal digits. -/
def writeInt : Int → List Char
  | .ofNat n => Nat.toDigits 10 n
  | .negSucc n => '-' :: Nat.toDigits 10 (n + 1)

/-- Where a written value breaks its lines. -/
inductive Layout where
  /-- Everything on one line, without blanks. -/
  | compact
  /-- Every item and member on a line of its own. -/
  | indented
deriving DecidableEq, Repr

/-- The break before something that stands inside so many brackets. -/
def Layout.newline : Layout → Nat → List Char
  | .compact, _ => []
  | .indented, depth => '\n' :: List.replicate (2 * depth) ' '

/-- What stands between the name of a member and its value. -/
def Layout.colon : Layout → List Char
  | .compact => [':']
  | .indented => [':', ' ']

mutual

/-- A value inside `depth` brackets. -/
def write (layout : Layout) (depth : Nat) : Json → List Char
  | .null => ['n', 'u', 'l', 'l']
  | .bool true => ['t', 'r', 'u', 'e']
  | .bool false => ['f', 'a', 'l', 's', 'e']
  | .int n => writeInt n
  | .text s => writeText s
  | .list [] => ['[', ']']
  | .list (item :: items) =>
    '[' :: layout.newline (depth + 1) ++ write layout (depth + 1) item ++
      writeItems layout depth items
  | .record [] => ['\x7b', '\x7d']
  | .record ((name, value) :: members) =>
    '\x7b' :: layout.newline (depth + 1) ++ writeText name ++ layout.colon ++
      write layout (depth + 1) value ++ writeMembers layout depth members

/-- The items of a list after the first one, and the closing bracket. -/
def writeItems (layout : Layout) (depth : Nat) : List Json → List Char
  | [] => layout.newline depth ++ [']']
  | item :: items =>
    ',' :: layout.newline (depth + 1) ++ write layout (depth + 1) item ++
      writeItems layout depth items

/-- The members of a record after the first one, and the closing bracket. -/
def writeMembers (layout : Layout) (depth : Nat) : List (String × Json) → List Char
  | [] => layout.newline depth ++ ['\x7d']
  | (name, value) :: members =>
    ',' :: layout.newline (depth + 1) ++ writeText name ++ layout.colon ++
      write layout (depth + 1) value ++ writeMembers layout depth members

end

/-- The value as a text. -/
def render (layout : Layout) (value : Json) : String :=
  String.ofList (value.write layout 0)

/-- A list of texts. -/
def texts (l : List String) : Json := .list (l.map .text)

end Json

end ChainBroker
