import ChainBroker.Text.Hex
import ChainBroker.Text.Unprintable

/-!
# Quoted text

How diagnostics show a text so that its ends and its invisible characters can be seen: between
quotation marks, with a backslash before quotation marks and backslashes, short forms for tab, line
feed, carriage return and NUL, and the code point of every other character without a glyph.
-/

namespace ChainBroker.Text

/-- A character as it stands inside quotation marks. -/
def quotedChar (c : Char) : List Char :=
  match c with
  | '"' => ['\\', '"']
  | '\\' => ['\\', '\\']
  | '\t' => ['\\', 't']
  | '\n' => ['\\', 'n']
  | '\r' => ['\\', 'r']
  | '\x00' => ['\\', '0']
  | c =>
    if isUnprintable c then '\\' :: 'u' :: '\x7b' :: hexDigits c.toNat ++ ['\x7d'] else [c]

/-- The text between quotation marks. -/
def quoted (s : String) : String :=
  String.ofList ('"' :: s.toList.flatMap quotedChar ++ ['"'])

end ChainBroker.Text
