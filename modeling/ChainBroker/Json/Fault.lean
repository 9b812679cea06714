import ChainBroker.Misfit

/-!
# Faults of JSON documents

What stops the reading of a document: the text ends too early, it breaks the grammar, or it is
well formed so far and does not fit what is being read. A document is read from left to right, and
the first fault in that order is the one that is reported.
-/

namespace ChainBroker.Json

/-- What stops the reading of a document. -/
inductive Fault where
  /-- The text ends where a value is due. -/
  | endInValue
  /-- The text ends inside a list. -/
  | endInList
  /-- The text ends inside a record. -/
  | endInRecord
  /-- The text ends inside a text. -/
  | endInText
  /-- No value starts here. -/
  | valueExpected
  /-- A word starts like one of the three known ones and goes on differently. -/
  | wordExpected
  /-- The name of a member is not followed by a colon. -/
  | colonExpected
  /-- An item of a list is followed by neither a comma nor the end. -/
  | listCommaExpected
  /-- A member of a record is followed by neither a comma nor the end. -/
  | recordCommaExpected
  /-- The name of a member is no text. -/
  | nameExpected
  /-- A comma is followed by the end of the list or record. -/
  | trailingComma
  /-- Something follows where nothing may. -/
  | trailingCharacters
  /-- A number breaks the grammar. -/
  | invalidNumber
  /-- A number is too large. -/
  | numberOutOfRange
  /-- A backslash is followed by something unknown. -/
  | invalidEscape
  /-- The second half of a surrogate pair stands alone. -/
  | loneSurrogate
  /-- The first half of a surrogate pair is not followed by an escape. -/
  | surrogateCut
  /-- A control character stands inside a text. -/
  | controlCharacter
  /-- A text is not encoded in UTF-8. -/
  | notUtf8
  /-- The document does not fit. -/
  | misfit (reason : Misfit)
deriving DecidableEq, Repr

/-- The kinds of faults. -/
inductive Fault.Kind where
  /-- The text ends too early. -/
  | ended
  /-- The text breaks the grammar. -/
  | grammar
  /-- The document does not fit. -/
  | misfit
deriving DecidableEq, Repr

/-- The kind of a fault. -/
def Fault.kind : Fault → Fault.Kind
  | .endInValue | .endInList | .endInRecord | .endInText => .ended
  | .misfit _ => .misfit
  | _ => .grammar

/-- The fault in words. -/
def Fault.message : Fault → String
  | .endInValue => "EOF while parsing a value"
  | .endInList => "EOF while parsing a list"
  | .endInRecord => "EOF while parsing an object"
  | .endInText => "EOF while parsing a string"
  | .valueExpected => "expected value"
  | .wordExpected => "expected ident"
  | .colonExpected => "expected `:`"
  | .listCommaExpected => "expected `,` or `]`"
  | .recordCommaExpected => "expected `,` or `\x7d`"
  | .nameExpected => "key must be a string"
  | .trailingComma => "trailing comma"
  | .trailingCharacters => "trailing characters"
  | .invalidNumber => "invalid number"
  | .numberOutOfRange => "number out of range"
  | .invalidEscape => "invalid escape"
  | .loneSurrogate => "lone leading surrogate in hex escape"
  | .surrogateCut => "unexpected end of hex escape"
  | .controlCharacter => "control character (\\u0000-\\u001F) found while parsing a string"
  | .notUtf8 => "invalid unicode code point"
  | .misfit reason => reason.message

end ChainBroker.Json
