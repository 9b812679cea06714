import ChainBroker.Text.Hex
import ChainBroker.Text.Utf8

/-!
# Percent encoding

A byte is written as a percent sign and two hexadecimal digits. Which characters are written so
depends on where they stand: a set says which of them are, and what is not ASCII always is. In the
values of a form, blanks become plus signs and little more than letters and digits stays as it is.
-/

namespace ChainBroker.Percent

/-- The encoded form of a byte. -/
def encodeByte (b : UInt8) : List Char :=
  ['%', Text.hexDigitUpper (b.toNat / 16), Text.hexDigitUpper (b.toNat % 16)]

/-- The text with the characters of a set encoded. -/
def encode (set : Char → Bool) (s : List Char) : List Char :=
  s.flatMap fun c => if set c then (String.utf8EncodeChar c).flatMap encodeByte else [c]

/-- Control characters and what is not ASCII. -/
def controls (c : Char) : Bool := c < ' ' || '~' < c

/-- What is encoded in fragments. -/
def fragment (c : Char) : Bool := controls c || [' ', '"', '<', '>', '\x60'].contains c

/-- What is encoded in queries. -/
def query (c : Char) : Bool := controls c || [' ', '"', '#', '<', '>'].contains c

/-- What is encoded in the queries of special schemes. -/
def specialQuery (c : Char) : Bool := query c || c == '\''

/-- What is encoded in paths. -/
def path (c : Char) : Bool := query c || ['?', '\x60', '\x7b', '\x7d'].contains c

/-- What is encoded in user names and passwords. -/
def userinfo (c : Char) : Bool :=
  path c || ['/', ':', ';', '=', '@', '[', '\\', ']', '^', '|'].contains c

/-- The bytes of a text in which some are encoded. -/
def decode : List UInt8 → List UInt8
  | [] => []
  | b :: rest =>
    if b = 0x25 then
      match rest with
      | h :: l :: rest' =>
        match Text.hexValue? (Char.ofNat h.toNat), Text.hexValue? (Char.ofNat l.toNat) with
        | some high, some low => UInt8.ofNat (high * 16 + low) :: decode rest'
        | _, _ => b :: decode (h :: l :: rest')
      | rest => b :: decode rest
    else b :: decode rest

/-- A byte of the value of a form. -/
def encodeFormByte (b : UInt8) : List Char :=
  let c := Char.ofNat b.toNat
  if c.isAlphanum || ['*', '-', '.', '_'].contains c then [c]
  else if c = ' ' then ['+']
  else encodeByte b

/-- The value of a form. -/
def encodeForm (s : String) : List Char := (Utf8.encode s).flatMap encodeFormByte

/-- Names and values of a form. -/
def encodePairs (pairs : List (String × String)) : String :=
  "&".intercalate <| pairs.map fun (name, value) =>
    String.ofList (encodeForm name ++ '=' :: encodeForm value)

end ChainBroker.Percent
