/-!
# UTF-8

Bytes are read as a list of pieces: a piece is a character, or a run of bytes that is no character.
A run that is no character is as long as it can be while still being the start of some encoding, and
one byte long otherwise, so every reader cuts invalid bytes at the same places. The two usual views
follow from the pieces: the strict one has a text only if every piece is a character, and the lossy
one puts U+FFFD for each of the others.
-/

namespace ChainBroker

/-- A sequence of bytes. -/
abbrev Bytes : Type := List UInt8

namespace Utf8

/-- A character, or bytes that encode none. -/
inductive Piece where
  /-- An encoded character. -/
  | char (c : Char)
  /-- A longest run of bytes that starts no encoding, or breaks one off. -/
  | broken (bytes : Bytes)
deriving DecidableEq, Repr

/-- The bytes that follow a leading byte: how many, and the bounds of the first of them. -/
structure Lead where
  /-- The number of bytes after the leading byte. -/
  following : Nat
  /-- The value bits of the leading byte. -/
  bits : Nat
  /-- The least value of the second byte. -/
  low : UInt8
  /-- The greatest value of the second byte. -/
  high : UInt8

/-- What a leading byte of a longer encoding announces: the bounds leave out overlong forms,
surrogates and values beyond U+10FFFF. -/
def lead? (b : UInt8) : Option Lead :=
  if 0xC2 ≤ b && b ≤ 0xDF then some ⟨1, b.toNat - 0xC0, 0x80, 0xBF⟩
  else if b == 0xE0 then some ⟨2, 0, 0xA0, 0xBF⟩
  else if b == 0xED then some ⟨2, 0xD, 0x80, 0x9F⟩
  else if 0xE1 ≤ b && b ≤ 0xEF then some ⟨2, b.toNat - 0xE0, 0x80, 0xBF⟩
  else if b == 0xF0 then some ⟨3, 0, 0x90, 0xBF⟩
  else if b == 0xF4 then some ⟨3, 4, 0x80, 0x8F⟩
  else if 0xF1 ≤ b && b ≤ 0xF3 then some ⟨3, b.toNat - 0xF0, 0x80, 0xBF⟩
  else none

/-- Whether the byte continues an encoding. -/
def isContinuation (b : UInt8) : Bool := 0x80 ≤ b && b ≤ 0xBF

/-- The value so far with six more bits. -/
def extend (value : Nat) (b : UInt8) : Nat := value * 64 + (b.toNat - 0x80)

/-- The pieces of a sequence of bytes, in order. -/
def pieces : Bytes → List Piece
  | [] => []
  | b :: rest =>
    if b < 0x80 then .char (Char.ofNat b.toNat) :: pieces rest
    else match lead? b with
      | none => .broken [b] :: pieces rest
      | some lead =>
        match rest with
        | [] => [.broken [b]]
        | b₁ :: rest₁ =>
          if lead.low ≤ b₁ && b₁ ≤ lead.high then
            if lead.following = 1 then .char (Char.ofNat (extend lead.bits b₁)) :: pieces rest₁
            else match rest₁ with
              | [] => [.broken [b, b₁]]
              | b₂ :: rest₂ =>
                if isContinuation b₂ then
                  if lead.following = 2 then
                    .char (Char.ofNat (extend (extend lead.bits b₁) b₂)) :: pieces rest₂
                  else match rest₂ with
                    | [] => [.broken [b, b₁, b₂]]
                    | b₃ :: rest₃ =>
                      if isContinuation b₃ then
                        .char (Char.ofNat (extend (extend (extend lead.bits b₁) b₂) b₃)) ::
                          pieces rest₃
                      else .broken [b, b₁, b₂] :: pieces (b₃ :: rest₃)
                else .broken [b, b₁] :: pieces (b₂ :: rest₂)
          else .broken [b] :: pieces (b₁ :: rest₁)

/-- The number of bytes of a piece. -/
def Piece.size : Piece → Nat
  | .char c => c.utf8Size
  | .broken bytes => bytes.length

/-- The character of a piece, if it is one. -/
def Piece.char? : Piece → Option Char
  | .char c => some c
  | .broken _ => none

/-- The character of a piece, and U+FFFD for bytes that encode none. -/
def Piece.lossy : Piece → Char
  | .char c => c
  | .broken _ => '\uFFFD'

/-- The text that the bytes encode, if they are valid throughout. -/
def decode? (bytes : Bytes) : Option String :=
  ((pieces bytes).mapM Piece.char?).map String.ofList

/-- The text of the bytes, with U+FFFD for each piece that is no character. -/
def decodeLossy (bytes : Bytes) : String :=
  String.ofList ((pieces bytes).map Piece.lossy)

/-- The bytes that encode the text. -/
def encode (s : String) : Bytes := s.toList.flatMap String.utf8EncodeChar

/-- The pieces of a text: its characters. -/
def ofText (s : String) : List Piece := s.toList.map .char

end Utf8

end ChainBroker
