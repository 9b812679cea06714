import ChainBroker.Text.Hex

/-!
# Universally unique ids

Ids of version 4 and variant 1: of the 128 bits 122 are free, and the text shows them as 32
hexadecimal digits in groups of 8, 4, 4, 4 and 12.
-/

namespace ChainBroker

/-- The free bits of an id. -/
structure Uuid where
  /-- The bits before the version. -/
  high : BitVec 48
  /-- The bits between the version and the variant. -/
  middle : BitVec 12
  /-- The bits after the variant. -/
  low : BitVec 62
deriving DecidableEq, Repr

namespace Uuid

/-- The lowest hexadecimal digits of a number, so many as are asked for. -/
def digits : (count : Nat) → Nat → List Char
  | 0, _ => []
  | count + 1, n => digits count (n / 16) ++ [Text.hexDigit (n % 16)]

/-- The id as a text. -/
def text (id : Uuid) : String :=
  let low := 1 <<< 63 + id.low.toNat
  String.ofList <|
    digits 8 (id.high.toNat >>> 16) ++ ['-'] ++ digits 4 id.high.toNat ++ ['-', '4'] ++
    digits 3 id.middle.toNat ++ ['-'] ++ digits 4 (low >>> 48) ++ ['-'] ++ digits 12 low

/-- The id that lies so many places behind this one, and behind it in the second direction. -/
def shift (id : Uuid) (i j : Nat) : Uuid :=
  { id with low := id.low + BitVec.ofNat 62 (i <<< 31 + j) }

end Uuid

end ChainBroker
