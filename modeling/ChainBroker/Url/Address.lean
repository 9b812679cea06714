import ChainBroker.Text.Hex
import ChainBroker.Text.Split

/-!
# Addresses of hosts

The numeric addresses that can stand in place of a domain. An IPv4 address has up to four numbers
with points between them, each decimal, octal after a zero or hexadecimal after `0x`; the last one
fills all bytes that are left. An IPv6 address has eight hexadecimal pieces with colons between
them; one run of zero pieces may be left out, and the last two pieces may be written as an IPv4
address.
-/

namespace ChainBroker.Url

/-- The number that digits of a base denote, if all of them are digits. -/
def digitsValue? (base : Nat) (digits : List Char) : Option Nat :=
  digits.foldl (fun n c =>
    match n, Text.hexValue? c with
    | some n, some d => if d < base then some (n * base + d) else none
    | _, _ => none) (some 0)

/-! ## IPv4 -/

namespace Ipv4

/-- A number of an address; with no digits after the mark of the base it is zero. -/
def number? : List Char → Option Nat
  | [] => none
  | '0' :: 'x' :: digits | '0' :: 'X' :: digits => digitsValue? 16 digits
  | ['0'] => some 0
  | '0' :: digits => digitsValue? 8 digits
  | digits => digitsValue? 10 digits

/-- The parts of a domain, without an empty one at the end. -/
def parts (domain : List Char) : List (List Char) :=
  let parts := Text.splitAt '.' domain
  if 1 < parts.length ∧ parts.getLast? = some [] then parts.dropLast else parts

/-- Whether a domain has to be an address, because it ends in a number. -/
def endsInNumber (domain : List Char) : Bool :=
  match (parts domain).getLast? with
  | none => false
  | some last => last ≠ [] ∧ (last.all Char.isDigit ∨ (number? last).isSome)

/-- The address that a domain denotes, as a number. -/
def parse? (domain : List Char) : Option Nat := do
  let numbers ← (parts domain).mapM number?
  let last ← numbers.getLast?
  let front := numbers.dropLast
  if 3 < front.length ∨ front.any (255 < ·) ∨ 1 <<< (8 * (4 - front.length)) ≤ last then none
  else
    some (front.foldl (fun n byte => n * 256 + byte) 0 <<< (8 * (4 - front.length)) + last)

/-- The address in decimal numbers. -/
def text (address : Nat) : List Char :=
  Text.joinWith '.' <| [3, 2, 1, 0].map fun i => Nat.toDigits 10 (address >>> (8 * i) % 256)

end Ipv4

/-! ## IPv6 -/

namespace Ipv6

/-- A piece of one to four hexadecimal digits. -/
def piece? (digits : List Char) : Option Nat :=
  if digits = [] ∨ 4 < digits.length then none else digitsValue? 16 digits

/-- A byte in decimal digits, without leading zeros. -/
def byte? (digits : List Char) : Option Nat :=
  match digits with
  | [] => none
  | '0' :: _ :: _ => none
  | digits => do
    let n ← digitsValue? 10 digits
    if n < 256 then some n else none

/-- The pieces of a last part: one, or two for four decimal numbers. -/
def lastPieces? (part : List Char) : Option (List Nat) :=
  if '.' ∈ part then
    match (Text.splitAt '.' part).mapM byte? with
    | some [a, b, c, d] => some [a * 256 + b, c * 256 + d]
    | _ => none
  else (piece? part).map fun piece => [piece]

/-- The pieces of parts of which the last one may be an IPv4 address. -/
def pieces? : List (List Char) → Option (List Nat)
  | [] => some []
  | [part] => lastPieces? part
  | part :: parts => do
    let piece ← piece? part
    let pieces ← pieces? parts
    some (piece :: pieces)

/-- The parts of an address with one empty part for the run that is left out. At either end two
empty parts stand for one run. -/
def parts? (s : List Char) : Option (List (List Char)) :=
  let atStart : List (List Char) → Option (List (List Char))
    | [] :: [] :: part :: parts => some ([] :: part :: parts)
    | [] :: _ => none
    | parts => some parts
  do
    let parts ← atStart (Text.splitAt ':' s)
    match parts with
    | [[], []] => some [[]]
    | parts => (atStart parts.reverse).map List.reverse

/-- The eight pieces of an address. -/
def parse? (s : List Char) : Option (List Nat) := do
  let parts ← parts? s
  match parts.span (· ≠ []) with
  | (parts, []) =>
    let pieces ← pieces? parts
    if pieces.length = 8 then some pieces else none
  | (front, _ :: back) =>
    let front ← front.mapM piece?
    let back ← pieces? back
    if front.length + back.length < 8 then
      some (front ++ List.replicate (8 - front.length - back.length) 0 ++ back)
    else none

/-- The number of zeros at the front of each tail of the pieces. -/
def zeroRuns : List Nat → List Nat
  | [] => []
  | piece :: pieces =>
    let runs := zeroRuns pieces
    (if piece = 0 then runs.head?.getD 0 + 1 else 0) :: runs

/-- The pieces with colons between them. -/
def textOf (pieces : List Nat) : List Char := Text.joinWith ':' (pieces.map Text.hexDigits)

/-- The address with its first longest run of at least two zero pieces left out. -/
def text (pieces : List Nat) : List Char :=
  let runs := zeroRuns pieces
  let longest := runs.foldl max 0
  if longest < 2 then textOf pieces
  else
    let start := runs.findIdx (· = longest)
    textOf (pieces.take start) ++ [':', ':'] ++ textOf (pieces.drop (start + longest))

end Ipv6

end ChainBroker.Url
