import ChainBroker.Text.Blank

/-!
# Ports

A plan names the ports of its image as texts such as `8545` or `30303/udp`: a number between 1 and
65535 and, after a slash, a transport protocol, which is TCP where none is given. Blanks around the
text, a plus sign and zeros before the number, and the case of the protocol do not matter.

`Port.key` is the one canonical spelling: two texts denote the same port exactly if they have the
same key.
-/

namespace ChainBroker

/-- A transport protocol. -/
inductive Protocol where
  /-- The transmission control protocol. -/
  | tcp
  /-- The user datagram protocol. -/
  | udp
  /-- The stream control transmission protocol. -/
  | sctp
deriving DecidableEq, Repr

namespace Protocol

/-- The name in lower case. -/
def name : Protocol → String
  | tcp => "tcp"
  | udp => "udp"
  | sctp => "sctp"

/-- The name in upper case. -/
def upperName : Protocol → String
  | tcp => "TCP"
  | udp => "UDP"
  | sctp => "SCTP"

/-- The protocol of a name in any case. -/
def ofName? (name : List Char) : Option Protocol :=
  match name.map Char.toLower with
  | ['t', 'c', 'p'] => some tcp
  | ['u', 'd', 'p'] => some udp
  | ['s', 'c', 't', 'p'] => some sctp
  | _ => none

end Protocol

/-- A port of a transport protocol. -/
structure Port where
  number : Nat
  protocol : Protocol
  /-- Zero is no port. -/
  number_pos : 0 < number := by decide
  /-- Numbers have sixteen bits. -/
  number_lt : number < 65536 := by decide
deriving DecidableEq, Repr

namespace Port

/-- What is wrong with the text of a port. -/
inductive Defect where
  /-- The part before the slash is no number of a port. -/
  | number
  /-- The part after the slash is no known protocol. -/
  | protocol
deriving DecidableEq, Repr

/-- The defect in words. -/
def Defect.message : Defect → String
  | .number => "port must be a number between 1 and 65535"
  | .protocol => "protocol must be tcp, udp or sctp"

/-- The number that a text of decimal digits denotes. -/
def decimalValue (digits : List Char) : Nat :=
  digits.foldl (fun n c => n * 10 + (c.toNat - '0'.toNat)) 0

/-- The number of a text of decimal digits, of which there is at least one, after an optional plus
sign. -/
def number? (s : List Char) : Option Nat :=
  let digits := match s with
    | '+' :: rest => rest
    | s => s
  if digits ≠ [] ∧ digits.all Char.isDigit then some (decimalValue digits) else none

/-- The parts of a text before and after its first slash; TCP stands where there is none. -/
def split (s : List Char) : List Char × List Char :=
  match s.span (· ≠ '/') with
  | (number, _ :: protocol) => (number, protocol)
  | (number, []) => (number, ['t', 'c', 'p'])

/-- The port that a text denotes. A bad number is reported before a bad protocol. -/
def parse (spec : String) : Except Defect Port :=
  let (numberPart, protocolPart) := split (Text.trim spec.toList)
  match number? numberPart with
  | none => .error .number
  | some n =>
    if h : 0 < n ∧ n < 65536 then
      match Protocol.ofName? protocolPart with
      | some protocol => .ok { number := n, protocol, number_pos := h.1, number_lt := h.2 }
      | none => .error .protocol
    else .error .number

/-- The ports of a list of texts, or the first text that denotes none and what is wrong with it. -/
def parseAll : List String → Except (String × Defect) (List Port)
  | [] => .ok []
  | spec :: specs =>
    match parse spec with
    | .error defect => .error (spec, defect)
    | .ok port =>
      match parseAll specs with
      | .error e => .error e
      | .ok ports => .ok (port :: ports)

/-- The number in decimal digits. -/
def digits (p : Port) : String := toString p.number

/-- The canonical spelling, such as `8545/tcp`. -/
def key (p : Port) : String := p.digits ++ "/" ++ p.protocol.name

end Port

end ChainBroker
