import ChainBroker.Text.Utf8
import ChainBroker.Url.Address
import ChainBroker.Url.Domain
import ChainBroker.Url.Percent

/-!
# Hosts

The host of a URL: an address in brackets, and otherwise, for the special schemes, a domain name or
an IPv4 address, and for other schemes a text of which nothing is known.
-/

namespace ChainBroker.Url

/-- What is wrong with the text of a URL. -/
inductive Fault where
  /-- It has no scheme. -/
  | relative
  /-- It has no host. -/
  | emptyHost
  /-- Its port is no number below 65536. -/
  | invalidPort
  /-- Its host ends in a number and is no IPv4 address. -/
  | invalidIpv4
  /-- Its host is in brackets and no IPv6 address. -/
  | invalidIpv6
  /-- Its host is no domain name. -/
  | invalidDomain
  /-- Its host has a character that can be in no host. -/
  | invalidHostCharacter
deriving DecidableEq, Repr

/-- The fault in words. -/
def Fault.message : Fault → String
  | relative => "relative URL without a base"
  | emptyHost => "empty host"
  | invalidPort => "invalid port number"
  | invalidIpv4 => "invalid IPv4 address"
  | invalidIpv6 => "invalid IPv6 address"
  | invalidDomain => "invalid international domain name"
  | invalidHostCharacter => "invalid domain character"

/-- A host. -/
inductive Host where
  /-- A domain name in ASCII. -/
  | domain (name : List Char)
  | ipv4 (address : Nat)
  /-- An IPv6 address. -/
  | ipv6 (pieces : List Nat)
  /-- The host of a scheme of which nothing is known. -/
  | opaqueName (name : List Char)
deriving DecidableEq, Repr

namespace Host

/-- The host as it is written in a URL. -/
def text : Host → List Char
  | domain name => name
  | ipv4 address => Ipv4.text address
  | ipv6 pieces => '[' :: Ipv6.text pieces ++ [']']
  | opaqueName name => name

/-- Reads the part of an address behind the opening bracket. -/
def parseBracketed (s : List Char) : Except Fault Host :=
  match s.reverse with
  | ']' :: reversed =>
    match Ipv6.parse? reversed.reverse with
    | some pieces => .ok (.ipv6 pieces)
    | none => .error .invalidIpv6
  | _ => .error .invalidIpv6

/-- The text with its percent encoding undone. -/
def percentDecoded (s : List Char) : List Char :=
  (Utf8.decodeLossy (Percent.decode (Utf8.encode (String.ofList s)))).toList

/-- Reads the host of a special scheme. -/
def parse (s : List Char) : Except Fault Host :=
  match s with
  | '[' :: rest => parseBracketed rest
  | s =>
    match Domain.toAscii (percentDecoded s) with
    | none => .error .invalidDomain
    | some [] => .error .emptyHost
    | some name =>
      if Ipv4.endsInNumber name then
        match Ipv4.parse? name with
        | some address => .ok (.ipv4 address)
        | none => .error .invalidIpv4
      else .ok (.domain name)

/-- Characters that can be in no host. -/
def isForbidden (c : Char) : Bool :=
  ['\x00', '\t', '\n', '\r', ' ', '#', '/', ':', '<', '>', '?', '@', '[', '\\', ']', '^',
    '|'].contains c

/-- Reads the host of any other scheme. -/
def parseOpaque (s : List Char) : Except Fault Host :=
  match s with
  | '[' :: rest => parseBracketed rest
  | s =>
    if s.any isForbidden then .error .invalidHostCharacter
    else .ok (.opaqueName (Percent.encode Percent.controls s))

end Host

end ChainBroker.Url
