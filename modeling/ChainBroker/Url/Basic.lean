import ChainBroker.Url.Host

/-!
# URLs

A URL has a scheme and, behind it, a host with a path, or a path alone. The schemes of the web and
the one of files are special: their hosts are domain names, their paths are never empty, and
backslashes count as slashes. `Url.text` writes a URL; the port that a scheme implies is never part
of it.
-/

namespace ChainBroker

/-- What stands behind the host of a URL. -/
inductive Url.Path where
  /-- A text that is not divided. -/
  | undivided (text : List Char)
  /-- Segments, each of them behind a slash. -/
  | segments (segments : List (List Char))
deriving DecidableEq, Repr

/-- A URL. -/
structure Url where
  /-- The scheme in lower case. -/
  scheme : List Char
  /-- The user name. -/
  username : List Char := []
  password : List Char := []
  host : Option Url.Host := none
  /-- The port, unless the scheme implies it. -/
  port : Option Nat := none
  path : Url.Path
  /-- What stands between the question mark and the fragment. -/
  query : Option (List Char) := none
  /-- What stands behind the number sign. -/
  fragment : Option (List Char) := none
deriving DecidableEq, Repr

namespace Url

/-- How texts of a scheme are read. -/
inductive SchemeKind where
  /-- A scheme of the web. -/
  | web
  /-- The scheme of files. -/
  | file
  /-- Any other scheme. -/
  | other
deriving DecidableEq, Repr

/-- The special schemes of the web with the ports that they imply. -/
def webSchemes : List (String × Nat) :=
  [("http", 80), ("https", 443), ("ws", 80), ("wss", 443), ("ftp", 21)]

/-- The kind of a scheme. -/
def schemeKind (scheme : List Char) : SchemeKind :=
  let name := String.ofList scheme
  if (webSchemes.lookup name).isSome then .web else if name = "file" then .file else .other

/-- The port that a scheme implies. -/
def defaultPort (scheme : List Char) : Option Nat := webSchemes.lookup (String.ofList scheme)

/-- Whether backslashes count as slashes. -/
def SchemeKind.isSpecial (kind : SchemeKind) : Bool := kind != .other

/-- The path as it is written. -/
def Path.text : Path → List Char
  | undivided s => s
  | segments l => l.flatMap fun segment => '/' :: segment

/-- User name and password as they are written. -/
def credentialsText (u : Url) : List Char :=
  if u.username = [] ∧ u.password = [] then []
  else u.username ++ (if u.password = [] then [] else ':' :: u.password) ++ ['@']

/-- Host and port as they are written, behind the credentials. -/
def authorityText (u : Url) : List Char :=
  match u.host with
  | none => []
  | some host =>
    let port := match u.port with
      | some port => ':' :: Nat.toDigits 10 port
      | none => []
    ['/', '/'] ++ u.credentialsText ++ host.text ++ port

/-- A mark and what stands behind it, if that is there. -/
def behind (mark : Char) : Option (List Char) → List Char
  | some s => mark :: s
  | none => []

/-- The URL as it is written. -/
def text (u : Url) : String :=
  String.ofList <|
    u.scheme ++ [':'] ++ u.authorityText ++ u.path.text ++ behind '?' u.query ++
      behind '#' u.fragment

/-- The URL without user name and password. -/
def withoutCredentials (u : Url) : Url := { u with username := [], password := [] }

/-- What a request for the URL names: path and query. -/
def target (u : Url) : String := String.ofList (u.path.text ++ behind '?' u.query)

end Url

end ChainBroker
