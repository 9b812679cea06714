import ChainBroker.Url.Basic

/-!
# Reading URLs

Control characters and blanks at both ends of the text and all tabs and line breaks in it are left
out. A text of a special scheme need not have its slashes; one without a scheme is no URL, since
there is nothing that it could be relative to. Paths are read segment by segment: a single dot
stands for nothing, and two dots take the segment before them away.
-/

namespace ChainBroker.Url

/-- The text without what is left out before it is read. -/
def clean (s : List Char) : List Char :=
  let isOuter : Char → Bool := fun c => c ≤ ' '
  let trimmed := ((s.dropWhile isOuter).reverse.dropWhile isOuter).reverse
  trimmed.filter fun c => c != '\t' && c != '\n' && c != '\r'

/-- The scheme at the front of a text, in lower case, and what follows its colon. -/
def splitScheme (s : List Char) : Option (List Char × List Char) :=
  match s.span fun c => c.isAlphanum || c == '+' || c == '-' || c == '.' with
  | (c :: scheme, ':' :: rest) =>
    if c.isAlpha then some ((c :: scheme).map Char.toLower, rest) else none
  | _ => none

/-! ## Paths -/

/-- Whether a character ends a segment. -/
def isSlash (special : Bool) (c : Char) : Bool := c == '/' || (special && c == '\\')

/-- The segment with encoded dots decoded. -/
def dots (segment : List Char) : List Char :=
  match segment with
  | '%' :: '2' :: 'e' :: rest | '%' :: '2' :: 'E' :: rest => '.' :: dots rest
  | c :: rest => c :: dots rest
  | [] => []

/-- The text cut at its slashes. -/
def splitSlashes (special : Bool) (s : List Char) : List (List Char) :=
  Text.splitAt '/' (s.map fun c => if isSlash special c then '/' else c)

/-- The segments, given those that have been read, reversed. -/
def readSegments (reversed : List (List Char)) : List (List Char) → List (List Char)
  | [] => reversed.reverse
  | part :: parts =>
    let segment := Percent.encode Percent.path part
    let isLast := parts.isEmpty
    let next :=
      if dots segment = ['.', '.'] then
        if isLast then [] :: reversed.drop 1 else reversed.drop 1
      else if dots segment = ['.'] then if isLast then [] :: reversed else reversed
      else segment :: reversed
    readSegments next parts

/-- The path of a text behind a host. -/
def readPath (special : Bool) (s : List Char) : Path :=
  match s with
  | [] => .segments (if special then [[]] else [])
  | c :: rest =>
    .segments (readSegments [] (splitSlashes special (if isSlash special c then rest else s)))

/-- Reads what stands behind the host. -/
def readRest (kind : SchemeKind) (url : Path → Url) (readPath : List Char → Path) (s : List Char) :
    Url :=
  let (front, fragment) := match s.span (· ≠ '#') with
    | (front, _ :: fragment) => (front, some (Percent.encode Percent.fragment fragment))
    | (front, []) => (front, none)
  let querySet := if kind.isSpecial then Percent.specialQuery else Percent.query
  let (path, query) := match front.span (· ≠ '?') with
    | (path, _ :: query) => (path, some (Percent.encode querySet query))
    | (path, []) => (path, none)
  { url (readPath path) with query, fragment }

/-! ## Hosts and what precedes them -/

/-- Whether a character ends the part with the host. -/
def endsAuthority (special : Bool) (c : Char) : Bool := isSlash special c || c == '?' || c == '#'

/-- The text before and after its last at sign. -/
def splitCredentials (s : List Char) : Option (List Char × List Char) :=
  match s.reverse.span (· ≠ '@') with
  | (_, []) => none
  | (after, _ :: before) => some (before.reverse, after.reverse)

/-- The user name and the password of a text before an at sign. -/
def readCredentials (s : List Char) : List Char × List Char :=
  let encode := Percent.encode Percent.userinfo
  match s.span (· ≠ ':') with
  | (username, _ :: password) => (encode username, encode password)
  | (username, []) => (encode username, [])

/-- The host of a text, and what follows from the first colon that is not between brackets on. -/
def splitHost (inBrackets : Bool) : List Char → List Char × List Char
  | [] => ([], [])
  | c :: rest =>
    if c = ':' ∧ !inBrackets then ([], c :: rest)
    else
      let inBrackets := if c = '[' then true else if c = ']' then false else inBrackets
      let (host, after) := splitHost inBrackets rest
      (c :: host, after)

/-- Reads the port behind a host: digits up to the end, or up to a backslash that is returned with
what follows it. -/
def readPort (scheme : List Char) (s : List Char) : Except Fault (Option Nat × List Char) :=
  let (digits, rest) := s.span Char.isDigit
  let atEnd := match rest with
    | [] => true
    | c :: _ => c == '\\'
  match digitsValue? 10 digits with
  | some port =>
    if 65535 < port || !atEnd then .error .invalidPort
    else .ok (if digits = [] ∨ defaultPort scheme = some port then none else some port, rest)
  | none => .error .invalidPort

/-- Reads what stands behind the two slashes. -/
def readAuthority (scheme : List Char) (kind : SchemeKind) (s : List Char) : Except Fault Url := do
  let (authority, rest) := s.span fun c => !endsAuthority kind.isSpecial c
  let (credentials, hostAndPort) := match splitCredentials authority with
    | some (credentials, hostAndPort) => (some credentials, hostAndPort)
    | none => (none, authority)
  if credentials = some [] ∧ hostAndPort = [] ∧ rest ≠ [] then throw .emptyHost
  let (username, password) := readCredentials (credentials.getD [])
  let (hostText, afterHost) := splitHost false hostAndPort
  if hostText = [] ∧ kind.isSpecial then throw .emptyHost
  let host ← if kind.isSpecial then Host.parse hostText else Host.parseOpaque hostText
  let (port, afterPort) ← match afterHost with
    | [] => pure (none, [])
    | _ :: port =>
      if hostText = [] then throw .emptyHost
      readPort scheme port
  if hostText = [] ∧ (username ≠ [] ∨ password ≠ []) then throw .emptyHost
  return readRest kind (fun path => { scheme, username, password, host := some host, port, path })
    (readPath kind.isSpecial) (afterPort ++ rest)

/-! ## The whole text -/

/-- Whether the text names a drive, which is no host. -/
def isDrive (s : List Char) : Bool :=
  match s with
  | [letter, mark] => letter.isAlpha && (mark == ':' || mark == '|')
  | _ => false

/-- Reads what stands behind the scheme of files. -/
def readFile (scheme : List Char) (s : List Char) : Except Fault Url := do
  let url (host : Option Host) (path : Path) : Url := { scheme, host, path }
  match s with
  | a :: b :: rest =>
    if isSlash true a && isSlash true b then
      let (hostText, path) := rest.span fun c => !endsAuthority true c
      if hostText = [] then return readRest .file (url (some (.domain []))) (readPath true) rest
      else if isDrive hostText then
        return readRest .file (url (some (.domain []))) (readPath true) rest
      else
        let host ← Host.parse hostText
        let host := if host = .domain "localhost".toList then .domain [] else host
        return readRest .file (url (some host)) (readPath true) path
    else return readRest .file (url (some (.domain []))) (readPath true) s
  | s => return readRest .file (url (some (.domain []))) (readPath true) s

/-- The URL that a text denotes. -/
def parse (s : String) : Except Fault Url :=
  match splitScheme (clean s.toList) with
  | none => .error .relative
  | some (scheme, rest) =>
    match schemeKind scheme with
    | .web => readAuthority scheme .web (rest.dropWhile (isSlash true))
    | .file => readFile scheme rest
    | .other =>
      match rest with
      | '/' :: '/' :: rest => readAuthority scheme .other rest
      | '/' :: _ => .ok (readRest .other (fun path => { scheme, path }) (readPath false) rest)
      | _ =>
        .ok (readRest .other (fun path => { scheme, path })
          (fun s => .undivided (Percent.encode Percent.controls s)) rest)

/-- What a request names for a path that is put behind a host as it is. -/
def targetOf (path : String) : String :=
  (readRest .other (fun path => { scheme := [], path }) (readPath false) (clean path.toList)).target

end ChainBroker.Url
