/-!
# Image references

The name of a container image may carry a tag after a colon. Only a colon behind the last slash
starts a tag, since one before it belongs to the port of a registry. A pull without a tag would
fetch every tag of the image, so an image without one is pulled as `latest`; a reference by digest,
which holds an at sign, is left as it is.
-/

namespace ChainBroker

/-- An image as it is pulled: a name, and a tag unless the name is a digest. -/
structure Image where
  name : String
  /-- The tag, empty for a digest. -/
  tag : String
deriving DecidableEq, Repr

namespace Image

/-- The parts before and after the last occurrence of a character. -/
def splitAtLast? (c : Char) (s : List Char) : Option (List Char × List Char) :=
  match s.reverse.span (· ≠ c) with
  | (_, []) => none
  | (after, _ :: before) => some (before.reverse, after.reverse)

/-- The part up to and with the last slash, and the part behind it. -/
def splitPath (s : List Char) : List Char × List Char :=
  match splitAtLast? '/' s with
  | some (path, base) => (path ++ ['/'], base)
  | none => ([], s)

/-- The image that a reference denotes. -/
def ofReference (reference : String) : Image :=
  let s := reference.toList
  if '@' ∈ s then ⟨reference, ""⟩
  else
    let (path, base) := splitPath s
    match splitAtLast? ':' base with
    | some (name, tag) =>
      ⟨String.ofList (path ++ name), if tag = [] then "latest" else String.ofList tag⟩
    | none => ⟨reference, "latest"⟩

end Image

end ChainBroker
