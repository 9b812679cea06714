import ChainBroker.Unicode.Composed
import ChainBroker.Unicode.Direction
import ChainBroker.Unicode.DomainMapping
import ChainBroker.Unicode.Joining
import ChainBroker.Unicode.Mark
import ChainBroker.Url.Punycode

/-!
# Domain names in ASCII

A domain name is brought into its composed form, in lower case and with compatible characters
replaced, and cut into labels at its points. Labels that are not ASCII are written in Punycode after
`xn--`, and labels that start so are read back and checked like the others: a label starts with no
mark, joiners stand only where they make a difference, and in a name with a label that is written
from right to left the directions within each label fit. Neither the lengths of labels nor their
hyphens matter.
-/

namespace ChainBroker.Url

open Unicode

namespace Domain

/-! ## Mapping -/

/-- What stands for a character; nothing where it is not allowed. The characters between those of a
paired run are kept as they are. -/
def mapChar (c : Char) : Option (List Char) :=
  let code := c.toNat
  if domainValid.contains code then some [c]
  else if domainIgnored.contains code then some []
  else if domainPaired.contains code then some [Char.ofNat (code + 1)]
  else match domainShifted.find? code with
    | some run => some [Char.ofNat (run.value + (code - run.first))]
    | none => (domainExpanded.find? code).map (·.map Char.ofNat)

/-- Whether the character is ASCII. -/
def isAscii (c : Char) : Bool := c.toNat < 0x80

/-- The name with every character replaced by what stands for it, in its composed form. -/
def normalize (name : List Char) : Option (List Char) := do
  let mapped := (← name.mapM mapChar).flatten
  return if mapped.all isAscii then mapped else composed mapped

/-- ASCII characters that can be in no domain name. -/
def isForbidden (c : Char) : Bool :=
  c ≤ ' ' || c == '\x7f' ||
    ['#', '%', '/', ':', '<', '>', '?', '@', '[', '\\', ']', '^', '|'].contains c

/-! ## Joiners -/

/-- Whether letters join across what stands between them: behind the place are letters that join to
what follows, and before it, reversed, ones that join to what precedes, with transparent ones
passed over. -/
def joins (before after : List Char) : Bool :=
  let passOver (s : List Char) := s.dropWhile fun c => joiningTransparent.contains c.toNat
  match passOver before, passOver after with
  | a :: _, b :: _ =>
    (joiningDual.contains a.toNat || joiningLeft.contains a.toNat) &&
      (joiningDual.contains b.toNat || joiningRight.contains b.toNat)
  | _, _ => false

/-- The combining class of the signs that take the vowel from a consonant. -/
def virama : Nat := 9

/-- Whether every joiner of the label stands behind a virama, or separates letters that join; what
precedes is reversed. -/
def joinersFit (before : List Char) : List Char → Bool
  | [] => true
  | c :: after =>
    let behindVirama := match before with
      | a :: _ => combiningClass a == virama
      | [] => false
    let fits :=
      if c = '\u200d' then behindVirama
      else if c = '\u200c' then behindVirama || joins before after
      else true
    fits && joinersFit (c :: before) after

/-! ## Directions -/

/-- The bidirectional classes that matter in domain names. -/
inductive Direction where
  /-- Written from left to right. -/
  | left
  /-- Written from right to left. -/
  | right
  /-- An Arabic digit. -/
  | arabicNumber
  /-- A European digit. -/
  | europeanNumber
  | mark
  /-- Anything else. -/
  | neutral
deriving DecidableEq, Repr

/-- The direction of a character. -/
def direction (c : Char) : Direction :=
  let code := c.toNat
  if bidiRight.contains code || bidiArabic.contains code then .right
  else if bidiArabicNumber.contains code then .arabicNumber
  else if bidiEuropeanNumber.contains code then .europeanNumber
  else if bidiMark.contains code then .mark
  else if bidiEuropeanSeparator.contains code || bidiCommonSeparator.contains code ||
      bidiTerminator.contains code || bidiNeutral.contains code || bidiBoundary.contains code then
    .neutral
  else .left

/-- Whether the name has a part that is written from right to left. -/
def isBidirectional (name : List Char) : Bool :=
  name.any fun c => direction c == .right || direction c == .arabicNumber

/-- Whether the directions within a label fit. -/
def directionsFit (label : List Char) : Bool :=
  let directions := label.map direction
  let last := (directions.reverse.dropWhile (· == .mark)).head?
  match directions with
  | [] => true
  | .right :: _ =>
    !directions.contains .left &&
      (last == some .right || last == some .europeanNumber || last == some .arabicNumber) &&
      !(directions.contains .europeanNumber && directions.contains .arabicNumber)
  | .left :: _ =>
    !(directions.contains .right || directions.contains .arabicNumber) &&
      (last == some .left || last == some .europeanNumber)
  | _ => false

/-! ## Labels -/

/-- A label in both of its forms. -/
structure Label where
  unicode : List Char
  ascii : List Char

/-- What labels in Punycode start with. -/
def punycodeMark : List Char := ['x', 'n', '-', '-']

/-- The longest label that is written in Punycode. -/
def maxEncodedLength : Nat := 1000

/-- The label of a part of a name. -/
def label? (part : List Char) : Option Label :=
  if punycodeMark.isPrefixOf part then do
    let decoded ← Punycode.decode (part.drop punycodeMark.length)
    let valid := decoded.all fun c => domainValid.contains c.toNat
    if !valid || decoded.all isAscii || composed decoded != decoded then none
    else some ⟨decoded, part⟩
  else if part.all isAscii then some ⟨part, part⟩
  else if maxEncodedLength < part.length then none
  else some ⟨part, punycodeMark ++ Punycode.encode part⟩

/-- Whether a label may stand in a name. -/
def labelFits (bidirectional : Bool) (label : List Char) : Bool :=
  let startFits := match label with
    | c :: _ => !markRanges.contains c.toNat
    | [] => true
  startFits && joinersFit [] label && (!bidirectional || directionsFit label)

/-- The name in ASCII. -/
def toAscii (name : List Char) : Option (List Char) := do
  let normalized ← normalize name
  if normalized.any isForbidden then none
  else
    let labels ← (Text.splitAt '.' normalized).mapM label?
    let bidirectional := labels.any fun label => isBidirectional label.unicode
    if labels.all fun label => labelFits bidirectional label.unicode then
      some (Text.joinWith '.' (labels.map Label.ascii))
    else none

end Domain

end ChainBroker.Url
