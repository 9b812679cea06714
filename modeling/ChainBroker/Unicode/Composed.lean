import ChainBroker.Unicode.CombiningClass
import ChainBroker.Unicode.CompositionPairs

/-!
# The composed form of texts

Texts that look the same may be written with composed characters or with marks of their own, and the
marks of one character in several orders. The composed form is one of these spellings: every
character is taken apart (`decompose`), marks are put in the order of their classes
(`inClassOrder`), and then each mark that is not kept off by one of its own class is joined to its
character again (`compose`).
-/

namespace ChainBroker.Unicode

/-- The combining class of a character; zero for one that starts anew. -/
def combiningClass (c : Char) : Nat :=
  match combiningRuns.find? c.toNat with
  | some run => run.value
  | none => 0

/-! ## Syllables of Hangul -/

namespace Hangul

/-- The first syllable. -/
def syllables : Nat := 0xAC00

/-- The first leading consonant. -/
def leading : Nat := 0x1100

/-- The first vowel. -/
def vowels : Nat := 0x1161

/-- One before the first trailing consonant. -/
def trailing : Nat := 0x11A7

/-- The number of leading consonants. -/
def leadingCount : Nat := 19

/-- The number of vowels. -/
def vowelCount : Nat := 21

/-- The number of trailing consonants, with none as the first one. -/
def trailingCount : Nat := 28

/-- The letters of a syllable. -/
def letters? (code : Nat) : Option (List Nat) :=
  if syllables ≤ code ∧ code < syllables + leadingCount * vowelCount * trailingCount then
    let index := code - syllables
    let t := index % trailingCount
    some <|
      [leading + index / (vowelCount * trailingCount),
        vowels + index % (vowelCount * trailingCount) / trailingCount] ++
        if t = 0 then [] else [trailing + t]
  else none

/-- The syllable that a letter makes with what precedes it. -/
def join? (a b : Nat) : Option Nat :=
  if leading ≤ a ∧ a < leading + leadingCount ∧ vowels ≤ b ∧ b < vowels + vowelCount then
    some (syllables + ((a - leading) * vowelCount + (b - vowels)) * trailingCount)
  else if syllables ≤ a ∧ a < syllables + leadingCount * vowelCount * trailingCount ∧
      (a - syllables) % trailingCount = 0 ∧ trailing < b ∧ b < trailing + trailingCount then
    some (a + (b - trailing))
  else none

end Hangul

/-! ## The three steps -/

/-- The parts of a character, taken apart so many times. -/
def parts : (times : Nat) → Nat → List Nat
  | 0, code => [code]
  | times + 1, code =>
    match Hangul.letters? code with
    | some letters => letters
    | none =>
      match compositionPairs.find? code with
      | some codes => codes.flatMap (parts times)
      | none => [code]

/-- The characters of the text, taken apart; none has more than four parts. -/
def decompose (s : List Char) : List Char :=
  s.flatMap fun c => (parts 4 c.toNat).map Char.ofNat

/-- Puts a mark behind the marks whose classes are not greater; the text is reversed. -/
def insertMark (c : Char) : List Char → List Char
  | [] => [c]
  | d :: before =>
    if combiningClass c < combiningClass d then d :: insertMark c before else c :: d :: before

/-- The text with the marks of each character in the order of their classes. -/
def inClassOrder (s : List Char) : List Char :=
  (s.foldl (fun reversed c => if combiningClass c = 0 then c :: reversed else insertMark c reversed)
    []).reverse

/-- The character that two characters make. -/
def join? (a b : Char) : Option Char :=
  match Hangul.join? a.toNat b.toNat with
  | some code => some (Char.ofNat code)
  | none =>
    (compositionPairs.toList.find? fun entry => entry.2 == [a.toNat, b.toNat]).map fun entry =>
      Char.ofNat entry.1

/-- A text on its way to the composed form. -/
structure Composing where
  /-- What is finished, reversed. -/
  before : List Char
  /-- The character that further marks may join. -/
  base : Option Char
  /-- The marks behind it that have not joined, reversed. -/
  marks : List Char

/-- The text so far, reversed. -/
def Composing.reversed (t : Composing) : List Char := t.marks ++ t.base.toList ++ t.before

/-- The next character, which joins the base if it can and no mark keeps it off. -/
def Composing.add (t : Composing) (c : Char) : Composing :=
  let joined : Option Char := do
    let base ← t.base
    let free := match t.marks with
      | [] => true
      | mark :: _ => combiningClass mark < combiningClass c
    if free then join? base c else none
  match joined with
  | some base => { t with base := some base }
  | none =>
    if combiningClass c = 0 then { before := t.reversed, base := some c, marks := [] }
    else { t with marks := c :: t.marks }

/-- The text with marks joined to their characters. -/
def compose (s : List Char) : List Char :=
  (s.foldl Composing.add ⟨[], none, []⟩).reversed.reverse

/-- The composed form of a text. -/
def composed (s : List Char) : List Char := compose (inClassOrder (decompose s))

end ChainBroker.Unicode
