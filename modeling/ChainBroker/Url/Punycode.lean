/-!
# Punycode

A label of a domain name that is not ASCII is written with letters, digits and hyphens: first its
ASCII characters, then, after a hyphen, the others as a list of differences in a number system with
digits of varying weight. Differences are counted in steps of a walk through all code points and all
places at which each of them could stand.

No loop needs fuel. Writing a number divides it, adapting divides the difference by 35, encoding
runs through the code points that occur, and decoding consumes its input.
-/

namespace ChainBroker.Punycode

/-- The digit of a value below 36: letters first. -/
def digit (d : Nat) : Char :=
  if d < 26 then Char.ofNat (0x61 + d) else Char.ofNat (0x30 + (d - 26))

/-- The value of a digit. -/
def digitValue? (c : Char) : Option Nat :=
  if 'a' ≤ c && c ≤ 'z' then some (c.toNat - 0x61)
  else if 'A' ≤ c && c ≤ 'Z' then some (c.toNat - 0x41)
  else if '0' ≤ c && c ≤ '9' then some (c.toNat - 0x30 + 26)
  else none

/-- The least value at a place that is not the last digit of its number. -/
def threshold (place bias : Nat) : Nat :=
  if place ≤ bias then 1 else if bias + 26 ≤ place then 26 else place - bias

theorem threshold_pos (place bias : Nat) : 0 < threshold place bias := by
  unfold threshold
  split
  · omega
  · split <;> omega

/-- How often a difference can be divided by 35 before it is small, as a bias, and what is left. -/
def shrink (difference bias : Nat) : Nat × Nat :=
  if 455 < difference then shrink (difference / 35) (bias + 36) else (difference, bias)
termination_by difference
decreasing_by omega

/-- The bias after a difference has been written, by the number of characters then present. -/
def adapt (difference count : Nat) (first : Bool) : Nat :=
  let scaled := if first then difference / 700 else difference / 2
  let (left, bias) := shrink (scaled + scaled / count) 0
  bias + 36 * left / (left + 38)

/-! ## Encoding -/

/-- The digits of a number from a place on. -/
def writeNumber (bias place n : Nat) : List Char :=
  let t := threshold place bias
  if n < t then [digit n]
  else digit (t + (n - t) % (36 - t)) :: writeNumber bias (place + 36) ((n - t) / (36 - t))
termination_by n
decreasing_by
  have := threshold_pos place bias
  have : (n - threshold place bias) / (36 - threshold place bias) ≤ n - threshold place bias :=
    Nat.div_le_self _ _
  omega

/-- The state of an encoding. -/
structure Encoding where
  /-- What has been written. -/
  written : List Char
  /-- The steps since the last character that was written. -/
  steps : Nat
  bias : Nat
  /-- The number of characters that have been written. -/
  count : Nat

/-- Passes a character in search of those with one code point, of which it may be one. -/
def Encoding.pass (basic code : Nat) (e : Encoding) (c : Char) : Encoding :=
  if c.toNat < code then { e with steps := e.steps + 1 }
  else if c.toNat = code then
    { written := e.written ++ writeNumber e.bias 36 e.steps
      steps := 0
      bias := adapt e.steps (e.count + 1) (e.count = basic)
      count := e.count + 1 }
  else e

/-- Writes the characters with the given code points, which ascend from `code` on. -/
def writeCodes (label : List Char) (basic code : Nat) (e : Encoding) : List Nat → Encoding
  | [] => e
  | next :: codes =>
    let e := { e with steps := e.steps + (next - code) * (e.count + 1) }
    let e := label.foldl (Encoding.pass basic next) e
    writeCodes label basic (next + 1) { e with steps := e.steps + 1 } codes

/-- The encoded form of a label. -/
def encode (label : List Char) : List Char :=
  let basic := label.filter fun c => c.toNat < 0x80
  let codes := (((label.filter fun c => 0x80 ≤ c.toNat).map Char.toNat).eraseDups).mergeSort
  let start := if basic = [] then [] else basic ++ ['-']
  (writeCodes label basic.length 0x80 ⟨start, 0, 72, basic.length⟩ codes).written

/-! ## Decoding -/

/-- Reads a number: what it adds to `sum`, digit by digit with growing weight. -/
def readNumber (bias : Nat) : List Char → (place weight sum : Nat) → Option (Nat × List Char)
  | [], _, _, _ => none
  | c :: rest, place, weight, sum =>
    match digitValue? c with
    | none => none
    | some d =>
      let t := threshold place bias
      if d < t then some (sum + d * weight, rest)
      else readNumber bias rest (place + 36) (weight * (36 - t)) (sum + d * weight)

theorem length_lt_of_readNumber {bias : Nat} :
    ∀ {s : List Char} {place weight sum n : Nat} {rest : List Char},
      readNumber bias s place weight sum = some (n, rest) → rest.length < s.length
  | [], _, _, _, _, _, h => by simp [readNumber] at h
  | c :: s, place, weight, sum, n, rest, h => by
    rw [readNumber] at h
    split at h
    · simp at h
    · simp only at h
      split at h
      · simp only [Option.some.injEq, Prod.mk.injEq] at h
        simp [← h.2]
      · have := length_lt_of_readNumber h
        simp only [List.length_cons]
        omega

/-- Puts characters in, one for each number of the input; `steps` counts the walk. -/
def readCodes (bias code steps : Nat) (label : List Char) : List Char → Option (List Char)
  | [] => some label
  | c :: rest =>
    match h : readNumber bias (c :: rest) 36 1 steps with
    | none => none
    | some (steps', rest') =>
      let count := label.length + 1
      let code' := code + steps' / count
      let place := steps' % count
      if code'.isValidChar then
        readCodes (adapt (steps' - steps) count (steps = 0)) code' (place + 1)
          (label.insertIdx place (Char.ofNat code')) rest'
      else none
termination_by s => s.length
decreasing_by exact length_lt_of_readNumber h

/-- The ASCII characters of an encoded label, and the numbers behind its last hyphen. -/
def splitEncoded (s : List Char) : List Char × List Char :=
  match s.reverse.span (· ≠ '-') with
  | (numbers, _ :: basic) => (basic.reverse, numbers.reverse)
  | (numbers, []) => ([], numbers.reverse)

/-- The label of an encoded form. -/
def decode (s : List Char) : Option (List Char) :=
  let (basic, numbers) := splitEncoded s
  if basic.all fun c => c.toNat < 0x80 then readCodes 72 0x80 0 basic numbers else none

end ChainBroker.Punycode
