import ChainBroker.Decimal
import ChainBroker.Json.Source

/-!
# Numbers in JSON

A numeral is read digit by digit and then given a value: a whole number if it has neither point nor
exponent and fits 64 bits, and a floating-point number otherwise.
-/

namespace ChainBroker.Json

open Utf8 (Piece)

/-- Whether the piece is a decimal digit. -/
def isDigit : Piece → Bool
  | .char c => c.isDigit
  | .broken _ => false

/-- The value of a piece that is a decimal digit. -/
def digitValue : Piece → Nat
  | .char c => c.toNat - '0'.toNat
  | .broken _ => 0

/-- A number as it is written: the digits before the point, those after it, and the exponent. -/
structure Numeral where
  /-- The digits before the point. -/
  whole : List Nat
  /-- The digits after the point, if there is one. -/
  fraction : Option (List Nat)
  /-- Whether the exponent is negative, and its digits, if there is one. -/
  exponent : Option (Bool × List Nat)

/-- A number that was read. -/
inductive Number where
  /-- A whole number of 64 bits. -/
  | integer (value : Int)
  /-- Any other number. -/
  | float (value : Float)

/-- The digits at the front of a source, and the rest. -/
def takeDigits (s : Source) : List Nat × Source :=
  ((s.takeWhile isDigit).map digitValue, s.dropWhile isDigit)

theorem length_takeDigits_le (s : Source) : (takeDigits s).2.length ≤ s.length := by
  unfold takeDigits
  induction s with
  | nil => simp
  | cons p s ih =>
    simp only [List.dropWhile_cons]
    split
    · exact Nat.le_succ_of_le ih
    · exact Nat.le_refl _

theorem length_lt_of_takeDigits {s rest : Source} {d : Nat} {ds : List Nat}
    (h : takeDigits s = (d :: ds, rest)) : rest.length < s.length := by
  have split : s.takeWhile isDigit ++ s.dropWhile isDigit = s := List.takeWhile_append_dropWhile
  have lengths := congrArg List.length split
  simp only [takeDigits, Prod.mk.injEq] at h
  have some := congrArg List.length h.1
  rw [List.length_append, h.2] at lengths
  simp only [List.length_map, List.length_cons] at some
  omega

/-- What is missing where a digit is due. -/
def digitDue : Source → Fault
  | [] => .endInValue
  | _ => .invalidNumber

/-- The exponent of a number, if one follows. -/
def exponentPart (s : Source) :
    Except Fault (Option (Bool × List Nat) × Remainder s) :=
  match s with
  | .char c :: rest =>
    if c = 'e' || c = 'E' then
      let signed : Bool × Remainder rest :=
        match rest with
        | .char '-' :: r => (true, ⟨r, by simp⟩)
        | .char '+' :: r => (false, ⟨r, by simp⟩)
        | r => (false, .whole r)
      match h : takeDigits signed.2.1 with
      | ([], r) => .error (digitDue r)
      | (digits, r) =>
        have h₁ : r.length ≤ signed.2.1.length := by
          have := length_takeDigits_le signed.2.1
          rwa [h] at this
        have h₂ := signed.2.2
        .ok (some (signed.1, digits), ⟨r, by simp only [List.length_cons]; omega⟩)
    else .ok (none, .whole (.char c :: rest))
  | s => .ok (none, .whole s)

/-- The digits after the point, if a point follows. -/
def fractionPart (s : Source) :
    Except Fault (Option (List Nat) × Remainder s) :=
  match s with
  | .char '.' :: rest =>
    match h : takeDigits rest with
    | ([], r) => .error (digitDue r)
    | (digits, r) =>
      have h₁ : r.length ≤ rest.length := by
        have := length_takeDigits_le rest
        rwa [h] at this
      .ok (some digits, ⟨r, by simp only [List.length_cons]; omega⟩)
  | s => .ok (none, .whole s)

/-- A number after its sign: no zero stands before other digits, and a point and an exponent mark
are followed by digits. -/
def numeral (s : Source) : Except Fault (Taken s.length Numeral) :=
  match h : takeDigits s with
  | ([], rest) => .error (digitDue rest)
  | (0 :: _ :: _, _) => .error .invalidNumber
  | (d :: ds, rest) =>
    have := length_lt_of_takeDigits h
    match fractionPart rest with
    | .error e => .error e
    | .ok (fraction, r₁) =>
      match exponentPart r₁.1 with
      | .error e => .error e
      | .ok (exponent, r₂) =>
        .ok ⟨⟨d :: ds, fraction, exponent⟩, r₂.1, by have := r₁.2; have := r₂.2; omega⟩

/-- Takes over digits while the number fits 64 bits; gives the number and the digits left over. -/
def takeOver (value : Nat) : List Nat → Nat × List Nat
  | [] => (value, [])
  | d :: ds =>
    if value * 10 + d < UInt64.size then takeOver (value * 10 + d) ds else (value, d :: ds)

/-- The number `significand * 10 ^ exponent`, computed in floating-point steps: one multiplication
or division by a power of ten, after divisions by `10 ^ 308` while the exponent is below that. -/
def scale (significand : Float) (exponent : Int) : Except Fault Float :=
  if exponent.natAbs ≤ 308 then
    if 0 ≤ exponent then
      let x := significand * Float.ofScientific 1 false exponent.natAbs
      if x.isInf then .error .numberOutOfRange else .ok x
    else .ok (significand / Float.ofScientific 1 false exponent.natAbs)
  else if significand == 0 then .ok significand
  else if 0 ≤ exponent then .error .numberOutOfRange
  else scale (significand / Float.ofScientific 1 false 308) (exponent + 308)
termination_by exponent.natAbs
decreasing_by omega

/-- The value of a numeral, with the sign that stood before it. Without point and exponent it is a
whole number if it fits 64 bits, a signed zero apart. -/
def Numeral.value (negative : Bool) (n : Numeral) : Except Fault Number :=
  let (whole, dropped) := takeOver 0 n.whole
  if n.fraction.isNone && n.exponent.isNone && dropped.isEmpty &&
      (!negative || (0 < whole && whole ≤ 1 <<< 63)) then
    .ok (.integer (if negative then -(whole : Int) else whole))
  else
    let fraction := n.fraction.getD []
    let (significand, left) := takeOver whole fraction
    let shift : Int := (dropped.length : Int) - ((fraction.length - left.length : Nat) : Int)
    let power : Int :=
      match n.exponent with
      | none => 0
      | some (below, digits) =>
        let size : Nat := digits.foldl (fun size d => size * 10 + d) 0
        if below then -(size : Int) else size
    match scale (Float.ofNat significand) (shift + power) with
    | .error e => .error e
    | .ok x => .ok (.float (if negative then -x else x))

/-- What was found where another type was expected. -/
def Number.found : Number → Found
  | .integer n => .integer n
  | .float x => .decimal (Decimal.mixed x)

/-- A number with its sign. -/
def number (s : Source) : Except Fault (Taken s.length Number) :=
  match s with
  | .char '-' :: rest =>
    match numeral rest with
    | .error e => .error e
    | .ok n =>
      match n.value.value true with
      | .error e => .error e
      | .ok x => .ok ((n.map fun _ => x).behind (.char '-'))
  | s =>
    match numeral s with
    | .error e => .error e
    | .ok n =>
      match n.value.value false with
      | .error e => .error e
      | .ok x => .ok (n.map fun _ => x)

end ChainBroker.Json
