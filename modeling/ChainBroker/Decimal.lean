/-!
# Decimal text of binary fractions

A 64-bit floating-point number is written with the fewest decimal digits that read back to it; of
two such decimals the nearer one is taken, and of two equally near ones the even one. The digits are
selected by exact arithmetic on the number `m * 2 ^ q` behind the bits: for one digit, two digits
and so on, the two neighbours of the number on that decimal grid are tried against the interval of
the reals that round to it.

* `Decimal.positional` writes every number with its digits in place.
* `Decimal.mixed` does so when the leading digit stands between the fifth place after the point and
  the sixteenth place before it, and writes an exponent with its sign otherwise.
* `Decimal.nearest` goes the other way, from a decimal to a number.
-/

namespace ChainBroker

/-- The number `digits * 10 ^ exponent`. -/
structure Decimal where
  /-- The digits, as one number. -/
  digits : Nat
  /-- The power of ten of the last digit. -/
  exponent : Int
deriving DecidableEq, Repr

namespace Decimal

/-- The number `mantissa * 2 ^ exponent` behind the bits of a finite floating-point number. -/
structure Binary where
  mantissa : Nat
  /-- The power of two. -/
  exponent : Int
  /-- Whether the number below is half as far away as the number above. -/
  narrowBelow : Bool

/-- What the bits of a finite non-negative number stand for. -/
def Binary.ofBits (bits : UInt64) : Binary :=
  let e := ((bits >>> 52) &&& 0x7FF).toNat
  let f := (bits &&& 0xFFFFFFFFFFFFF).toNat
  if e = 0 then ⟨f, -1074, false⟩ else ⟨1 <<< 52 + f, (e : Int) - 1075, f == 0 && 1 < e⟩

/-- Compares `a * 10 ^ i` with `n * 2 ^ j`. -/
def compareScaled (a : Nat) (i : Int) (n : Nat) (j : Int) : Ordering :=
  compare (a * Nat.pow 10 i.toNat <<< (-j).toNat) (n * Nat.pow 10 (-i).toNat <<< j.toNat)

/-- Whether the decimal lies among the reals that round to the binary number. -/
def Binary.readsBack (x : Binary) (d : Decimal) : Bool :=
  let low := if x.narrowBelow then 4 * x.mantissa - 1 else 4 * x.mantissa - 2
  let high := 4 * x.mantissa + 2
  let closed := x.mantissa % 2 == 0
  let fromLow := compareScaled d.digits d.exponent low (x.exponent - 2)
  let fromHigh := compareScaled d.digits d.exponent high (x.exponent - 2)
  (fromLow == .gt || (closed && fromLow == .eq)) && (fromHigh == .lt || (closed && fromHigh == .eq))

/-- The least power of ten above the binary number, which is not zero. -/
def Binary.scale (x : Binary) : Int :=
  let whole := x.mantissa <<< x.exponent.toNat >>> (-x.exponent).toNat
  if 0 < whole then (Nat.toDigits 10 whole).length
  else
    let zeros := (List.range 330).find? fun j =>
      1 <<< (-x.exponent).toNat ≤ x.mantissa * Nat.pow 10 (j + 1)
    Int.negOfNat (zeros.getD 330)

/-- The better one of the two neighbours on the grid of so many digits, if one reads back. -/
def Binary.onGrid? (x : Binary) (scale : Int) (count : Nat) : Option Decimal :=
  let exponent := scale - count
  let lower := x.mantissa * Nat.pow 10 (-exponent).toNat <<< x.exponent.toNat /
    (Nat.pow 10 exponent.toNat <<< (-x.exponent).toNat)
  let below : Decimal := ⟨lower, exponent⟩
  let above : Decimal := ⟨lower + 1, exponent⟩
  match x.readsBack below, x.readsBack above with
  | true, false => some below
  | false, true => some above
  | false, false => none
  | true, true =>
    match compareScaled (2 * lower + 1) exponent (2 * x.mantissa) x.exponent with
    | .gt => some below
    | .lt => some above
    | .eq => some (if lower % 2 = 0 then below else above)

/-- The decimal without the zeros at its end. -/
def stripZeros (digits : Nat) (exponent : Int) : Decimal :=
  if h : 0 < digits ∧ digits % 10 = 0 then stripZeros (digits / 10) (exponent + 1)
  else ⟨digits, exponent⟩
termination_by digits
decreasing_by omega

/-- The decimal with the fewest digits that reads back to the bits of a finite non-negative number.
-/
def shortest (bits : UInt64) : Decimal :=
  let x := Binary.ofBits bits
  if x.mantissa = 0 then ⟨0, 0⟩
  else
    let scale := x.scale
    match (List.range 17).findSome? fun n => x.onGrid? scale (n + 1) with
    | some d => stripZeros d.digits d.exponent
    | none => ⟨x.mantissa * Nat.pow 5 (-x.exponent).toNat <<< x.exponent.toNat, min 0 x.exponent⟩

/-- The digits in place, with at least one digit on each side of the point. -/
def place (d : Decimal) : String :=
  let digits := Nat.toDigits 10 d.digits
  if 0 ≤ d.exponent then
    String.ofList (digits ++ List.replicate d.exponent.toNat '0') ++ ".0"
  else
    let after := d.exponent.natAbs
    let padded := List.replicate (after + 1 - digits.length) '0' ++ digits
    let before := padded.length - after
    String.ofList (padded.take before) ++ "." ++ String.ofList (padded.drop before)

/-- One digit before the point, and the exponent with its sign. -/
def scientific (d : Decimal) : String :=
  let digits := Nat.toDigits 10 d.digits
  let lead := d.exponent + digits.length - 1
  let fraction := if digits.length = 1 then [] else '.' :: digits.drop 1
  let sign := if lead < 0 then "-" else "+"
  String.ofList (digits.take 1 ++ fraction) ++ "e" ++ sign ++ toString lead.natAbs

/-- The sign of a number that has one. -/
def signOf (x : Float) : String := if x.toBits >>> 63 == 1 then "-" else ""

/-- The bits without the sign. -/
def magnitude (x : Float) : UInt64 := x.toBits &&& 0x7FFFFFFFFFFFFFFF

/-- Every digit in place; `inf` and `NaN` for what has no digits. -/
def positional (x : Float) : String :=
  if x.isNaN then "NaN"
  else if x.isInf then signOf x ++ "inf"
  else signOf x ++ (shortest (magnitude x)).place

/-- The digits in place when the leading one stands neither too far right nor too far left of the
point, and with an exponent otherwise. -/
def mixed (x : Float) : String :=
  let d := shortest (magnitude x)
  let lead := d.exponent + (Nat.toDigits 10 d.digits).length - 1
  signOf x ++ (if -5 ≤ lead && lead < 16 then d.place else d.scientific)

/-! ## The nearest floating-point number -/

/-- The quotient rounded to the nearest whole number; of two equally near ones the even one. -/
def roundedQuotient (a b : Nat) : Nat :=
  let q := a / b
  let r := a % b
  if b < 2 * r ∨ (2 * r = b ∧ q % 2 = 1) then q + 1 else q

/-- The bits of infinity. -/
def infinityBits : Nat := 0x7FF0000000000000

/-- The bits of the floating-point number nearest to a decimal, infinity if that is too large. The
mantissa is the quotient of the decimal by the power of two that leaves it 53 digits, or by the
least one there is. -/
def nearestBits (d : Decimal) : Nat :=
  let lead := d.exponent + (Nat.toDigits 10 d.digits).length
  if d.digits = 0 ∨ lead < -330 then 0
  else if 330 < lead then infinityBits
  else
    let a := d.digits * Nat.pow 10 d.exponent.toNat
    let b := Nat.pow 10 (-d.exponent).toNat
    let quotient (k : Int) : Nat × Nat := (a <<< (-k).toNat, b <<< k.toNat)
    let low : Int := (a.log2 : Int) - b.log2 - 53
    let isShort := (quotient low).1 / (quotient low).2 < 1 <<< 53
    let power : Int := max (-1074) (if isShort then low else low + 1)
    let mantissa := roundedQuotient (quotient power).1 (quotient power).2
    min infinityBits ((power + 1074).toNat <<< 52 + mantissa)

/-- The floating-point number nearest to a decimal. -/
def nearest (d : Decimal) : Float := Float.ofBits (UInt64.ofNat d.nearestBits)

end Decimal

end ChainBroker
