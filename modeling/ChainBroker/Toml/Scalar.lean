import ChainBroker.Text.Hex
import ChainBroker.Text.Split
import ChainBroker.Toml.Value

/-!
# Scalars of TOML

Truth values, numbers and points in time are single words. A word has at most one of these meanings.
In numbers, underscores may stand between digits; a decimal number has no zero before other digits
of its whole part. A date has to be one of the calendar, and the clock may show a leap second.
-/

namespace ChainBroker.Toml

/-! ## Numbers -/

/-- The digits of a word in which underscores stand only between digits. -/
def digits? (isDigit : Char → Bool) (word : List Char) : Option (List Char) :=
  let groups := Text.splitAt '_' word
  if groups.all fun group => !group.isEmpty && group.all isDigit then some groups.flatten else none

/-- The number that digits make in a base. -/
def valueOf (base : Nat) (digits : List Char) : Nat :=
  digits.foldl (fun n c => n * base + (Text.hexValue? c).getD 0) 0

/-- The digits of the whole part of a decimal number. -/
def wholeDigits? (word : List Char) : Option (List Char) :=
  match digits? Char.isDigit word with
  | some ('0' :: _ :: _) => none
  | digits => digits

/-- A sign and what follows it. -/
def signed : List Char → Bool × List Char
  | '-' :: word => (true, word)
  | '+' :: word => (false, word)
  | word => (false, word)

/-- The power of ten after an exponent mark. -/
def exponent? (word : List Char) : Option Int :=
  let (negative, word) := signed word
  (digits? Char.isDigit word).map fun digits =>
    if negative then -(valueOf 10 digits : Int) else valueOf 10 digits

/-- A decimal number without its sign: a whole part, and then a fraction or an exponent or both. -/
def size? (word : List Char) : Option Decimal := do
  let isMark (c : Char) : Bool := c == 'e' || c == 'E'
  let mantissa := word.takeWhile (!isMark ·)
  let exponent ← match word.dropWhile (!isMark ·) with
    | [] => some 0
    | _ :: word => exponent? word
  let whole ← wholeDigits? (mantissa.takeWhile (· != '.'))
  let fraction ← match mantissa.dropWhile (· != '.') with
    | [] => some []
    | _ :: word => digits? Char.isDigit word
  return { digits := valueOf 10 (whole ++ fraction), exponent := exponent - fraction.length }

/-- The base that a prefix announces, and what follows the prefix. -/
def based? : List Char → Option (Nat × List Char)
  | '0' :: 'x' :: word => some (16, word)
  | '0' :: 'o' :: word => some (8, word)
  | '0' :: 'b' :: word => some (2, word)
  | _ => none

/-- Whether the character is a digit of the base. -/
def isDigitOf (base : Nat) (c : Char) : Bool :=
  match Text.hexValue? c with
  | some d => d < base
  | none => false

/-- The number that a word denotes. -/
def number? (word : List Char) : Option Toml :=
  match based? word with
  | some (base, word) => (digits? (isDigitOf base) word).map fun ds => .integer (valueOf base ds)
  | none =>
    let (negative, word) := signed word
    if word = ['i', 'n', 'f'] then some (.decimal (.infinity negative))
    else if word = ['n', 'a', 'n'] then some (.decimal .notANumber)
    else match wholeDigits? word with
      | some digits =>
        let n : Int := valueOf 10 digits
        some (.integer (if negative then -n else n))
      | none => (size? word).map fun size => .decimal (.finite negative size)

/-! ## Points in time -/

/-- The number of a given count of digits, and what follows them. -/
def fixedDigits : (count value : Nat) → List Char → Option (Nat × List Char)
  | 0, value, word => some (value, word)
  | count + 1, value, c :: word =>
    if c.isDigit then fixedDigits count (value * 10 + (c.toNat - '0'.toNat)) word else none
  | _ + 1, _, [] => none

/-- What follows a character that has to be there. -/
def after (c : Char) : List Char → Option (List Char)
  | d :: word => if d = c then some word else none
  | [] => none

/-- The number of days of a month. -/
def daysIn (year month : Nat) : Nat :=
  if month = 2 then if year % 4 = 0 ∧ (year % 100 ≠ 0 ∨ year % 400 = 0) then 29 else 28
  else if month = 4 ∨ month = 6 ∨ month = 9 ∨ month = 11 then 30
  else 31

/-- What follows a date. -/
def date? (word : List Char) : Option (List Char) := do
  let (year, word) ← fixedDigits 4 0 word
  let (month, word) ← fixedDigits 2 0 (← after '-' word)
  let (day, word) ← fixedDigits 2 0 (← after '-' word)
  if 1 ≤ month ∧ month ≤ 12 ∧ 1 ≤ day ∧ day ≤ daysIn year month then some word else none

/-- What follows the fraction of a second, if there is one. -/
def fraction? : List Char → Option (List Char)
  | '.' :: c :: word => if c.isDigit then some (word.dropWhile Char.isDigit) else none
  | word => some word

/-- What follows hours and minutes. -/
def minutes? (word : List Char) : Option (List Char) := do
  let (hour, word) ← fixedDigits 2 0 word
  let (minute, word) ← fixedDigits 2 0 (← after ':' word)
  if hour ≤ 23 ∧ minute ≤ 59 then some word else none

/-- What follows a time of day, in which the seconds may be left out. -/
def time? (word : List Char) : Option (List Char) := do
  match ← minutes? word with
  | ':' :: word =>
    let (second, word) ← fixedDigits 2 0 word
    if second ≤ 60 then fraction? word else none
  | word => some word

/-- Whether the word is empty or an offset from universal time. -/
def isOffset : List Char → Bool
  | [] | ['Z'] | ['z'] => true
  | '+' :: word | '-' :: word => minutes? word == some []
  | _ => false

/-- Whether the word is a date, a time of day, or both with or without an offset. -/
def isMoment (word : List Char) : Bool :=
  match date? word with
  | some [] => true
  | some (c :: word) =>
    (c == 'T' || c == 't' || c == ' ') && ((time? word).map isOffset).getD false
  | none => time? word == some []

/-! ## Words -/

/-- Whether the character may stand in a word. -/
def isWordChar (c : Char) : Bool :=
  c.isAlphanum || c == '+' || c == '-' || c == '_' || c == '.' || c == ':'

/-- The meaning of a word. -/
def scalar? (word : List Char) : Option Toml :=
  if word = ['t', 'r', 'u', 'e'] then some (.bool true)
  else if word = ['f', 'a', 'l', 's', 'e'] then some (.bool false)
  else if isMoment word then some .moment
  else number? word

/-- The word at the front of a source. A date may be followed by a blank and a time of day. -/
def takeWord (s : List Char) : List Char :=
  let word := s.takeWhile isWordChar
  match s.dropWhile isWordChar with
  | ' ' :: c :: rest =>
    if date? word = some [] ∧ c.isDigit then word ++ ' ' :: (c :: rest).takeWhile isWordChar
    else word
  | _ => word

end ChainBroker.Toml
