import ChainBroker.Json.Number
import ChainBroker.Json.Text

/-!
# JSON values that are not wanted

`skipValue` passes over a value of any kind, checking its grammar to any depth; `mismatch` says what
stands where a value of another type was expected.
-/

namespace ChainBroker.Json

/-- Passes over a number after its sign; its size does not matter. -/
def skipNumeral (s : Source) : Except Fault (Taken s.length Unit) :=
  match numeral s with
  | .error .endInValue => .error .invalidNumber
  | .error e => .error e
  | .ok n => .ok (n.map fun _ => ())

/-- Passes over a word after its first letter. -/
def skipWord (letters : List Char) (s : Source) (n : Nat) (h : s.length < n) :
    Except Fault (Taken n Unit) :=
  match word letters s with
  | .error e => .error e
  | .ok r => .ok ⟨(), r.1, Nat.lt_of_le_of_lt r.2 h⟩

mutual

/-- Passes over one value of any kind. -/
def skipValue (s : Source) : Except Fault (Taken s.length Unit) :=
  match h : skipBlanks s with
  | [] => .error .endInValue
  | .broken _ :: _ => .error .valueExpected
  | .char c :: rest =>
    have hr : rest.length < s.length := length_lt_of_skipBlanks h
    if c = 'n' then skipWord ['u', 'l', 'l'] rest s.length hr
    else if c = 't' then skipWord ['r', 'u', 'e'] rest s.length hr
    else if c = 'f' then skipWord ['a', 'l', 's', 'e'] rest s.length hr
    else if c = '"' then
      match skipText rest with
      | .error e => .error e
      | .ok t => .ok (t.widen (Nat.le_of_lt hr))
    else if c = '[' then
      match skipList rest with
      | .error e => .error e
      | .ok t => .ok (t.widen (Nat.le_of_lt hr))
    else if c = '{' then
      match skipRecord rest with
      | .error e => .error e
      | .ok t => .ok (t.widen (Nat.le_of_lt hr))
    else if c = '-' then
      match skipNumeral rest with
      | .error e => .error e
      | .ok t => .ok (t.widen (Nat.le_of_lt hr))
    else if c.isDigit then
      match skipNumeral (.char c :: rest) with
      | .error e => .error e
      | .ok t => .ok (t.widen (Nat.succ_le_of_lt hr))
    else .error .valueExpected
termination_by (s.length, 0)

/-- Passes over a list after its opening bracket. -/
def skipList (s : Source) : Except Fault (Taken s.length Unit) :=
  match h : skipBlanks s with
  | [] => .error .endInList
  | p :: rest =>
    have hr : rest.length < s.length := length_lt_of_skipBlanks h
    if p = .char ']' then .ok ⟨(), rest, hr⟩
    else
      match skipValue s with
      | .error e => .error e
      | .ok v =>
        have := v.shorter
        match skipListRest v.rest with
        | .error e => .error e
        | .ok t => .ok (t.widen (by omega))
termination_by (s.length, 1)

/-- Passes over the rest of a list after one of its items. -/
def skipListRest (s : Source) : Except Fault (Taken s.length Unit) :=
  match h : skipBlanks s with
  | [] => .error .endInList
  | p :: rest =>
    have hr : rest.length < s.length := length_lt_of_skipBlanks h
    if p = .char ']' then .ok ⟨(), rest, hr⟩
    else if p = .char ',' then
      match skipValue rest with
      | .error e => .error e
      | .ok v =>
        have := v.shorter
        match skipListRest v.rest with
        | .error e => .error e
        | .ok t => .ok (t.widen (by omega))
    else .error .listCommaExpected
termination_by (s.length, 1)

/-- Passes over a record after its opening bracket. -/
def skipRecord (s : Source) : Except Fault (Taken s.length Unit) :=
  match h : skipBlanks s with
  | [] => .error .endInRecord
  | p :: rest =>
    have hr : rest.length < s.length := length_lt_of_skipBlanks h
    if p = .char '}' then .ok ⟨(), rest, hr⟩ else skipMembers s
termination_by (s.length, 2)

/-- Passes over the members of a record, of which at least one is due. -/
def skipMembers (s : Source) : Except Fault (Taken s.length Unit) :=
  match h : skipBlanks s with
  | [] => .error .endInRecord
  | p :: rest =>
    have hr : rest.length < s.length := length_lt_of_skipBlanks h
    if p = .char '"' then
      match skipText rest with
      | .error e => .error e
      | .ok name =>
        have hn := name.shorter
        match hc : skipBlanks name.rest with
        | [] => .error .endInRecord
        | p :: afterColon =>
          have := length_lt_of_skipBlanks hc
          if p = .char ':' then
            match skipValue afterColon with
            | .error e => .error e
            | .ok v =>
              have := v.shorter
              match skipRecordRest v.rest with
              | .error e => .error e
              | .ok t => .ok (t.widen (by omega))
          else .error .colonExpected
    else .error .nameExpected
termination_by (s.length, 1)

/-- Passes over the rest of a record after one of its members. -/
def skipRecordRest (s : Source) : Except Fault (Taken s.length Unit) :=
  match h : skipBlanks s with
  | [] => .error .endInRecord
  | p :: rest =>
    have hr : rest.length < s.length := length_lt_of_skipBlanks h
    if p = .char '}' then .ok ⟨(), rest, hr⟩
    else if p = .char ',' then
      match skipMembers rest with
      | .error e => .error e
      | .ok t => .ok (t.widen (Nat.le_of_lt hr))
    else .error .recordCommaExpected
termination_by (s.length, 1)

end

/-! ## Values of the wrong type -/

/-- Why the value at the front of a source without blanks is not what was expected: the value itself
has to be well formed as far as it tells its type. -/
def mismatch (expected : String) (s : Source) : Fault :=
  let invalid (found : Found) : Fault := .misfit (.invalidType found expected)
  match s with
  | [] => .endInValue
  | .broken _ :: _ => .valueExpected
  | .char c :: rest =>
    match c with
    | 'n' =>
      match word ['u', 'l', 'l'] rest with
      | .error e => e
      | .ok _ => invalid (.nothing "null")
    | 't' =>
      match word ['r', 'u', 'e'] rest with
      | .error e => e
      | .ok _ => invalid (.bool true)
    | 'f' =>
      match word ['a', 'l', 's', 'e'] rest with
      | .error e => e
      | .ok _ => invalid (.bool false)
    | '"' =>
      match openText rest with
      | .error e => e
      | .ok t => invalid (.text t.value)
    | '[' => invalid .list
    | '{' => invalid .record
    | c =>
      if c = '-' || c.isDigit then
        match number s with
        | .error e => e
        | .ok n => invalid n.value.found
      else .valueExpected

end ChainBroker.Json
