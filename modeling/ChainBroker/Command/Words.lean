/-!
# Words of a command line

A command line is a list of words: options with long names after two hyphens, options with one
letter after a hyphen, of which several may share a word, values, and names of commands. An option
that takes a value has it in the same word, behind an equals sign or behind its letter, or as the
next word. After a word of two hyphens everything is a value.

`Grammar.read` reads the words by a grammar up to the name of a command. An option that waits for
its value, or whose value was the last thing read, is *pending*: it is entered when the next option
or value turns up, so a mistake in the next word can come to light before one in the pending option.
-/

namespace ChainBroker.Command

/-- What a user can do wrong, or ask for instead of a command. -/
inductive Misuse where
  /-- Help is asked for. -/
  | help
  /-- Nothing is given at all. -/
  | nothingGiven
  /-- No command is given. -/
  | missingCommand
  /-- There is no such command. -/
  | unknownCommand
  /-- There is no such option, or no place for a value. -/
  | unknownArgument
  /-- An option that takes a value has none. -/
  | missingValue
  /-- An option that takes no value has one. -/
  | unexpectedValue
  /-- Options that exclude each other are given, or one is given twice. -/
  | conflict
  /-- An option or a value that has to be given is missing. -/
  | missingArgument
deriving DecidableEq, Repr

/-- What an option does. -/
inductive OptionKind where
  /-- It asks for help. -/
  | help
  /-- It is given or not. -/
  | flag
  /-- It takes a value, once. -/
  | single
  /-- It takes a value each time it is given. -/
  | repeated
deriving DecidableEq, Repr

/-- An option. -/
structure OptionSpec where
  /-- The long name. -/
  name : String
  letter : Option Char
  /-- What it does. -/
  kind : OptionKind
deriving DecidableEq, Repr

/-- What may stand on a command line. -/
structure Grammar where
  options : List OptionSpec
  /-- The names of the values. -/
  positionals : List String
  /-- The names of commands that may follow. -/
  commands : List String

/-- Names with the values that have been given for them; flags have none. -/
abbrev Given : Type := List (String × Option String)

/-- Whether something has been given under a name. -/
def Given.has (given : Given) (name : String) : Bool := given.any (·.1 == name)

/-- The values that have been given under a name. -/
def Given.values (given : Given) (name : String) : List String :=
  given.filterMap fun (other, value) => if other = name then value else none

/-- The value that has been given under a name. -/
def Given.value? (given : Given) (name : String) : Option String := (given.values name).head?

/-- How far the words have been read. -/
structure State where
  /-- What has been given. -/
  given : Given := []
  /-- The number of values that have been given without an option. -/
  placed : Nat := 0
  /-- The pending option with its value, if that has turned up. -/
  pending : Option (OptionSpec × Option String) := none
  /-- Whether everything that follows is a value. -/
  valuesOnly : Bool := false

/-- Enters an option. -/
def State.enter (st : State) (option : OptionSpec) (value : Option String) : Except Misuse State :=
  match option.kind with
  | .help => .error .help
  | .repeated => .ok { st with given := st.given ++ [(option.name, value)] }
  | .flag | .single =>
    if st.given.has option.name then .error .conflict
    else .ok { st with given := st.given ++ [(option.name, value)] }

/-- Enters the pending option. -/
def State.settle (st : State) : Except Misuse State :=
  match st.pending with
  | none => .ok st
  | some (_, none) => .error .missingValue
  | some (option, some value) => { st with pending := none }.enter option (some value)

/-- Whether an option takes a value. -/
def OptionSpec.takesValue (option : OptionSpec) : Bool :=
  option.kind = .single || option.kind = .repeated

/-- Reads an option, with a value if there is one in its word. -/
def State.option (st : State) (option : OptionSpec) (attached : Option String) :
    Except Misuse State := do
  let st ← st.settle
  if option.takesValue && attached.isNone then .ok { st with pending := some (option, none) }
  else st.enter option attached

/-- Reads a word with a long name, which ends at the first equals sign. -/
def Grammar.long (grammar : Grammar) (st : State) (word : List Char) : Except Misuse State :=
  let name := String.ofList (word.takeWhile (· ≠ '='))
  let attached := match word.dropWhile (· ≠ '=') with
    | _ :: value => some (String.ofList value)
    | [] => none
  match grammar.options.find? (·.name == name) with
  | none => .error .unknownArgument
  | some option =>
    if !option.takesValue && attached.isSome then .error .unexpectedValue
    else st.option option attached

/-- The value behind a letter. -/
def attachedValue : List Char → Option String
  | [] => none
  | '=' :: value => some (String.ofList value)
  | value => some (String.ofList value)

/-- Reads the letters of a word. -/
def Grammar.letters (grammar : Grammar) (st : State) : List Char → Except Misuse State
  | [] => .ok st
  | c :: rest =>
    match grammar.options.find? (·.letter == some c) with
    | none => .error .unknownArgument
    | some option =>
      if option.takesValue then st.option option (attachedValue rest)
      else
        match st.option option none with
        | .error misuse => .error misuse
        | .ok st => grammar.letters st rest

/-- Reads a value without an option. -/
def Grammar.place (grammar : Grammar) (st : State) (word : String) : Except Misuse State :=
  match grammar.positionals[st.placed]? with
  | some name => do
    let st ← st.settle
    .ok { st with given := st.given ++ [(name, some word)], placed := st.placed + 1 }
  | none =>
    if grammar.commands = [] ∨ (st.valuesOnly ∧ word ∈ grammar.commands) then
      .error .unknownArgument
    else .error .unknownCommand

/-- Whether an option waits for its value. -/
def State.isWaiting (st : State) : Bool :=
  match st.pending with
  | some (_, none) => true
  | _ => false

/-- Reads a word that is neither two hyphens nor the name of a command. -/
def Grammar.word (grammar : Grammar) (st : State) (word : String) : Except Misuse State :=
  if st.valuesOnly then grammar.place st word
  else match word.toList with
    | '-' :: '-' :: name => grammar.long st name
    | '-' :: c :: letters => grammar.letters st (c :: letters)
    | _ =>
      match st.pending with
      | some (option, none) => .ok { st with pending := some (option, some word) }
      | _ => grammar.place st word

/-- Reads words up to the name of a command, which is returned with the words behind it. -/
def Grammar.read (grammar : Grammar) (st : State) :
    List String → Except Misuse (State × Option (String × List String))
  | [] => .ok (st, none)
  | word :: words =>
    if !st.valuesOnly && !st.isWaiting && grammar.commands.contains word then
      .ok (st, some (word, words))
    else if !st.valuesOnly && word = "--" then grammar.read { st with valuesOnly := true } words
    else
      match grammar.word st word with
      | .error misuse => .error misuse
      | .ok st => grammar.read st words

end ChainBroker.Command
