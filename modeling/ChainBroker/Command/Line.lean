import ChainBroker.Command.Words
import ChainBroker.Credentials

/-!
# The command line

The broker's command line names a file of settings, a directory of service definitions and what is
to be done. Mistakes behind the name of the command come to light before those in front of it that
are still pending.

`Line.read` reads the words behind the name of the program.
-/

namespace ChainBroker.Command

/-- What is to be done. -/
inductive Request where
  /-- Show the catalog. -/
  | catalog
  /-- Start an instance. -/
  | provision (serviceId planId instanceId : String)
  /-- Remove an instance. -/
  | deprovision (serviceId planId instanceId : String)
  /-- Deploy a contract to an instance. -/
  | bind (serviceId planId instanceId bindingId : String) (contractUrl : Option String)
    (contractArgs : List String) (parameters : Option String)
  /-- End a binding. -/
  | unbind (instanceId bindingId : String)
  | update (instanceId : String)
  /-- Tell how the last operation on an instance went. -/
  | lastOperation (instanceId operation : String)
deriving DecidableEq, Repr

/-- A command line. -/
structure Line where
  /-- The file of settings. -/
  config : String
  /-- The directory of service definitions. -/
  services : String
  /-- Whether more is logged. -/
  verbose : Bool
  /-- Whether the log is written in JSON. -/
  jsonLogs : Bool
  /-- What is to be done. -/
  request : Request
deriving DecidableEq, Repr

/-! ## Commands -/

/-- The option that asks for help. -/
def helpOption : OptionSpec := ⟨"help", some 'h', .help⟩

/-- An option with a value that is given once. -/
def single (name : String) : OptionSpec := ⟨name, none, .single⟩

/-- A command: its name, what may stand behind it, which options exclude each other, and what it
asks for, unless something that it needs is missing. -/
structure Verb where
  name : String
  options : List OptionSpec
  /-- The names of the values. -/
  positionals : List String
  /-- An option, and the options that cannot be given besides. -/
  exclusive : List (String × String)
  /-- What it asks for. -/
  request : Given → Option Request

/-- The options that name a plan. -/
def planOptions : List OptionSpec := [single "service-id", single "plan-id"]

/-- What a request about an instance of a plan is made of. -/
def planRequest (make : (serviceId planId instanceId : String) → Request) (g : Given) :
    Option Request :=
  make <$> g.value? "service-id" <*> g.value? "plan-id" <*> g.value? "instance-id"

/-- What a bind is made of. -/
def bindRequest (g : Given) : Option Request :=
  (fun serviceId planId instanceId bindingId =>
    Request.bind serviceId planId instanceId bindingId (g.value? "contract-url")
      (g.values "contract-arg") (g.value? "parameters")) <$>
    g.value? "service-id" <*> g.value? "plan-id" <*> g.value? "instance-id" <*>
      g.value? "binding-id"

/-- The commands. -/
def verbs : List Verb :=
  [{ name := "catalog", options := [], positionals := [], exclusive := []
     request := fun _ => some .catalog },
    { name := "provision", options := planOptions, positionals := ["instance-id"], exclusive := []
      request := planRequest .provision },
    { name := "deprovision", options := planOptions, positionals := ["instance-id"], exclusive := []
      request := planRequest .deprovision },
    { name := "bind"
      options := planOptions ++
        [single "contract-url", ⟨"contract-arg", none, .repeated⟩, single "parameters"]
      positionals := ["instance-id", "binding-id"]
      exclusive := [("parameters", "contract-url"), ("parameters", "contract-arg")]
      request := bindRequest },
    { name := "unbind", options := [], positionals := ["instance-id", "binding-id"], exclusive := []
      request := fun g => .unbind <$> g.value? "instance-id" <*> g.value? "binding-id" },
    { name := "update", options := [], positionals := ["instance-id"], exclusive := []
      request := fun g => .update <$> g.value? "instance-id" },
    { name := "last-operation", options := [single "operation-data"], positionals := ["instance-id"]
      exclusive := []
      request := fun g => (.lastOperation · ((g.value? "operation-data").getD "")) <$>
        g.value? "instance-id" }]

/-- What may stand behind the name of a command. -/
def Verb.grammar (verb : Verb) : Grammar := ⟨verb.options ++ [helpOption], verb.positionals, []⟩

/-- Reads the words behind the name of a command. -/
def Verb.read (verb : Verb) (words : List String) : Except Misuse Request := do
  let (st, _) ← verb.grammar.read {} words
  let st ← st.settle
  if verb.exclusive.any fun (a, b) => st.given.has a && st.given.has b then .error .conflict
  else match verb.request st.given with
    | some request => .ok request
    | none => .error .missingArgument

/-- Reads the words behind the command that asks for help: the name of a command at most. -/
def helpFor (names : List String) : List String → Misuse
  | [] => .help
  | [name] => if name ∈ names then .help else .unknownCommand
  | _ => .unknownCommand

/-- The names of the commands, with the one that asks for help. -/
def names : List String := verbs.map Verb.name ++ ["help"]

/-- What may stand before the name of a command. -/
def grammar : Grammar where
  options :=
    [⟨"config", some 'c', .single⟩, ⟨"services", some 's', .single⟩, ⟨"verbose", some 'v', .flag⟩,
      ⟨"json-logs", none, .flag⟩, helpOption]
  positionals := []
  commands := names

/-- Reads a command and the words behind it. -/
def readRequest (name : String) (words : List String) : Except Misuse Request :=
  match verbs.find? (·.name == name) with
  | some verb => verb.read words
  | none => .error (helpFor names words)

/-- Reads the words of a command line. -/
def Line.read (words : List String) : Except Misuse Line := do
  match ← grammar.read {} words with
  | (st, some (name, rest)) =>
    let request ← readRequest name rest
    let st ← st.settle
    return {
      config := (st.given.value? "config").getD "broker.toml"
      services := (st.given.value? "services").getD "services"
      verbose := st.given.has "verbose"
      jsonLogs := st.given.has "json-logs"
      request }
  | (st, none) =>
    let st ← st.settle
    if st.given = [] then .error .nothingGiven else .error .missingCommand

end ChainBroker.Command
