import ChainBroker.Command.Session
import ChainBroker.Docker.Wire
import ChainBroker.Kubernetes.Wire
import ChainBroker.Uuid

/-!
# The program

The outermost layer reads the words of its command line, the environment and the files that a
session asks for, and prints how the session ends. It has no line to a container platform, so a
session that needs one ends with the failure to connect.
-/

namespace ChainBroker

namespace Terminal

/-- The reason behind an error of the system; one without a number counts as an error of input and
output. -/
def reason : IO.Error → OsError
  | .alreadyExists _ code _ | .interrupted _ code _ | .noFileOrDirectory _ code _
  | .invalidArgument _ code _ | .permissionDenied _ code _ | .resourceExhausted _ code _
  | .inappropriateType _ code _ | .noSuchThing _ code _ | .otherError code _ | .resourceBusy code _
  | .resourceVanished code _ | .unsupportedOperation code _ | .hardwareFault code _
  | .unsatisfiedConstraints code _ | .illegalOperation code _ | .protocolError code _
  | .timeExpired code _ => .number code.toNat
  | .unexpectedEof | .userError _ => .number 5

/-- The contents of a file. -/
def contents (path : String) : IO (Except OsError Bytes) := do
  match ← (IO.FS.readBinFile path).toBaseIO with
  | .ok bytes => return .ok bytes.toList
  | .error e => return .error (reason e)

/-- What a directory holds directly. -/
def listing (path : String) : IO (Except OsError Listing) := do
  match ← (do (← IO.FS.realPath path).readDir : IO _).toBaseIO with
  | .error e => return .error (reason e)
  | .ok entries => .ok <$> entries.toList.mapM fun entry => do
    match ← entry.path.metadata.toBaseIO with
    | .ok { type := .file, .. } =>
      return ⟨entry.fileName, .file (← contents (joinPath path entry.fileName))⟩
    | _ => return ⟨entry.fileName, .other⟩

/-- The variables of the environment. -/
def environment : IO Environment := do
  let text := Utf8.decodeLossy ((← contents "/proc/self/environ").toOption.getD [])
  let entries := (Text.splitAt '\x00' text.toList).filterMap fun entry =>
    match entry.dropWhile (· ≠ '=') with
    | _ :: value => some (String.ofList (entry.takeWhile (· ≠ '=')), String.ofList value)
    | [] => none
  return fun name => entries.lookup name

/-- An id that nothing has been given yet. -/
def freshId : IO Uuid := do
  let number := (← IO.getRandomBytes 16).foldl (fun n byte => n * 256 + byte.toNat) 0
  return ⟨.ofNat 48 number, .ofNat 12 (number >>> 48), .ofNat 62 (number >>> 60)⟩

/-- Answers a session: there are files to read, and nothing can be reached, written or run. -/
def answer : (call : Session.Call) → IO call.Answer
  | .contents path => contents path
  | .listing path => listing path
  | .connect .docker => return .error (.docker (.noSocket "/var/run/docker.sock"))
  | .connect .kubernetes => return .error (.kubernetes (.unreachable "Connect"))
  | .docker call => (Docker.Wire.answer call).interpret fun _ => return Http.Outcome.unreachable
  | .kubernetes inNamespace call =>
    (Kubernetes.Wire.answer inNamespace call).interpret fun _ => return Http.Outcome.unreachable
  | .contract (.inl _) => return .unanswered
  | .contract (.inr call) => return match call with
    | .create _ _ | .write _ _ | .read _ => .error (.number 38)
    | .remove _ => ()
    | .run _ _ => .notStarted (.number 38)

/-- What a user is told about a command line that is none. -/
def usage : Command.Misuse → String
  | .help =>
    "Usage: [--config FILE] [--services DIR] [--verbose] [--json-logs] COMMAND\n\nCommands:\n" ++
      String.join (Command.names.map fun name => "  " ++ name ++ "\n")
  | .nothingGiven | .missingCommand => "error: a command is required\n"
  | .unknownCommand => "error: there is no such command\n"
  | .unknownArgument => "error: there is no such argument\n"
  | .missingValue => "error: an option lacks its value\n"
  | .unexpectedValue => "error: an option takes no value\n"
  | .conflict => "error: an argument cannot be given here\n"
  | .missingArgument => "error: a required argument is missing\n"

/-- How the program ends for the words of its command line. -/
def run (words : List String) : IO Ending := do
  match Command.Line.read words with
  | .error .help => return ⟨0, usage .help, ""⟩
  | .error misuse => return ⟨2, "", usage misuse⟩
  | .ok line =>
    let id ← freshId
    let session := Session.run (← environment) (fun i j => (id.shift i j).text) line
    return .of (← session.run.interpret answer)

end Terminal

end ChainBroker

/-- Runs the program on the words of its command line. -/
def main (words : List String) : IO UInt32 := do
  let ending ← ChainBroker.Terminal.run words
  IO.print ending.output
  IO.eprint ending.complaint
  return ending.exitCode.toUInt32
