import ChainBroker.Http
import ChainBroker.Kubernetes.Answer

/-!
# Speaking to the Kubernetes API

Each question to the cluster is one HTTP request. The names of the namespace and of the object are
put into the target as they are, so a name may make the target one that cannot be requested; then
nothing is sent. A request to delete names an object, so its name may not be empty.
-/

namespace ChainBroker.Kubernetes.Wire

/-- Whether the byte may stand in the path of a target. -/
def isPathByte (b : UInt8) : Bool :=
  b == 0x21 || b == 0x22 || (0x24 ≤ b && b ≤ 0x3B) || b == 0x3D || (0x40 ≤ b && b ≤ 0x5F) ||
    0x61 ≤ b

/-- Whether the byte may stand in the query of a target. -/
def isQueryByte (b : UInt8) : Bool :=
  b == 0x21 || (0x24 ≤ b && b ≤ 0x3B) || b == 0x3D || 0x3F ≤ b

/-- The longest target, in bytes. -/
def maxLength : Nat := 65534

/-- The text up to a number sign, behind which nothing counts. -/
def withoutFragment (target : String) : List Char := target.toList.takeWhile (· ≠ '#')

/-- Whether a target may be requested: its bytes are those of a path, up to a question mark, and
then those of a query. -/
def isTarget (target : List Char) : Bool :=
  let path := target.takeWhile (· ≠ '?')
  let query := (target.dropWhile (· ≠ '?')).tail
  (Utf8.encode (String.ofList path)).all isPathByte &&
    (Utf8.encode (String.ofList query)).all isQueryByte

/-- The request for a target, unless that cannot be requested. -/
def request (method : Http.Method) (target : String) (body : Option Json) :
    Except Fault Http.Request :=
  if maxLength < target.utf8ByteSize then
    .error (.badTarget "failed to build request: uri too long")
  else if isTarget (withoutFragment target) then
    .ok ⟨method, String.ofList (withoutFragment target), body⟩
  else .error (.badTarget "failed to build request: invalid uri character")

/-- The path of the objects of a kind in a namespace. -/
def objects (inNamespace kind : String) : String :=
  "/api/v1/namespaces/" ++ inNamespace ++ "/" ++ kind

/-- The request that creates an object. -/
def createRequest (inNamespace kind : String) (object : Json) : Except Fault Http.Request :=
  request .post (objects inNamespace kind ++ "?") (some object)

/-- The request that deletes an object. -/
def deleteRequest (inNamespace kind name : String) : Except Fault Http.Request :=
  if name = "" then .error (.badTarget "failed to validate request: A non-empty name is required")
  else request .delete (objects inNamespace kind ++ "/" ++ name ++ "?") (some (.record []))

/-- The request that shows a service. -/
def getRequest (inNamespace name : String) : Except Fault Http.Request :=
  if name = "" then .error (.badTarget "failed to validate request: A non-empty name is required")
  else request .get (objects inNamespace "services" ++ "/" ++ name) none

/-- The text of a response that is no refusal. -/
def text : Http.Outcome → Except Fault String
  | .unreachable => .error (.unreachable "Connect")
  | .broken | .cut _ _ | .timedOut => .error (.unreachable "SendRequest")
  | .answered status body =>
    let text := Utf8.decodeLossy body
    if 400 ≤ status && status < 600 then
      .error (.refused (Refusal.ofText (statusText status) status text))
    else .ok text

/-- What is read from a response that is no refusal. -/
def decoded {α : Type} (r : Json.Reader α) (outcome : Http.Outcome) : Except Fault α := do
  (Json.decode r (Utf8.ofText (← text outcome))).mapError .unreadable

/-- Sends a request, if there is one, and reads what comes of it. -/
def send {α : Type} (request : Except Fault Http.Request) (r : Json.Reader α) :
    Dialogue Http.interface (Except Fault α) :=
  match request with
  | .error fault => .done (.error fault)
  | .ok request =>
    (Dialogue.question (I := Http.interface) request).bind fun outcome => .done (decoded r outcome)

/-- What a question to the cluster comes to in a namespace. -/
def answer (inNamespace : String) : (call : Call) → Dialogue Http.interface call.Answer
  | .createPod pod => send (createRequest inNamespace "pods" pod.toJson) Json.ignored
  | .createService service =>
    send (createRequest inNamespace "services" service.toJson) Json.ignored
  | .deletePod name => send (deleteRequest inNamespace "pods" name) Json.ignored
  | .deleteService name => send (deleteRequest inNamespace "services" name) Json.ignored
  | .getService name => send (getRequest inNamespace name) serviceReader

end ChainBroker.Kubernetes.Wire
