import ChainBroker.Docker.Answer
import ChainBroker.Http
import ChainBroker.Image
import ChainBroker.Url.Parse

/-!
# Speaking to the Docker daemon

Each question to the daemon is one HTTP request. The name of a container is put into the path as it
is, and the path is then read as that of a URL; images and the name of a new container are part of
the query and encoded.

A status of success and the status that tells of no change are good answers, and every other one is
a refusal.
-/

namespace ChainBroker.Docker.Wire

/-- What a request for a container names. -/
def containerTarget (name action : String) : String :=
  Url.targetOf ("/containers/" ++ name ++ action)

/-- The request for a pull. -/
def pullRequest (reference : String) : Http.Request :=
  let image := Image.ofReference reference
  { method := .post
    target := "/images/create?" ++ Percent.encodePairs
      [("fromImage", image.name), ("fromSrc", ""), ("repo", ""), ("tag", image.tag),
        ("platform", "")]
    body := none }

/-- The request for a new container. -/
def createRequest (name : String) (config : ContainerConfig) : Http.Request where
  method := .post
  target := "/containers/create?" ++ Percent.encodePairs [("name", name)]
  body := some config.toJson

/-- The request that starts a container. -/
def startRequest (name : String) : Http.Request := ⟨.post, containerTarget name "/start", none⟩

/-- The request that stops a container. -/
def stopRequest (name : String) : Http.Request := ⟨.post, containerTarget name "/stop", none⟩

/-- The request that removes a container. -/
def removeRequest (name : String) : Http.Request := ⟨.delete, containerTarget name "", none⟩

/-- The request that shows a container. -/
def inspectRequest (name : String) : Http.Request := ⟨.get, containerTarget name "/json", none⟩

/-- Whether a status is a good answer. -/
def isGood (status : Nat) : Bool := isSuccess status || status == 304 || status == 101

/-- What arrives of the body of a good answer, and whether that is all of it. -/
def received : Http.Outcome → Except Fault (Bytes × Bool)
  | .unreachable => .error .unreachable
  | .broken => .error .disconnected
  | .timedOut => .error .timedOut
  | .cut status part => if isGood status then .ok (part, false) else .error .cut
  | .answered status body =>
    if isGood status then .ok (body, true)
    else match complaint body with
      | .ok reason => .error (.refused status reason)
      | .error cause => .error (.unreadable cause)

/-- Whether an answer is good; its body does not matter. -/
def accepted (outcome : Http.Outcome) : Except Fault Unit := (received outcome).map fun _ => ()

/-- What is read from the body of a good answer. -/
def decoded {α : Type} (r : Json.Reader α) (outcome : Http.Outcome) : Except Fault α := do
  let (body, isWhole) ← received outcome
  if isWhole then (Json.decode r (Utf8.pieces body)).mapError .unreadable else .error .cut

/-- What is reported on a pull. -/
def reported (outcome : Http.Outcome) : List PullItem :=
  match received outcome with
  | .ok (report, isWhole) => items isWhole false report
  | .error fault => [.error fault]

/-- Sends a request. -/
def send {α : Type} (request : Http.Request) (read : Http.Outcome → α) :
    Dialogue Http.interface α :=
  (Dialogue.question (I := Http.interface) request).bind fun outcome => .done (read outcome)

/-- What a question to the daemon comes to. -/
def answer : (call : Call) → Dialogue Http.interface call.Answer
  | .pull reference => send (pullRequest reference) reported
  | .pulled _ => .done ()
  | .create name config => send (createRequest name config) (decoded createdReader)
  | .start name => send (startRequest name) accepted
  | .stop name => send (stopRequest name) accepted
  | .remove name => send (removeRequest name) accepted
  | .inspect name => send (inspectRequest name) (decoded inspectionReader)

end ChainBroker.Docker.Wire
