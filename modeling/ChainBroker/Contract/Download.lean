import ChainBroker.Contract.Fetch
import ChainBroker.Contract.Workbench
import ChainBroker.Settings.Check

/-!
# Downloading contracts

A contract is fetched into a temporary file. The file is there afterwards exactly if the download
succeeds, and then it holds the body of the response.
-/

namespace ChainBroker.Contract

/-- The servers and the workbench. -/
abbrev interface : Interface := Fetch.interface.sum Workbench.interface

/-- Asks the workbench. -/
def askWorkbench (call : Workbench.Call) : Attempt interface Failure call.Answer :=
  Attempt.question (I := interface) (.inr call)

/-- Asks a server for the body behind a URL. -/
def fetchBody (url : Url) (timeout : Nat) : Attempt interface Failure (Except String Bytes) := do
  let url := url.withoutCredentials
  if Fetch.isRequestable url then
    let outcome : Fetch.Outcome ← Attempt.question (I := interface) (.inl ⟨url, timeout⟩)
    return Fetch.body url outcome
  else return .error ("builder error for url (" ++ url.text ++ ")")

/-- Fetches the body behind a URL into a file. -/
def fetchInto (path : String) (source : String) (url : Url) (timeout : Nat) :
    Attempt interface Failure Unit := do
  let body ← Attempt.ofExcept (.downloadFailed source) (← fetchBody url timeout)
  Attempt.ofExcept .file (← askWorkbench (.write path body))

/-- Downloads the contract behind a URL and says where it is. -/
def download (source : String) (timeout : Nat) : Attempt interface Failure String := do
  let url ← Attempt.ofExcept (fun e => .downloadFailed source e.message)
    (Check.url "contract_url" source)
  let path ← Attempt.ofExcept .file (← askWorkbench (.create "contract-" ".sol"))
  (fetchInto path source url timeout).followedBy fun
    | .ok _ => .done ()
    | .error _ => Dialogue.question (I := interface) (.inr (.remove path))
  return path

end ChainBroker.Contract
