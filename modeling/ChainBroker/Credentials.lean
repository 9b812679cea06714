import ChainBroker.Json.Decode
import ChainBroker.Json.Value
import ChainBroker.Table

/-!
# What a bind takes and gives

A bind is asked for with the address of a contract and the arguments of its constructor. It gives
back where the ports of the instance are reachable and what the deployment of the contract yielded.
All of these have a JSON form: `toJson` writes it, and the reader beside it reads it back. Fields
are found by name, and those that have a default may be left out.
-/

namespace ChainBroker

open Json (Shape Field Reader)

/-- A place outside of an instance where one of its ports is reachable. -/
structure Endpoint where
  /-- The port of the host. -/
  port : String
  /-- The address of the host, empty for any address. -/
  hostIp : String := ""
deriving DecidableEq, Repr

/-- A running instance as others see it. -/
structure Instance where
  /-- The address under which the broker reaches it. -/
  internalAddress : String
  /-- The address under which its users reach it. -/
  externalAddress : String
  /-- The places where its ports are reachable, under the numbers that the ports have inside. -/
  endpoints : Table (List Endpoint)
deriving DecidableEq, Repr

/-- What the deployment of a contract yielded. -/
structure Deployment where
  /-- The account that deployed the contract. -/
  account : String := ""
  /-- The interface of the contract. -/
  interface : String := ""
  contractAddress : String := ""
  gasPrice : String := ""
  transactionHash : String := ""
deriving DecidableEq, Repr

/-- What a successful bind gives back. -/
structure Credentials where
  inst : Instance
  /-- The deployed contract. -/
  deployment : Deployment
deriving DecidableEq, Repr

/-- What a bind is asked for. -/
structure BindRequest where
  /-- The address of the contract. -/
  contractUrl : Option String := none
  /-- The arguments of its constructor. -/
  contractArgs : List String := []
deriving DecidableEq, Repr

/-! ## Endpoints -/

namespace Endpoint

/-- The JSON form, without an empty address. -/
def toJson (e : Endpoint) : Json :=
  .record (("port", .text e.port) :: if e.hostIp = "" then [] else [("host_ip", .text e.hostIp)])

/-- The fields that have been read. -/
structure Draft where
  port : Option String := none
  /-- The address of the host. -/
  hostIp : Option String := none

/-- The fields of the JSON form. -/
def shape : Shape Draft where
  title := "struct Binding"
  fields :=
    [.of "port" .required Json.textValue Draft.port fun d x => { d with port := some x },
      .of "host_ip" .defaulted Json.textValue Draft.hostIp fun d x => { d with hostIp := some x }]

/-- Reads the JSON form. -/
def reader : Reader Endpoint := fun s =>
  (Json.recordOf shape {} s).map fun t =>
    t.map fun d => { port := d.port.getD "", hostIp := d.hostIp.getD "" }

end Endpoint

/-! ## Instances -/

namespace Instance

/-- The JSON form. -/
def toJson (i : Instance) : Json :=
  .record
    [("internal_address", .text i.internalAddress),
      ("external_address", .text i.externalAddress),
      ("bindings", .record (i.endpoints.toList.map fun (port, endpoints) =>
        (port, .list (endpoints.map Endpoint.toJson))))]

/-- The fields that have been read. -/
structure Draft where
  internalAddress : Option String := none
  externalAddress : Option String := none
  /-- The endpoints of the ports. -/
  endpoints : Option (List (String × List Endpoint)) := none

/-- The fields of the JSON form. -/
def shape : Shape Draft where
  title := "struct ContainerInfo"
  fields :=
    [.of "internal_address" .required Json.textValue Draft.internalAddress
        fun d x => { d with internalAddress := some x },
      .of "external_address" .required Json.textValue Draft.externalAddress
        fun d x => { d with externalAddress := some x },
      .of "bindings" .required (Json.tableOf (Json.listOf Endpoint.reader)) Draft.endpoints
        fun d x => { d with endpoints := some x }]

/-- Reads the JSON form. -/
def reader : Reader Instance := fun s =>
  (Json.recordOf shape {} s).map fun t =>
    t.map fun d =>
      { internalAddress := d.internalAddress.getD ""
        externalAddress := d.externalAddress.getD ""
        endpoints := Table.ofList (d.endpoints.getD []) }

end Instance

/-! ## Deployments -/

namespace Deployment

/-- The JSON form. -/
def toJson (d : Deployment) : Json :=
  .record
    [("address", .text d.account), ("abi", .text d.interface),
      ("contract_address", .text d.contractAddress), ("gas_price", .text d.gasPrice),
      ("transaction_hash", .text d.transactionHash)]

/-- The fields that have been read. -/
structure Draft where
  account : Option String := none
  /-- The interface of the contract. -/
  interface : Option String := none
  contractAddress : Option String := none
  gasPrice : Option String := none
  transactionHash : Option String := none

/-- The fields of the JSON form. -/
def shape : Shape Draft where
  title := "struct NodeInfo"
  fields :=
    [.of "address" .defaulted Json.textValue Draft.account fun d x => { d with account := some x },
      .of "abi" .defaulted Json.textValue Draft.interface fun d x => { d with interface := some x },
      .of "contract_address" .defaulted Json.textValue Draft.contractAddress
        fun d x => { d with contractAddress := some x },
      .of "gas_price" .defaulted Json.textValue Draft.gasPrice
        fun d x => { d with gasPrice := some x },
      .of "transaction_hash" .defaulted Json.textValue Draft.transactionHash
        fun d x => { d with transactionHash := some x }]

/-- Reads the JSON form. -/
def reader : Reader Deployment := fun s =>
  (Json.recordOf shape {} s).map fun t =>
    t.map fun d =>
      { account := d.account.getD "", interface := d.interface.getD ""
        contractAddress := d.contractAddress.getD "", gasPrice := d.gasPrice.getD ""
        transactionHash := d.transactionHash.getD "" }

end Deployment

/-! ## Credentials -/

namespace Credentials

/-- The JSON form. -/
def toJson (c : Credentials) : Json :=
  .record [("container_info", c.inst.toJson), ("node_info", c.deployment.toJson)]

/-- The fields that have been read. -/
structure Draft where
  inst : Option Instance := none
  deployment : Option Deployment := none

/-- The fields of the JSON form. -/
def shape : Shape Draft where
  title := "struct BindResponse"
  fields :=
    [.of "container_info" .required Instance.reader Draft.inst
        fun d x => { d with inst := some x },
      .of "node_info" .required Deployment.reader Draft.deployment
        fun d x => { d with deployment := some x }]

/-- Reads the JSON form. -/
def reader : Reader Credentials := fun s =>
  (Json.recordOf shape {} s).map fun t =>
    t.map fun d =>
      { inst := d.inst.getD ⟨"", "", ∅⟩, deployment := d.deployment.getD {} }

end Credentials

/-! ## Bind requests -/

namespace BindRequest

/-- The fields that have been read. -/
structure Draft where
  /-- The address behind which the contract is. -/
  contractUrl : Option (Option String) := none
  /-- The arguments of the contract's constructor. -/
  contractArgs : Option (List String) := none

/-- The fields of the JSON form. -/
def shape : Shape Draft where
  title := "struct BindParameters"
  fields :=
    [.of "contract_url" .defaulted (Json.nullable Json.textValue) Draft.contractUrl
        fun d x => { d with contractUrl := some x },
      .of "contract_args" .defaulted (Json.listOf Json.textValue) Draft.contractArgs
        fun d x => { d with contractArgs := some x }]

/-- Reads the JSON form. -/
def reader : Reader BindRequest := fun s =>
  (Json.recordOf shape {} s).map fun t =>
    t.map fun d =>
      { contractUrl := d.contractUrl.getD none, contractArgs := d.contractArgs.getD [] }

/-- Whether the byte is a blank of ASCII. -/
def isAsciiBlank (b : UInt8) : Bool := b == 0x20 || b == 0x09 || b == 0x0A || b == 0x0C || b == 0x0D

/-- The request in a payload: blanks alone and null are a request without address and arguments. -/
def ofPayload (payload : Bytes) : Except Json.Fault BindRequest :=
  if payload.all isAsciiBlank then .ok {}
  else (Json.decode (Json.nullable reader) (Utf8.pieces payload)).map (·.getD {})

/-- The payload of a request made of an address and arguments, unless it is given as it is. -/
def payload (contractUrl : Option String) (contractArgs : List String) (raw : Option String) :
    String :=
  match raw with
  | some raw => raw
  | none =>
    let url := match contractUrl with
      | some url => [("contract_url", Json.text url)]
      | none => []
    (Json.record (("contract_args", Json.texts contractArgs) :: url)).render .compact

end BindRequest

end ChainBroker
