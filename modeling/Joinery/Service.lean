import Joinery.Config
import Joinery.Design
import Joinery.Service.Exchange

/-!
# The services

Two services stand behind a configurator: one generates models, the other stores
designs. They are functions of a state of the world, which each call may change.
The remote services send requests to a server; their state is the history of
these requests.
-/

namespace Joinery

/-- What a configurator asks of the world. -/
structure Services (σ : Type) where
  generate : GenerationKey → σ → Except ServiceFault Artifacts × σ
  create : Design → σ → Except ServiceFault StoredDesign × σ
  delete : String → σ → Except ServiceFault Unit × σ

/-- Where the services are and how patiently they are asked. -/
structure RemoteAccess where
  generationUrl : Url
  generationPolicy : RetryPolicy
  storeUrl : Url
  createPolicy : RetryPolicy
  deletePolicy : RetryPolicy

/-- The access that a configuration describes. -/
def Config.remoteAccess (config : Config) : Except ServiceFault RemoteAccess :=
  match config.generationUrl with
  | .error fault => .error fault
  | .ok generationUrl =>
    match config.storeUrl with
    | .error fault => .error fault
    | .ok storeUrl =>
      .ok ⟨generationUrl, config.generation.retryPolicy, storeUrl, config.store.createPolicy,
        config.store.deletePolicy⟩

/-- The artifacts in the body of an answer. A model without an address is no
model. -/
def readArtifacts (body : String) : Except ServiceFault Artifacts :=
  match Artifacts.ofText? body with
  | none => .error (.deserializationFailed "the answer is not understood")
  | some artifacts =>
    if artifacts.glbUrl.isEmpty then
      .error (.deserializationFailed "generation response has an empty glb_url")
    else .ok artifacts

/-- The stored design in the body of an answer. -/
def readStored (body : String) : Except ServiceFault StoredDesign :=
  match StoredDesign.ofText? body with
  | none => .error (.deserializationFailed "the answer is not understood")
  | some stored => .ok stored

namespace RemoteAccess

/-- The request for a model. -/
def generateRequest (access : RemoteAccess) (key : GenerationKey) : ServiceRequest :=
  ⟨.post, access.generationUrl,
    some (.obj [("prompt", .str key.canonicalCode), ("closed", .bool key.closed)])⟩

/-- The request to store a design. -/
def createRequest (access : RemoteAccess) (design : Design) : ServiceRequest :=
  ⟨.post, access.storeUrl, some design.toJson⟩

/-- The URL of a stored design: its id is one more segment. -/
def recordUrl (access : RemoteAccess) (id : String) : Url := access.storeUrl.push id.toList

/-- The request to remove a stored design. -/
def deleteRequest (access : RemoteAccess) (id : String) : ServiceRequest :=
  ⟨.delete, access.recordUrl id, none⟩

/-- The services as a server provides them to a client. Without an id there is
nothing to remove, and no request goes out. -/
def services (access : RemoteAccess) (client : Client) (server : Server) : Services History where
  generate key history :=
    client.call server access.generationPolicy (Reply.read readArtifacts)
      (access.generateRequest key) history
  create design history :=
    client.call server access.createPolicy (Reply.read readStored) (access.createRequest design)
      history
  delete id history :=
    if id.isEmpty then (.error (.invalidUrl "configuration id is empty"), history)
    else
      client.call server access.deletePolicy Reply.acknowledge (access.deleteRequest id) history

end RemoteAccess

end Joinery
