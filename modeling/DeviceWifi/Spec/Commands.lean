/-
Module: DeviceWifi.Spec.Commands
Layer: Spec
Purpose: What the dispatcher of commands owes its clients, and what the endpoint configuration promises
  them. Each request of a sequence is answered once, in order: with an unsupported status when the
  dispatcher has no case for it, with an invalid-command status when its data are malformed or its
  callback does not handle it, and else by its callback. What the configuration says of an endpoint is
  read off the generated tables. When these are generated anew, the commands they accept have to agree
  with the cases of the dispatcher, and the endpoints of their clusters with those the application
  listens to and writes.
Imports: DeviceWifi.Firmware.CommandDispatch, DeviceWifi.Firmware.EndpointConfig,
  DeviceWifi.Firmware.System, DeviceWifi.Spec.Readings
Trusted boundary: human-reviewed spec
Main exports: EmberAfCluster.acceptedCommands, Serves, Accepts, dispatched?, ClusterServers.Responds,
  CommandRequest.AnsweredBy, CommandRequest.serve, Answered, dispatchAll, Call.Declared,
  ConfigurationAgrees
Open obligations: none
-/
import DeviceWifi.Firmware.CommandDispatch
import DeviceWifi.Firmware.EndpointConfig
import DeviceWifi.Firmware.System
import DeviceWifi.Spec.Readings

namespace DeviceWifi

/-! ### The configuration -/

/-- A list of the command array: what stands before its end marker. -/
def upToEnd : List (Option UInt32) → List UInt32
  | some command :: rest => command :: upToEnd rest
  | _ => []

/-- The commands a cluster accepts. -/
def EmberAfCluster.acceptedCommands (cluster : EmberAfCluster) : List UInt32 :=
  match cluster.acceptedCommandList with
  | some index => upToEnd (generatedCommands.drop index)
  | none => []

/-- The clusters of an endpoint. -/
def endpointClusters (endpoint : UInt16) : List EmberAfCluster :=
  ((fixedEndpointArray.zip fixedEndpointTypes).filter (·.1 = endpoint)).flatMap fun entry =>
    match generatedEndpointTypes[entry.2]? with
    | some (first, count) => (generatedClusters.drop first).take count
    | none => []

/-- The endpoint has the server side of the cluster. -/
def Serves (endpoint : UInt16) (clusterId : UInt32) : Prop :=
  ∃ cluster ∈ endpointClusters endpoint, cluster.side = .server ∧ cluster.clusterId = clusterId

/-- The configuration accepts the command: the cluster is served on the endpoint, with the command among
    those it accepts. -/
def Accepts (path : ConcreteCommandPath) : Prop :=
  ∃ cluster ∈ endpointClusters path.endpointId, cluster.side = .server ∧
    cluster.clusterId = path.clusterId ∧ path.commandId ∈ cluster.acceptedCommands

instance (endpoint : UInt16) (clusterId : UInt32) : Decidable (Serves endpoint clusterId) :=
  inferInstanceAs (Decidable (∃ cluster ∈ endpointClusters endpoint, _))

instance (path : ConcreteCommandPath) : Decidable (Accepts path) :=
  inferInstanceAs (Decidable (∃ cluster ∈ endpointClusters path.endpointId, _))

/-- The Network Commissioning cluster, whose commands another part of the SDK takes before they reach the
    dispatcher. -/
def networkCommissioningId : UInt32 := 0x0031

/-! ### The dispatcher -/

/-- The dispatched clusters with the cases of their commands. -/
def dispatchedClusters : List (UInt32 × CommandCases) :=
  [(Clusters.AdministratorCommissioning.id, Clusters.AdministratorCommissioning.cases),
   (Clusters.GeneralCommissioning.id, Clusters.GeneralCommissioning.cases),
   (Clusters.GeneralDiagnostics.id, Clusters.GeneralDiagnostics.cases),
   (Clusters.GroupKeyManagement.id, Clusters.GroupKeyManagement.cases),
   (Clusters.Groups.id, Clusters.Groups.cases),
   (Clusters.Identify.id, Clusters.Identify.cases),
   (Clusters.LevelControl.id, Clusters.LevelControl.cases),
   (Clusters.OtaSoftwareUpdateRequestor.id, Clusters.OtaSoftwareUpdateRequestor.cases),
   (Clusters.OnOff.id, Clusters.OnOff.cases),
   (Clusters.OperationalCredentials.id, Clusters.OperationalCredentials.cases),
   (Clusters.Scenes.id, Clusters.Scenes.cases),
   (Clusters.ThreadNetworkDiagnostics.id, Clusters.ThreadNetworkDiagnostics.cases)]

/-- The command a path is dispatched to. -/
def dispatched? (path : ConcreteCommandPath) : Option ServerCommand :=
  (dispatchedClusters.lookup path.clusterId).bind fun cases => cases.lookup path.commandId

/-- A command to invoke, with its encoded data. -/
structure CommandRequest (Tlv : Type) where
  path : ConcreteCommandPath
  data : Tlv

section Requests

variable {Servers Tlv Data Payload : Type}

/-- The contract of the callbacks: a callback that handles its command responds to it once, and one that
    does not adds no response. -/
def ClusterServers.Responds (sdk : ClusterServers Servers Tlv Data Payload) : Prop :=
  ∀ command path data servers,
    match sdk.callback command path data servers with
    | (true, responses, _) => ∃ payload, responses = [⟨path, .callback payload⟩]
    | (false, responses, _) => responses = []

/-- The response is the one the request should get from the servers as they are. -/
def CommandRequest.AnsweredBy (sdk : ClusterServers Servers Tlv Data Payload) (servers : Servers)
    (request : CommandRequest Tlv) (response : CommandResponse Payload) : Prop :=
  response.path = request.path ∧
    match dispatchedClusters.lookup request.path.clusterId, dispatched? request.path with
    | none, _ => response.content = .status .unsupportedCluster
    | some _, none => response.content = .status .unsupportedCommand
    | some _, some command =>
        let (error, commandData) := sdk.decode command request.data
        if error = chipNoError then
          match sdk.callback command request.path commandData servers with
          | (true, responses, _) => responses = [response]
          | (false, _, _) => response.content = .status .invalidCommand
        else response.content = .status .invalidCommand

/-- What a request does to the cluster servers: its callback runs when it is dispatched and well formed. -/
def CommandRequest.serve (sdk : ClusterServers Servers Tlv Data Payload)
    (request : CommandRequest Tlv) (servers : Servers) : Servers :=
  match dispatched? request.path with
  | some command =>
      let (error, commandData) := sdk.decode command request.data
      if error = chipNoError then (sdk.callback command request.path commandData servers).2.2
      else servers
  | none => servers

/-- The requests are answered in order, one response for each, and the last of them leaves the servers. -/
inductive Answered (sdk : ClusterServers Servers Tlv Data Payload) :
    Servers → List (CommandRequest Tlv) → List (CommandResponse Payload) → Servers → Prop where
  | nil (servers : Servers) : Answered sdk servers [] [] servers
  | cons {servers left : Servers} {request : CommandRequest Tlv} {response : CommandResponse Payload}
      {requests : List (CommandRequest Tlv)} {responses : List (CommandResponse Payload)}
      (first : request.AnsweredBy sdk servers response)
      (rest : Answered sdk (request.serve sdk servers) requests responses left) :
      Answered sdk servers (request :: requests) (response :: responses) left

/-- The command object and the servers after an action. -/
def Dispatching.after (s : Dispatching Servers Payload)
    (action : StateM (Dispatching Servers Payload) Unit) : Dispatching Servers Payload :=
  (Id.run (action.run s)).2

/-- Dispatch a sequence of requests. -/
def dispatchAll (sdk : ClusterServers Servers Tlv Data Payload) (requests : List (CommandRequest Tlv)) :
    StateM (Dispatching Servers Payload) Unit :=
  requests.forM fun request => dispatchSingleClusterCommand sdk request.path request.data

end Requests

/-! ### The application -/

/-- The attribute a call writes belongs to a cluster its endpoint serves. -/
def Call.Declared : Call → Prop
  | .temperatureMeasuredValueSet endpoint _ => Serves endpoint temperatureMeasurementClusterId
  | .humidityMeasuredValueSet endpoint _ => Serves endpoint relativeHumidityMeasurementClusterId
  | _ => True

/-- The configuration, the dispatcher and the application agree. -/
structure ConfigurationAgrees : Prop where
  /-- A served cluster accepts the commands the dispatcher has a case for; Network Commissioning is
      dispatched elsewhere. -/
  accepted (path : ConcreteCommandPath) (serves : Serves path.endpointId path.clusterId)
    (other : path.clusterId ≠ networkCommissioningId) : Accepts path ↔ (dispatched? path).isSome
  /-- No two cases run the same command. -/
  injective (path path' : ConcreteCommandPath) (command : ServerCommand)
    (dispatched : dispatched? path = some command) (dispatched' : dispatched? path' = some command) :
    path.clusterId = path'.clusterId ∧ path.commandId = path'.commandId
  /-- On/Off stands on the loads' endpoints and on the one the application ignores. -/
  onOff (endpoint : UInt16) :
    Serves endpoint onOffClusterId ↔ endpoint = 1 ∨ ∃ e : Actuator, endpoint = e.endpointId
  /-- The measurements stand on the endpoints of the sensors' channels. -/
  temperature (endpoint : UInt16) :
    Serves endpoint temperatureMeasurementClusterId ↔
      ∃ sensor : Sensor, endpoint = sensor.endpoint .ambientTemp
  humidity (endpoint : UInt16) :
    Serves endpoint relativeHumidityMeasurementClusterId ↔
      ∃ sensor : Sensor, .humidity ∈ sensor.channels ∧ endpoint = sensor.endpoint .humidity
  /-- In every run, every attribute the application writes is declared. -/
  declared (s : State) (reached : Reachable s) (entry : Entry) (member : entry ∈ s.log) (cause : Nat)
    (c : Call) (r : Response) (called : entry.obs = .called cause c r) : c.Declared

end DeviceWifi
