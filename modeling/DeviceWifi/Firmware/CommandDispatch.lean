/-
Module: DeviceWifi.Firmware.CommandDispatch
Layer: Firmware
Purpose: How a Matter command reaches its cluster server (`IMClusterCommandHandler.cpp`). The dispatch
  functions of the clusters differ only in the cases of their switch, so they are one function applied to
  a table of cases. Decoding and the callbacks belong to the SDK and are a parameter.
Imports: DeviceWifi.Firmware.Init, DeviceWifi.Firmware.ZclCallbacks
Trusted boundary: human-reviewed spec
Main exports: ConcreteCommandPath, ServerCommand, ClusterServers, dispatchServerCommand,
  dispatchSingleClusterCommand
Open obligations: none
-/
import DeviceWifi.Firmware.Init
import DeviceWifi.Firmware.ZclCallbacks

namespace DeviceWifi

/-- `chip::app::ConcreteCommandPath`. -/
structure ConcreteCommandPath where
  endpointId : UInt16
  clusterId : UInt32
  commandId : UInt32
deriving DecidableEq, Repr

/-- The `Protocols::InteractionModel::Status` values the dispatcher adds. -/
inductive Status where
  | invalidCommand | unsupportedCommand | unsupportedCluster
deriving DecidableEq, Repr

/-- The commands with a callback, `emberAf<Cluster>Cluster<Command>Callback`, cluster by cluster. -/
inductive ServerCommand where
  | openCommissioningWindow | openBasicCommissioningWindow | revokeCommissioning
  | armFailSafe | setRegulatoryConfig | commissioningComplete
  | testEventTrigger
  | keySetWrite | keySetRead | keySetRemove | keySetReadAllIndices
  | addGroup | viewGroup | getGroupMembership | removeGroup | removeAllGroups | addGroupIfIdentifying
  | identify | triggerEffect
  | moveToLevel | move | step | stop | moveToLevelWithOnOff | moveWithOnOff | stepWithOnOff
  | stopWithOnOff
  | announceOTAProvider
  | off | on | toggle | offWithEffect | onWithRecallGlobalScene | onWithTimedOff
  | attestationRequest | certificateChainRequest | csrRequest | addNOC | updateNOC
  | updateFabricLabel | removeFabric | addTrustedRootCertificate
  | addScene | viewScene | removeScene | removeAllScenes | storeScene | recallScene
  | getSceneMembership
  | resetCounts
deriving DecidableEq, Repr

/-- What a response carries: a status, or what a callback responds with. -/
inductive ResponseContent (Payload : Type) where
  | status (status : Status)
  | callback (payload : Payload)

/-- A response of the command object. -/
structure CommandResponse (Payload : Type) where
  path : ConcreteCommandPath
  content : ResponseContent Payload

/-- The SDK behind the dispatcher. -/
structure ClusterServers (Servers Tlv Data Payload : Type) where
  /-- `DataModel::Decode` into the command's `DecodableType`: the `CHIP_ERROR` and the data. -/
  decode : ServerCommand → Tlv → Int × Data
  /-- The callback of a command: whether it handled the command, the responses it added, and the servers
      it leaves. -/
  callback : ServerCommand → ConcreteCommandPath → Data → Servers →
    Bool × List (CommandResponse Payload) × Servers

/-- The responses collected in the command object, and the cluster servers. -/
structure Dispatching (Servers Payload : Type) where
  commandObj : List (CommandResponse Payload)
  servers : Servers

/-- The cases of a `DispatchServerCommand`: command ids and the command each of them decodes and runs. -/
abbrev CommandCases := List (UInt32 × ServerCommand)

variable {Servers Tlv Data Payload : Type}

/-- `CommandHandler::AddStatus`. -/
def addStatus (path : ConcreteCommandPath) (status : Status) :
    StateM (Dispatching Servers Payload) Unit :=
  modify fun s => { s with commandObj := s.commandObj ++ [⟨path, .status status⟩] }

/-- Run a command's callback. -/
def runCallback (sdk : ClusterServers Servers Tlv Data Payload) (command : ServerCommand)
    (path : ConcreteCommandPath) (commandData : Data) :
    StateM (Dispatching Servers Payload) Bool :=
  modifyGet fun s =>
    let (wasHandled, responses, servers) := sdk.callback command path commandData s.servers
    (wasHandled, ⟨s.commandObj ++ responses, servers⟩)

/-- `DispatchServerCommand` with the given cases. -/
def dispatchServerCommand (cases : CommandCases) (sdk : ClusterServers Servers Tlv Data Payload)
    (path : ConcreteCommandPath) (dataTlv : Tlv) : StateM (Dispatching Servers Payload) Unit := do
  let mut tlvError := chipNoError
  let mut wasHandled := false
  match cases.lookup path.commandId with
  | some command =>
      let (error, commandData) := sdk.decode command dataTlv
      tlvError := error
      if tlvError = chipNoError then
        wasHandled ← runCallback sdk command path commandData
  | none =>
      -- Unrecognized command ID, error status will apply.
      addStatus path .unsupportedCommand
      return
  if chipNoError ≠ tlvError ∨ ¬ wasHandled then
    addStatus path .invalidCommand

/-! ### The clusters -/

namespace Clusters

namespace AdministratorCommissioning

def id : UInt32 := 0x003C

def cases : CommandCases :=
  [(0x00, .openCommissioningWindow), (0x01, .openBasicCommissioningWindow),
   (0x02, .revokeCommissioning)]

def dispatchServerCommand (sdk : ClusterServers Servers Tlv Data Payload) :=
  DeviceWifi.dispatchServerCommand cases sdk

end AdministratorCommissioning

namespace GeneralCommissioning

def id : UInt32 := 0x0030

def cases : CommandCases :=
  [(0x00, .armFailSafe), (0x02, .setRegulatoryConfig), (0x04, .commissioningComplete)]

def dispatchServerCommand (sdk : ClusterServers Servers Tlv Data Payload) :=
  DeviceWifi.dispatchServerCommand cases sdk

end GeneralCommissioning

namespace GeneralDiagnostics

def id : UInt32 := 0x0033

def cases : CommandCases := [(0x00, .testEventTrigger)]

def dispatchServerCommand (sdk : ClusterServers Servers Tlv Data Payload) :=
  DeviceWifi.dispatchServerCommand cases sdk

end GeneralDiagnostics

namespace GroupKeyManagement

def id : UInt32 := 0x003F

def cases : CommandCases :=
  [(0x00, .keySetWrite), (0x01, .keySetRead), (0x03, .keySetRemove),
   (0x04, .keySetReadAllIndices)]

def dispatchServerCommand (sdk : ClusterServers Servers Tlv Data Payload) :=
  DeviceWifi.dispatchServerCommand cases sdk

end GroupKeyManagement

namespace Groups

def id : UInt32 := 0x0004

def cases : CommandCases :=
  [(0x00, .addGroup), (0x01, .viewGroup), (0x02, .getGroupMembership), (0x03, .removeGroup),
   (0x04, .removeAllGroups), (0x05, .addGroupIfIdentifying)]

def dispatchServerCommand (sdk : ClusterServers Servers Tlv Data Payload) :=
  DeviceWifi.dispatchServerCommand cases sdk

end Groups

namespace Identify

def id : UInt32 := 0x0003

def cases : CommandCases := [(0x00, .identify), (0x40, .triggerEffect)]

def dispatchServerCommand (sdk : ClusterServers Servers Tlv Data Payload) :=
  DeviceWifi.dispatchServerCommand cases sdk

end Identify

namespace LevelControl

def id : UInt32 := 0x0008

def cases : CommandCases :=
  [(0x00, .moveToLevel), (0x01, .move), (0x02, .step), (0x03, .stop),
   (0x04, .moveToLevelWithOnOff), (0x05, .moveWithOnOff), (0x06, .stepWithOnOff),
   (0x07, .stopWithOnOff)]

def dispatchServerCommand (sdk : ClusterServers Servers Tlv Data Payload) :=
  DeviceWifi.dispatchServerCommand cases sdk

end LevelControl

namespace OtaSoftwareUpdateRequestor

def id : UInt32 := 0x002A

def cases : CommandCases := [(0x00, .announceOTAProvider)]

def dispatchServerCommand (sdk : ClusterServers Servers Tlv Data Payload) :=
  DeviceWifi.dispatchServerCommand cases sdk

end OtaSoftwareUpdateRequestor

namespace OnOff

def id : UInt32 := onOffClusterId

def cases : CommandCases :=
  [(0x00, .off), (0x01, .on), (0x02, .toggle), (0x40, .offWithEffect),
   (0x41, .onWithRecallGlobalScene), (0x42, .onWithTimedOff)]

def dispatchServerCommand (sdk : ClusterServers Servers Tlv Data Payload) :=
  DeviceWifi.dispatchServerCommand cases sdk

end OnOff

namespace OperationalCredentials

def id : UInt32 := 0x003E

def cases : CommandCases :=
  [(0x00, .attestationRequest), (0x02, .certificateChainRequest), (0x04, .csrRequest),
   (0x06, .addNOC), (0x07, .updateNOC), (0x09, .updateFabricLabel), (0x0A, .removeFabric),
   (0x0B, .addTrustedRootCertificate)]

def dispatchServerCommand (sdk : ClusterServers Servers Tlv Data Payload) :=
  DeviceWifi.dispatchServerCommand cases sdk

end OperationalCredentials

namespace Scenes

def id : UInt32 := 0x0005

def cases : CommandCases :=
  [(0x00, .addScene), (0x01, .viewScene), (0x02, .removeScene), (0x03, .removeAllScenes),
   (0x04, .storeScene), (0x05, .recallScene), (0x06, .getSceneMembership)]

def dispatchServerCommand (sdk : ClusterServers Servers Tlv Data Payload) :=
  DeviceWifi.dispatchServerCommand cases sdk

end Scenes

namespace ThreadNetworkDiagnostics

def id : UInt32 := 0x0035

def cases : CommandCases := [(0x00, .resetCounts)]

def dispatchServerCommand (sdk : ClusterServers Servers Tlv Data Payload) :=
  DeviceWifi.dispatchServerCommand cases sdk

end ThreadNetworkDiagnostics

end Clusters

/-- `DispatchSingleClusterCommand`. -/
def dispatchSingleClusterCommand (sdk : ClusterServers Servers Tlv Data Payload)
    (path : ConcreteCommandPath) (reader : Tlv) : StateM (Dispatching Servers Payload) Unit :=
  if path.clusterId = Clusters.AdministratorCommissioning.id then
    Clusters.AdministratorCommissioning.dispatchServerCommand sdk path reader
  else if path.clusterId = Clusters.GeneralCommissioning.id then
    Clusters.GeneralCommissioning.dispatchServerCommand sdk path reader
  else if path.clusterId = Clusters.GeneralDiagnostics.id then
    Clusters.GeneralDiagnostics.dispatchServerCommand sdk path reader
  else if path.clusterId = Clusters.GroupKeyManagement.id then
    Clusters.GroupKeyManagement.dispatchServerCommand sdk path reader
  else if path.clusterId = Clusters.Groups.id then
    Clusters.Groups.dispatchServerCommand sdk path reader
  else if path.clusterId = Clusters.Identify.id then
    Clusters.Identify.dispatchServerCommand sdk path reader
  else if path.clusterId = Clusters.LevelControl.id then
    Clusters.LevelControl.dispatchServerCommand sdk path reader
  else if path.clusterId = Clusters.OtaSoftwareUpdateRequestor.id then
    Clusters.OtaSoftwareUpdateRequestor.dispatchServerCommand sdk path reader
  else if path.clusterId = Clusters.OnOff.id then
    Clusters.OnOff.dispatchServerCommand sdk path reader
  else if path.clusterId = Clusters.OperationalCredentials.id then
    Clusters.OperationalCredentials.dispatchServerCommand sdk path reader
  else if path.clusterId = Clusters.Scenes.id then
    Clusters.Scenes.dispatchServerCommand sdk path reader
  else if path.clusterId = Clusters.ThreadNetworkDiagnostics.id then
    Clusters.ThreadNetworkDiagnostics.dispatchServerCommand sdk path reader
  else
    addStatus path .unsupportedCluster

end DeviceWifi
