/-
Module: DeviceWifi.Firmware.EndpointConfig
Layer: Firmware
Purpose: The command part of the generated endpoint configuration (`endpoint_config.h`): one array holds
  the command lists of all clusters, each closed by an end marker; a cluster names its list of accepted
  commands by its index in the array, and an endpoint names its clusters by a range of the cluster table.
Imports: Mathlib.Logic.Basic
Trusted boundary: human-reviewed spec
Main exports: generatedCommands, ClusterSide, EmberAfCluster, generatedClusters, generatedEndpointTypes,
  fixedEndpointArray, fixedEndpointTypes
Open obligations: none
-/
import Mathlib.Logic.Basic

namespace DeviceWifi

/-- A command list as it stands in the array, with its end marker `chip::kInvalidCommandId`. -/
def endedList (commands : List UInt32) : List (Option UInt32) := commands.map some ++ [none]

/-- The lists of an endpoint's Identify cluster. -/
def identifyLists : List (Option UInt32) := endedList [0x00, 0x40]

/-- The lists of an endpoint with Identify, Groups, Scenes and On/Off clusters, in that order. -/
def onOffEndpointLists : List (Option UInt32) :=
  identifyLists ++
    endedList [0x00, 0x01, 0x02, 0x03, 0x04, 0x05] ++
    endedList [0x00, 0x01, 0x02, 0x03] ++
    endedList [0x00, 0x01, 0x02, 0x03, 0x04, 0x05, 0x06] ++
    endedList [0x00, 0x01, 0x02, 0x03, 0x04, 0x06] ++
    endedList [0x00, 0x01, 0x02, 0x40, 0x41, 0x42]

/-- `GENERATED_COMMANDS`. -/
def generatedCommands : List (Option UInt32) :=
  -- OTA Software Update Requestor, General Commissioning
  endedList [0x00] ++
    endedList [0x00, 0x02, 0x04] ++ endedList [0x01, 0x03, 0x05] ++
    -- Network Commissioning
    endedList [0x00, 0x02, 0x03, 0x04, 0x06, 0x08] ++ endedList [0x01, 0x05, 0x07] ++
    -- General Diagnostics, Thread Network Diagnostics, Administrator Commissioning
    endedList [0x00] ++
    endedList [0x00] ++
    endedList [0x00, 0x01, 0x02] ++
    -- Operational Credentials
    endedList [0x00, 0x02, 0x04, 0x06, 0x07, 0x09, 0x0A, 0x0B] ++
    endedList [0x01, 0x03, 0x05, 0x08] ++
    -- Group Key Management
    endedList [0x00, 0x01, 0x03, 0x04] ++ endedList [0x02, 0x05] ++
    -- endpoint 1, with Level Control
    onOffEndpointLists ++ endedList [0x00, 0x01, 0x02, 0x03, 0x04, 0x05, 0x06, 0x07] ++
    -- endpoints 2 to 6
    onOffEndpointLists ++ onOffEndpointLists ++ onOffEndpointLists ++ onOffEndpointLists ++
    onOffEndpointLists ++
    -- endpoints 7 to 11
    identifyLists ++ identifyLists ++ identifyLists ++ identifyLists ++ identifyLists

/-- `ZAP_CLUSTER_MASK(SERVER)` and `ZAP_CLUSTER_MASK(CLIENT)`. -/
inductive ClusterSide where
  | server | client
deriving DecidableEq, Repr

/-- An entry of the cluster table: the fields that concern its accepted commands. -/
structure EmberAfCluster where
  clusterId : UInt32
  side : ClusterSide
  acceptedCommandList : Option Nat
deriving DecidableEq, Repr

/-- `GENERATED_CLUSTERS`. -/
def generatedClusters : List EmberAfCluster :=
  -- Endpoint: 0
  [⟨0x001D, .server, none⟩, ⟨0x001F, .server, none⟩, ⟨0x0028, .server, none⟩,
   ⟨0x0029, .client, none⟩, ⟨0x002A, .server, some 0⟩, ⟨0x0030, .server, some 2⟩,
   ⟨0x0031, .server, some 10⟩, ⟨0x0033, .server, some 21⟩, ⟨0x0034, .server, none⟩,
   ⟨0x0035, .server, some 23⟩, ⟨0x0036, .server, none⟩, ⟨0x003C, .server, some 25⟩,
   ⟨0x003E, .server, some 29⟩, ⟨0x003F, .server, some 43⟩,
   -- Endpoint: 1
   ⟨0x0003, .server, some 51⟩, ⟨0x0004, .server, some 54⟩, ⟨0x0005, .server, some 66⟩,
   ⟨0x0006, .server, some 81⟩, ⟨0x0008, .server, some 88⟩, ⟨0x001D, .server, none⟩,
   -- Endpoint: 2
   ⟨0x0003, .server, some 97⟩, ⟨0x0004, .server, some 100⟩, ⟨0x0005, .server, some 112⟩,
   ⟨0x0006, .server, some 127⟩, ⟨0x001D, .server, none⟩,
   -- Endpoint: 3
   ⟨0x0003, .server, some 134⟩, ⟨0x0004, .server, some 137⟩, ⟨0x0005, .server, some 149⟩,
   ⟨0x0006, .server, some 164⟩, ⟨0x001D, .server, none⟩,
   -- Endpoint: 4
   ⟨0x0003, .server, some 171⟩, ⟨0x0004, .server, some 174⟩, ⟨0x0005, .server, some 186⟩,
   ⟨0x0006, .server, some 201⟩, ⟨0x001D, .server, none⟩,
   -- Endpoint: 5
   ⟨0x0003, .server, some 208⟩, ⟨0x0004, .server, some 211⟩, ⟨0x0005, .server, some 223⟩,
   ⟨0x0006, .server, some 238⟩, ⟨0x001D, .server, none⟩,
   -- Endpoint: 6
   ⟨0x0003, .server, some 245⟩, ⟨0x0004, .server, some 248⟩, ⟨0x0005, .server, some 260⟩,
   ⟨0x0006, .server, some 275⟩, ⟨0x001D, .server, none⟩,
   -- Endpoint: 7
   ⟨0x0003, .server, some 282⟩, ⟨0x001D, .server, none⟩, ⟨0x0402, .server, none⟩,
   -- Endpoint: 8
   ⟨0x0003, .server, some 285⟩, ⟨0x001D, .server, none⟩, ⟨0x0405, .server, none⟩,
   -- Endpoint: 9
   ⟨0x0003, .server, some 288⟩, ⟨0x001D, .server, none⟩, ⟨0x0402, .server, none⟩,
   -- Endpoint: 10
   ⟨0x0003, .server, some 291⟩, ⟨0x001D, .server, none⟩, ⟨0x0405, .server, none⟩,
   -- Endpoint: 11
   ⟨0x0003, .server, some 294⟩, ⟨0x001D, .server, none⟩, ⟨0x0402, .server, none⟩]

/-- `GENERATED_ENDPOINT_TYPES`: the index of an endpoint type's first cluster, and their number. -/
def generatedEndpointTypes : List (Nat × Nat) :=
  [(0, 14), (14, 6), (20, 5), (25, 5), (30, 5), (35, 5), (40, 5), (45, 3), (48, 3), (51, 3), (54, 3),
   (57, 3)]

/-- `FIXED_ENDPOINT_ARRAY`. -/
def fixedEndpointArray : List UInt16 := [0, 1, 2, 3, 4, 5, 6, 7, 8, 9, 10, 11]

/-- `FIXED_ENDPOINT_TYPES`. -/
def fixedEndpointTypes : List Nat := [0, 1, 2, 3, 4, 5, 6, 7, 8, 9, 10, 11]

end DeviceWifi
