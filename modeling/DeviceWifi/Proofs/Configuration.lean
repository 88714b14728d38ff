/-
Module: DeviceWifi.Proofs.Configuration
Layer: Proofs
Purpose: The generated endpoint configuration, the dispatcher and the application agree. The dispatcher has
  a case for exactly the commands the configuration accepts, and each case is one command's own; the
  measurement clusters stand on exactly the endpoints the application publishes, in every run, and the
  On/Off cluster on exactly the loads' endpoints and the endpoint of the board's LED.
Imports: Mathlib.Data.List.Nodup, DeviceWifi.Proofs.Commands,
  DeviceWifi.Proofs.Confined
Trusted boundary: none (fully proved)
Main exports: dispatched_injective, declared_of_reachable, configuration_agrees
Open obligations: none
-/
import Mathlib.Data.List.Nodup
import DeviceWifi.Proofs.Commands
import DeviceWifi.Proofs.Confined

namespace DeviceWifi

open Reactive

/-! ### The dispatcher -/

theorem mem_of_lookup {α : Type} {entries : List (UInt32 × α)} {key : UInt32} {value : α}
    (found : entries.lookup key = some value) : (key, value) ∈ entries := by
  obtain ⟨before, behind, rfl, -⟩ := List.lookup_eq_some_iff.mp found
  simp

/-- All cases: a cluster, a command id and the command. -/
def allCases : List ((UInt32 × UInt32) × ServerCommand) :=
  dispatchedClusters.flatMap fun entry =>
    entry.2.map fun (commandId, command) => ((entry.1, commandId), command)

theorem mem_allCases {path : ConcreteCommandPath} {command : ServerCommand}
    (dispatched : dispatched? path = some command) :
    ((path.clusterId, path.commandId), command) ∈ allCases := by
  obtain ⟨cases, known, own⟩ := Option.bind_eq_some_iff.mp dispatched
  refine List.mem_flatMap.mpr ⟨(path.clusterId, cases), mem_of_lookup known, ?_⟩
  exact List.mem_map.mpr ⟨(path.commandId, command), mem_of_lookup own, rfl⟩

theorem nodup_commands : (allCases.map Prod.snd).Nodup := by decide +kernel

/-- No two cases run the same command. -/
theorem dispatched_injective {path path' : ConcreteCommandPath} {command : ServerCommand}
    (dispatched : dispatched? path = some command) (dispatched' : dispatched? path' = some command) :
    path.clusterId = path'.clusterId ∧ path.commandId = path'.commandId := by
  have same := List.inj_on_of_nodup_map nodup_commands (mem_allCases dispatched)
    (mem_allCases dispatched') rfl
  exact Prod.mk.inj (Prod.mk.inj same).1

/-! ### The endpoints -/

theorem mem_fixedEndpointArray {endpoint : UInt16} {clusterId : UInt32}
    (serves : Serves endpoint clusterId) : endpoint ∈ fixedEndpointArray := by
  obtain ⟨cluster, member, -⟩ := serves
  obtain ⟨entry, own, -⟩ := List.mem_flatMap.mp member
  obtain ⟨listed, same⟩ := List.mem_filter.mp own
  rw [← of_decide_eq_true same]
  exact (List.of_mem_zip listed).1

/-- What holds of the endpoints in the array that serve a cluster holds of all that do. -/
theorem of_serves {endpoint : UInt16} {clusterId : UInt32} {p : UInt16 → Prop} [DecidablePred p]
    (listed : fixedEndpointArray.all fun endpoint => decide (Serves endpoint clusterId → p endpoint))
    (serves : Serves endpoint clusterId) : p endpoint :=
  of_decide_eq_true (List.all_eq_true.mp listed endpoint (mem_fixedEndpointArray serves)) serves

theorem serves_onOff_iff (endpoint : UInt16) :
    Serves endpoint onOffClusterId ↔ endpoint = 1 ∨ ∃ e : Actuator, endpoint = e.endpointId := by
  constructor
  · intro serves
    have own := of_serves (p := fun endpoint => endpoint = 1 ∨
      ∃ e ∈ [Actuator.hotLamp, .uvbLamp, .heater, .filter, .feeder], endpoint = e.endpointId)
      (by decide +kernel) serves
    exact own.imp_right fun ⟨e, _, same⟩ => ⟨e, same⟩
  · rintro (rfl | ⟨e, rfl⟩)
    · decide +kernel
    · cases e <;> decide +kernel

theorem serves_temperature_iff (endpoint : UInt16) :
    Serves endpoint temperatureMeasurementClusterId ↔
      ∃ sensor : Sensor, endpoint = sensor.endpoint .ambientTemp := by
  constructor
  · intro serves
    obtain ⟨sensor, -, own⟩ := of_serves (p := fun endpoint =>
      ∃ sensor ∈ [Sensor.hot, .cold, .waterTemp], endpoint = sensor.endpoint .ambientTemp)
      (by decide +kernel) serves
    exact ⟨sensor, own⟩
  · rintro ⟨sensor, rfl⟩
    cases sensor <;> decide +kernel

theorem serves_humidity_iff (endpoint : UInt16) :
    Serves endpoint relativeHumidityMeasurementClusterId ↔
      ∃ sensor : Sensor, .humidity ∈ sensor.channels ∧ endpoint = sensor.endpoint .humidity := by
  constructor
  · intro serves
    obtain ⟨sensor, -, own⟩ := of_serves (p := fun endpoint =>
      ∃ sensor ∈ [Sensor.hot, .cold, .waterTemp],
        .humidity ∈ sensor.channels ∧ endpoint = sensor.endpoint .humidity)
      (by decide +kernel) serves
    exact ⟨sensor, own⟩
  · rintro ⟨sensor, humid, rfl⟩
    cases sensor with
    | waterTemp => exact absurd humid (by decide)
    | hot | cold => decide +kernel

/-! ### Runs -/

theorem declared_of_confined {c : Call} (confined : c.Confined) : c.Declared := by
  cases c with
  | temperatureMeasuredValueSet endpoint value => exact (serves_temperature_iff endpoint).mpr confined
  | humidityMeasuredValueSet endpoint value => exact (serves_humidity_iff endpoint).mpr confined
  | _ => trivial

theorem declared_of_reachable {s : State} (reached : Reachable s) {entry : Entry}
    (member : entry ∈ s.log) {cause : Nat} {c : Call} {r : Response}
    (called : entry.obs = .called cause c r) : c.Declared := by
  obtain ⟨n, found⟩ := List.mem_iff_getElem?.mp member
  obtain ⟨origin, -, licensed⟩ :=
    (provenance_of_reachable reached).called n entry found cause c r called
  exact declared_of_confined (confined_of_licenses licensed)

/-- The generated configuration, the dispatcher and the application agree: on every endpoint the accepted
    commands are the dispatched ones, every cluster the application relies on stands where it relies on
    it, and nowhere else, and in every run only declared attributes are written. -/
theorem configuration_agrees : ConfigurationAgrees where
  accepted _ serves other := accepted_iff_dispatched serves other
  injective _ _ _ dispatched dispatched' := dispatched_injective dispatched dispatched'
  onOff := serves_onOff_iff
  temperature := serves_temperature_iff
  humidity := serves_humidity_iff
  declared _ reached _ member _ _ _ called := declared_of_reachable reached member called

end DeviceWifi
