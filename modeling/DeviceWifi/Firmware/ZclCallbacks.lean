/-
Module: DeviceWifi.Firmware.ZclCallbacks
Layer: Firmware
Purpose: The listener for Matter attribute changes (`zcl_callbacks.cpp`). The callback is kept in the
  shape of the source, five guarded blocks one after the other, each of which may return early or post
  one event; the events it hands to `PostEvent` are collected in order. `attributePosts_onOffPath` and
  `attributePosts_other` say what it posts, so that no later proof unfolds it.
Imports: DeviceWifi.Firmware.AppEvent
Trusted boundary: human-reviewed spec
Main exports: ConcreteAttributePath, matterPostAttributeChangeCallback, attributePosts, Actuator
Open obligations: none
-/
import DeviceWifi.Firmware.AppEvent

namespace DeviceWifi

/-- `chip::app::ConcreteAttributePath`. -/
structure ConcreteAttributePath where
  endpointId : UInt16
  clusterId : UInt32
  attributeId : UInt32
deriving DecidableEq, Repr, Inhabited

/-- `OnOff::Id`. -/
def onOffClusterId : UInt32 := 0x0006

/-- `OnOff::Attributes::OnOff::Id`. -/
def onOffAttributeId : UInt32 := 0x0000

/-- `TemperatureMeasurement::Id`. -/
def temperatureMeasurementClusterId : UInt32 := 0x0402

/-- `RelativeHumidityMeasurement::Id`. -/
def relativeHumidityMeasurementClusterId : UInt32 := 0x0405

/-- `MeasuredValue::Id`, the same in both measurement clusters. -/
def measuredValueAttributeId : UInt32 := 0x0000

/-- Hand an event to `AppTask::PostEvent`. -/
def callPostEvent (event : AppEvent) : StateM (List AppEvent) Unit :=
  modify (· ++ [event])

/-- `MatterPostAttributeChangeCallback`; `value` is the byte `*value`, the only one it reads. -/
def matterPostAttributeChangeCallback (attributePath : ConcreteAttributePath) (value : UInt8) :
    StateM (List AppEvent) Unit := do
  -- DK LED
  if attributePath.endpointId = 1 then
    return
  -- HOT-LAMP
  if attributePath.endpointId = 2 then
    if attributePath.clusterId ≠ onOffClusterId ∨ attributePath.attributeId ≠ onOffAttributeId then
      return
    callPostEvent <|
      if value ≠ 0 then
        { type := .hotLampActivate, handler := some .hotLampActivateHandler }
      else
        { type := .hotLampDeactivate, handler := some .hotLampDeactivateHandler }
  -- UVB LAMP
  if attributePath.endpointId = 3 then
    if attributePath.clusterId ≠ onOffClusterId ∨ attributePath.attributeId ≠ onOffAttributeId then
      return
    callPostEvent <|
      if value ≠ 0 then
        { type := .uvbLampActivate, handler := some .uvbLampActivateHandler }
      else
        { type := .uvbLampDeactivate, handler := some .uvbLampDeactivateHandler }
  -- HEATER
  if attributePath.endpointId = 4 then
    if attributePath.clusterId ≠ onOffClusterId ∨ attributePath.attributeId ≠ onOffAttributeId then
      return
    callPostEvent <|
      if value ≠ 0 then
        { type := .heaterActivate, handler := some .heaterActivateHandler }
      else
        { type := .heaterDeactivate, handler := some .heaterDeactivateHandler }
  -- FILTER
  if attributePath.endpointId = 5 then
    if attributePath.clusterId ≠ onOffClusterId ∨ attributePath.attributeId ≠ onOffAttributeId then
      return
    callPostEvent <|
      if value ≠ 0 then
        { type := .filterActivate, handler := some .filterActivateHandler }
      else
        { type := .filterDeactivate, handler := some .filterDeactivateHandler }
  -- FEEDER
  if attributePath.endpointId = 6 then
    if attributePath.clusterId ≠ onOffClusterId ∨ attributePath.attributeId ≠ onOffAttributeId then
      return
    callPostEvent <|
      if value ≠ 0 then
        { type := .feederActivate, handler := some .feederActivateHandler }
      else
        { type := .feederDeactivate, handler := some .feederDeactivateHandler }

/-- The events one call of the callback hands to `PostEvent`, in order. -/
def attributePosts (attributePath : ConcreteAttributePath) (value : UInt8) : List AppEvent :=
  (Id.run ((matterPostAttributeChangeCallback attributePath value).run [])).2

/-! ### What the callback posts -/

/-- The loads switched by an OnOff attribute, in the order of their endpoints. -/
inductive Actuator where
  | hotLamp | uvbLamp | heater | filter | feeder
deriving DecidableEq, Repr

/-- The endpoint whose OnOff attribute controls a load. -/
def Actuator.endpointId : Actuator → UInt16
  | .hotLamp => 2
  | .uvbLamp => 3
  | .heater => 4
  | .filter => 5
  | .feeder => 6

/-- The attribute path `OnOff::OnOff` on the load's endpoint. -/
def Actuator.onOffPath (e : Actuator) : ConcreteAttributePath :=
  { endpointId := e.endpointId, clusterId := onOffClusterId, attributeId := onOffAttributeId }

/-- The event that asks the main loop to switch a load. -/
def Actuator.event : Actuator → Bool → AppEvent
  | .hotLamp, true => { type := .hotLampActivate, handler := some .hotLampActivateHandler }
  | .hotLamp, false => { type := .hotLampDeactivate, handler := some .hotLampDeactivateHandler }
  | .uvbLamp, true => { type := .uvbLampActivate, handler := some .uvbLampActivateHandler }
  | .uvbLamp, false => { type := .uvbLampDeactivate, handler := some .uvbLampDeactivateHandler }
  | .heater, true => { type := .heaterActivate, handler := some .heaterActivateHandler }
  | .heater, false => { type := .heaterDeactivate, handler := some .heaterDeactivateHandler }
  | .filter, true => { type := .filterActivate, handler := some .filterActivateHandler }
  | .filter, false => { type := .filterDeactivate, handler := some .filterDeactivateHandler }
  | .feeder, true => { type := .feederActivate, handler := some .feederActivateHandler }
  | .feeder, false => { type := .feederDeactivate, handler := some .feederDeactivateHandler }

/-- The truth value of an OnOff byte. -/
def isOn (value : UInt8) : Bool := value != 0

/-- The OnOff path identifies its load. -/
theorem Actuator.onOffPath_injective {e e' : Actuator} (same : e.onOffPath = e'.onOffPath) :
    e = e' := by
  have endpoints : e.endpointId = e'.endpointId := congrArg (·.endpointId) same
  cases e <;> cases e' <;> first | rfl | exact absurd endpoints (by decide)

/-- A change of a load's OnOff attribute posts exactly that load's event. -/
theorem attributePosts_onOffPath (e : Actuator) (value : UInt8) :
    attributePosts e.onOffPath value = [e.event (isOn value)] := by
  by_cases off : value = 0
  · have truth : isOn value = false := by simp [isOn, off]
    rw [truth]
    cases e <;>
      simp [attributePosts, matterPostAttributeChangeCallback, callPostEvent, Actuator.onOffPath,
        Actuator.endpointId, Actuator.event, off]
  · have truth : isOn value = true := by simp [isOn, off]
    rw [truth]
    cases e <;>
      simp [attributePosts, matterPostAttributeChangeCallback, callPostEvent, Actuator.onOffPath,
        Actuator.endpointId, Actuator.event, off]

/-- A change of any other attribute posts nothing: on a load's endpoint the cluster and attribute
    guard returns early, and no block is entered on another endpoint. -/
theorem attributePosts_other {path : ConcreteAttributePath} (value : UInt8)
    (other : ∀ e : Actuator, path ≠ e.onOffPath) : attributePosts path value = [] := by
  obtain ⟨endpoint, cluster, attr⟩ := path
  by_cases load : ∃ e : Actuator, endpoint = e.endpointId
  · obtain ⟨e, rfl⟩ := load
    have guarded : cluster ≠ onOffClusterId ∨ attr ≠ onOffAttributeId := by
      rw [← not_and_or]
      rintro ⟨rfl, rfl⟩
      exact other e rfl
    cases e <;>
      simp [attributePosts, matterPostAttributeChangeCallback, Actuator.endpointId, guarded]
  · have notLoad : ∀ e : Actuator, endpoint ≠ e.endpointId := fun e same => load ⟨e, same⟩
    have h2 : endpoint ≠ 2 := notLoad .hotLamp
    have h3 : endpoint ≠ 3 := notLoad .uvbLamp
    have h4 : endpoint ≠ 4 := notLoad .heater
    have h5 : endpoint ≠ 5 := notLoad .filter
    have h6 : endpoint ≠ 6 := notLoad .feeder
    simp [attributePosts, matterPostAttributeChangeCallback, h2, h3, h4, h5, h6]

end DeviceWifi
