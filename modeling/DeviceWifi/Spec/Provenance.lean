/-
Module: DeviceWifi.Spec.Provenance
Layer: Spec
Purpose: Where effects come from. The environment acts on the device by occurrences: a command stored by
  the Matter thread, an expiry, an edge of the button, an update of an LED widget. An occurrence licenses
  the SDK calls that are its purpose and no others, whichever queue and handler lie in between.
Imports: DeviceWifi.Spec.Sequential, DeviceWifi.Spec.History, DeviceWifi.Spec.Readings, DeviceWifi.Spec.Feeder
Trusted boundary: human-reviewed spec
Main exports: Licenses, CallsLicensed, Obs.events, callPairs
Open obligations: none
-/
import DeviceWifi.Spec.Sequential
import DeviceWifi.Spec.History
import DeviceWifi.Spec.Readings
import DeviceWifi.Spec.Feeder

namespace DeviceWifi

open Reactive

/-! ### What an occurrence is for -/

/-- An occurrence licenses a call. -/
inductive Licenses : Obs → Call → Prop where
  /-- A command for a load with a relay sets that relay to its level. -/
  | relay (e : Actuator) (spec : GpioSpec) (value : UInt8) (switched : e.relay? = some spec) :
      Licenses (.written e.onOffPath value) (.gpioPinSetDt spec (level (isOn value)))
  /-- A command for the feeder drives the servo and starts or stops the monostable timer. -/
  | feeder (value : UInt8) (c : Call) (own : c = feederDrive (isOn value) ∨ c = feederTimer (isOn value)) :
      Licenses (.written Actuator.feeder.onOffPath value) c
  /-- The end of a feeding time stops both. -/
  | feederOff (c : Call) (own : c = feederDrive false ∨ c = feederTimer false) :
      Licenses (.expired .sFeederMonoTimer) c
  /-- The sensor timer has every sensor read and published on its own endpoints. -/
  | fetch (sensor : Sensor) : Licenses (.expired .sSensorTimer) (.sensorSampleFetch sensor.device)
  | read (sensor : Sensor) (chan : SensorChannel) (reads : chan ∈ sensor.channels) :
      Licenses (.expired .sSensorTimer) (.sensorChannelGet sensor.device chan)
  | publishTemperature (sensor : Sensor) (value : Int16) :
      Licenses (.expired .sSensorTimer)
        (.temperatureMeasuredValueSet (sensor.endpoint .ambientTemp) value)
  | publishHumidity (sensor : Sensor) (value : UInt16) (reads : .humidity ∈ sensor.channels) :
      Licenses (.expired .sSensorTimer) (.humidityMeasuredValueSet (sensor.endpoint .humidity) value)
  /-- A push starts the function timer. -/
  | push :
      Licenses (.edge true) (.kTimerStart .sFunctionTimer kFactoryResetTriggerTimeout 0)
  /-- A release takes the announcement of a reset back and stops the timer. -/
  | release (c : Call) (own : c.site ∈ FunctionInput.release.sites) : Licenses (.edge false) c
  /-- An expiry of the function timer announces a factory reset and schedules it. -/
  | reset (c : Call) (own : c ∈ FunctionInput.timer.sites) : Licenses (.expired .sFunctionTimer) c
  /-- An update of an LED widget updates that widget. -/
  | ledUpdate (ledWidget : Nat) :
      Licenses (.ledUpdate ledWidget) (.ledWidgetUpdateState ledWidget)

/-- Every call so far was made for an earlier occurrence that licenses it. -/
def CallsLicensed (log : List Entry) : Prop :=
  ∀ n, ∀ entry ∈ log[n]?, ∀ cause c r, entry.obs = .called cause c r →
    ∃ origin ∈ (log.take n)[cause]?, Licenses origin.obs c

/-! ### Between occurrence and call -/

/-- The events an occurrence leads to. -/
def Obs.events : Obs → List AppEvent
  | .written path value => attributePosts path value
  | .expired .sFeederMonoTimer => [Actuator.feeder.event false]
  | .expired .sSensorTimer => sensorTimerHandler
  | .expired .sFunctionTimer => [timerEvent]
  | .edge pushed => [buttonEvent pushed]
  | .ledUpdate ledWidget => [updateLedEvent ledWidget]
  | _ => []

/-- An event was posted for the occurrence its cause names. -/
def Posted.From (log : List Entry) (posted : Posted) : Prop :=
  ∃ origin ∈ log[posted.cause]?, posted.event ∈ origin.obs.events

/-- The cause and the site of a call. -/
def Obs.callPair? : Obs → Option (Nat × Call)
  | .called cause c _ => some (cause, c.site)
  | _ => none

/-- The calls made so far, each by its cause and its site. -/
def callPairs (log : List Entry) : List (Nat × Call) :=
  log.filterMap fun entry => entry.obs.callPair?

end DeviceWifi
