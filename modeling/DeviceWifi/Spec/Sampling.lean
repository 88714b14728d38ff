/-
Module: DeviceWifi.Spec.Sampling
Layer: Spec
Purpose: The sensors as the running device samples them. The events handled so far contain the readings,
  each expiry of the sensor timer asks for one reading of every sensor, and a reading that is asked for
  is handled, in hand, waiting, or was dropped by a full queue. The other producers post beside it.
Imports: DeviceWifi.Spec.Sequential, DeviceWifi.Spec.Readings
Trusted boundary: human-reviewed spec
Main exports: AppEvent.sensor?, readingsOf, Sensor.requests, expiries, Sensor.dropped, Sensor.fetches,
  posts, otherPosts, drops
Open obligations: none
-/
import DeviceWifi.Spec.Sequential
import DeviceWifi.Spec.Readings

namespace DeviceWifi

open Reactive

/-- The sensor an event asks to read, by its handler. -/
def AppEvent.sensor? (event : AppEvent) : Option Sensor :=
  match event.handler with
  | some .hotSensorMeasureHandler => some .hot
  | some .coldSensorMeasureHandler => some .cold
  | some .waterTempSensorMeasureHandler => some .waterTemp
  | _ => none

/-- A handled event as a reading, if it is one. -/
def Handled.reading? (h : Handled) : Option Reading :=
  h.event.sensor?.map fun sensor => (sensor, h.answers)

/-- The readings among the handled events. -/
def readingsOf (handled : List Handled) : List Reading := handled.filterMap Handled.reading?

/-- How many of the events ask for a reading of the sensor. -/
def Sensor.requests (sensor : Sensor) (events : List AppEvent) : Nat :=
  events.countP fun event => event.sensor? = some sensor

/-- The expiries of the sensor timer. -/
def expiries (log : List Entry) : Nat := log.countP fun entry => entry.obs = .expired .sSensorTimer

/-- The events of a sensor that a full queue dropped. -/
def Sensor.dropped (sensor : Sensor) (log : List Entry) : Nat :=
  log.countP fun entry => entry.obs = .posted .sensorTimer sensor.event false

/-- The fetches from a sensor's device. -/
def Sensor.fetches (sensor : Sensor) (made : List (Call × Response)) : Nat :=
  made.countP fun call => call.1 = .sensorSampleFetch sensor.device

/-! ### Posts -/

/-- `PostEvent` was called. -/
def Obs.isPost : Obs → Bool
  | .posted _ _ _ => true
  | _ => false

/-- `PostEvent` was called by another producer than the sensor timer. -/
def Obs.isOtherPost : Obs → Bool
  | .posted producer _ _ => producer != .sensorTimer
  | _ => false

/-- `PostEvent` was called on a full queue. -/
def Obs.isDrop : Obs → Bool
  | .posted _ _ accepted => !accepted
  | _ => false

/-- The events posted so far, accepted or not. -/
def posts (log : List Entry) : Nat := log.countP fun entry => entry.obs.isPost

/-- The events posted so far by other producers than the sensor timer. -/
def otherPosts (log : List Entry) : Nat := log.countP fun entry => entry.obs.isOtherPost

/-- The events a full queue dropped so far. -/
def drops (log : List Entry) : Nat := log.countP fun entry => entry.obs.isDrop

end DeviceWifi
