/-
Module: DeviceWifi.Spec.Isolation
Layer: Spec
Purpose: What a faulty sensor may influence. A call concerns a sensor when it reads the sensor's device or
  publishes on one of its endpoints. Two executions differ in a set of sensors only when their other
  events correspond and were answered alike outside the calls that concern the set; the set is isolated
  when the outputs then agree, but for the endpoints of its own sensors.
Imports: DeviceWifi.Lib.Coupling, DeviceWifi.Spec.Sampling
Trusted boundary: human-reviewed spec
Main exports: Call.sensor?, concerns, others, SameBut, AppVars.AgreesBut, Device.AgreesBut
Open obligations: none
-/
import DeviceWifi.Lib.Coupling
import DeviceWifi.Spec.Sampling

namespace DeviceWifi

open Reactive

/-- The sensor a device belongs to. -/
def SensorDevice.sensor : SensorDevice → Sensor
  | .dht22 => .hot
  | .dht11 => .cold
  | .ds18b20 => .waterTemp

/-- The sensor published on an endpoint. -/
def publisher? (endpoint : UInt16) : Option Sensor :=
  [Sensor.hot, .cold, .waterTemp].find? fun sensor =>
    sensor.channels.any fun chan => endpoint = sensor.endpoint chan

/-- The sensor a call reads or publishes. -/
def Call.sensor? : Call → Option Sensor
  | .sensorSampleFetch dev => some dev.sensor
  | .sensorChannelGet dev _ => some dev.sensor
  | .temperatureMeasuredValueSet endpoint _ => publisher? endpoint
  | .humidityMeasuredValueSet endpoint _ => publisher? endpoint
  | _ => none

section Faulty

variable (faulty : Sensor → Bool)

/-- A call concerns one of the faulty sensors. -/
def concerns (c : Call) : Bool := c.sensor?.any faulty

/-- What the comparison of two executions sets aside: the calls that concern the faulty sensors, and the
    accesses to the status, in which the main thread meets what the Matter thread did. -/
def setAside : Call → Bool
  | .status _ => true
  | c => concerns faulty c

/-- The handled events that are no readings of a faulty sensor. -/
def others (handled : List Handled) : List Handled :=
  handled.filter fun h => !h.event.sensor?.any faulty

/-- The same event, answered alike on every call that is not set aside. -/
structure SameBut (h h' : Handled) : Prop where
  event : h.event = h'.event
  answers : AnswerAlike (setAside faulty) h.answers h'.answers

/-- The main thread's variables agree but for the stored values of the faulty sensors. -/
structure AppVars.AgreesBut (vars vars' : AppVars) : Prop where
  mFunction : vars.mFunction = vars'.mFunction
  stored : ∀ sensor : Sensor, faulty sensor = false → sensor.stored vars = sensor.stored vars'

/-- The outputs agree but for the attributes the faulty sensors are published on. -/
structure Device.AgreesBut (d d' : Device) : Prop where
  gpio : d.gpio = d'.gpio
  servo : d.servo = d'.servo
  factoryResetLeds : d.factoryResetLeds = d'.factoryResetLeds
  measured : ∀ endpoint, (publisher? endpoint).any faulty = false →
    d.measured endpoint = d'.measured endpoint

end Faulty

end DeviceWifi
