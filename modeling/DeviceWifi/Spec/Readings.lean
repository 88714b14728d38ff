/-
Module: DeviceWifi.Spec.Readings
Layer: Spec
Purpose: What the sensor handlers are for. A sensor has a device, the channels its handler reads and an
  endpoint for each of them. A handled sensor event is a reading; it is complete when the fetch and the
  read of every channel succeeded, and only complete readings say anything about the terrarium. The
  unit of the measurement clusters is a hundredth of a degree or of a percent.
Imports: DeviceWifi.Lib.FixedPoint, DeviceWifi.Spec.Handled
Trusted boundary: human-reviewed spec
Main exports: Sensor, Sensor.Complete, Sensor.stored, Sensor.publications, lastComplete, published,
  OnlyMeasured, FirstComplete, PublishesHundredths, BelowHundredth
Open obligations: none
-/
import DeviceWifi.Lib.FixedPoint
import DeviceWifi.Spec.Handled

namespace DeviceWifi

open Reactive

/-- The sensors, by their place in the terrarium. -/
inductive Sensor where
  | hot | cold | waterTemp
deriving DecidableEq, Repr

namespace Sensor

/-- The device behind a sensor. -/
def device : Sensor → SensorDevice
  | .hot => .dht22
  | .cold => .dht11
  | .waterTemp => .ds18b20

/-- The channels a sensor's handler reads. -/
def channels : Sensor → List SensorChannel
  | .hot | .cold => [.ambientTemp, .humidity]
  | .waterTemp => [.ambientTemp]

/-- The event that asks for a reading. -/
def event : Sensor → AppEvent
  | .hot => { type := .hotSensorMeasure, handler := some .hotSensorMeasureHandler }
  | .cold => { type := .coldSensorMeasure, handler := some .coldSensorMeasureHandler }
  | .waterTemp => { type := .waterTempSensorMeasure, handler := some .waterTempSensorMeasureHandler }

/-- The endpoint of a channel's measurement cluster. -/
def endpoint : Sensor → SensorChannel → UInt16
  | .hot, .ambientTemp => 7
  | .hot, .humidity => 8
  | .cold, .ambientTemp => 9
  | .cold, .humidity => 10
  | .waterTemp, _ => 11

/-- The value of a channel among the stored last measures. -/
def stored (vars : AppVars) : Sensor → SensorChannel → SensorValue
  | .hot, .ambientTemp => vars.lastTemperature1
  | .hot, .humidity => vars.lastHumidity1
  | .cold, .ambientTemp => vars.lastTemperature2
  | .cold, .humidity => vars.lastHumidity2
  | .waterTemp, _ => vars.lastTemperature3

/-- The fetch and the read of every channel succeeded. -/
def Complete (sensor : Sensor) (answers : Call → Response) : Prop :=
  (answers (.sensorSampleFetch sensor.device)).rc = 0 ∧
    ∀ chan ∈ sensor.channels, (answers (.sensorChannelGet sensor.device chan)).rc = 0

instance (sensor : Sensor) (answers : Call → Response) : Decidable (sensor.Complete answers) :=
  inferInstanceAs (Decidable (_ ∧ _))

/-- The value the device answered for a channel. -/
def read (sensor : Sensor) (answers : Call → Response) (chan : SensorChannel) : SensorValue :=
  (answers (.sensorChannelGet sensor.device chan)).value

end Sensor

/-- The number a handler publishes for a stored value of a channel: a whole number of degrees for a
    temperature, and the same conversion read as unsigned for a humidity. -/
def SensorChannel.convert : SensorChannel → SensorValue → Int
  | .ambientTemp, value => (int16OfDouble (sensorValueToDouble value)).toInt
  | .humidity, value => (int16OfDouble (sensorValueToDouble value)).toUInt16.toNat

/-- The `MeasuredValue` a call writes, with its endpoint. -/
def publication? : Call → Option (UInt16 × Int)
  | .temperatureMeasuredValueSet endpoint value => some (endpoint, value.toInt)
  | .humidityMeasuredValueSet endpoint value => some (endpoint, value.toNat)
  | _ => none

/-- The writes that publish a sensor's stored values: each of its own endpoints once, with the
    conversion of the stored value of its own channel. -/
def Sensor.publications (sensor : Sensor) (vars : AppVars) : List (UInt16 × Int) :=
  sensor.channels.map fun chan => (sensor.endpoint chan, chan.convert (sensor.stored vars chan))

/-! ### Sequences of readings -/

/-- A reading: a sensor's event, with the answers its handler gets. -/
abbrev Reading := Sensor × (Call → Response)

/-- A reading as a handled event. -/
def Reading.handled (reading : Reading) : Handled := ⟨reading.1.event, reading.2⟩

/-- The stored values after a sequence of readings, from the entry of the loop. -/
def varsAfterReadings (readings : List Reading) : AppVars :=
  varsAfter (readings.map Reading.handled)

/-- The answers of the last complete reading of a sensor. -/
def lastComplete (sensor : Sensor) (readings : List Reading) : Option (Call → Response) :=
  ((readings.filter fun reading => reading.1 = sensor ∧ sensor.Complete reading.2).getLast?).map
    Prod.snd

/-- The last value written to the `MeasuredValue` of an endpoint over a sequence of readings. -/
def published (readings : List Reading) (endpoint : UInt16) : Option Int :=
  (((callsOver .initial (readings.map Reading.handled)).filterMap publication?).filter
    fun written => written.1 = endpoint).getLast?.map Prod.snd

/-- Only measured values are published: for every channel of every sensor, the `MeasuredValue` of its
    endpoint has never been written while no reading of the sensor is complete, and otherwise the last
    value written is the conversion of the value of a complete reading. -/
def OnlyMeasured (readings : List Reading) : Prop :=
  ∀ (sensor : Sensor), ∀ chan ∈ sensor.channels,
    ((∀ reading ∈ readings, reading.1 = sensor → ¬ sensor.Complete reading.2) →
      published readings (sensor.endpoint chan) = none) ∧
    ((∃ reading ∈ readings, reading.1 = sensor ∧ sensor.Complete reading.2) →
      ∃ reading ∈ readings, reading.1 = sensor ∧ sensor.Complete reading.2 ∧
        published readings (sensor.endpoint chan) =
          some (chan.convert (sensor.read reading.2 chan)))

/-- The first reading of each sensor, where there is one, is complete. -/
def FirstComplete (readings : List Reading) : Prop :=
  ∀ sensor : Sensor, ∀ reading ∈ readings.find? (fun reading => reading.1 = sensor),
    sensor.Complete reading.2

/-! ### The published unit -/

/-- A sensor value in hundredths of its unit, truncated toward zero. -/
def hundredths (value : SensorValue) : Int := FixedPoint.truncate (100 * sensorValueToDouble value)

/-- A number fits the `MeasuredValue` attribute of a channel: `int16_t` for a temperature, `uint16_t` for
    a humidity. -/
def SensorChannel.Fits : SensorChannel → Int → Prop
  | .ambientTemp, n => -2 ^ 15 ≤ n ∧ n < 2 ^ 15
  | .humidity, n => 0 ≤ n ∧ n < 2 ^ 16

instance (chan : SensorChannel) (n : Int) : Decidable (chan.Fits n) :=
  match chan with
  | .ambientTemp => inferInstanceAs (Decidable (_ ∧ _))
  | .humidity => inferInstanceAs (Decidable (_ ∧ _))

/-- While a reading is handled the channel's endpoint is written once, with the value just read in
    hundredths. -/
def PublishesHundredths (sensor : Sensor) (answers : Call → Response) (vars : AppVars)
    (chan : SensorChannel) : Prop :=
  (((Reading.handled (sensor, answers)).calls vars).filterMap publication?).filter
      (fun written => written.1 = sensor.endpoint chan) =
    [(sensor.endpoint chan, hundredths (sensor.read answers chan))]

/-- A sensor value closer to zero than a hundredth of its unit. -/
def BelowHundredth (value : SensorValue) : Prop := |sensorValueToDouble value| < 1 / 100

end DeviceWifi
