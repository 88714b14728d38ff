/-
Module: DeviceWifi.Firmware.AppTask
Layer: Firmware
Purpose: The event handlers of `app_task.cpp`, `DispatchEvent` and `ChipEventHandler`. A handler is a
  program over the SDK calls it makes and its accesses to the flags and the LED that two threads share:
  its thread can be preempted between any two of them, and only there does anything another context does
  become visible to it. The variables only the main thread touches (`mFunction` and the `last_*` sensor
  globals) are threaded through the program as its state. Log output is left out.
Imports: DeviceWifi.Lib.Program, DeviceWifi.Firmware.AppEvent
Trusted boundary: human-reviewed spec
Main exports: Call, Response, AppVars, AppM, updateStatusLED, dispatchEvent, chipEventHandler, and the
  handlers under their source names
Open obligations: none
-/
import DeviceWifi.Lib.Program
import DeviceWifi.Firmware.AppEvent

namespace DeviceWifi

open Reactive

/-- The GPIO specs of `app_task.cpp`. -/
inductive GpioSpec where
  | ls1 | rel1 | rel2 | rel3 | rel4
deriving DecidableEq, Repr

/-- The kernel timers of `app_task.cpp`. -/
inductive TimerId where
  | sFunctionTimer | sSensorTimer | sFeederMonoTimer
deriving DecidableEq, Repr

/-- The sensor devices of `app_task.cpp`. -/
inductive SensorDevice where
  | dht11 | dht22 | ds18b20
deriving DecidableEq, Repr

/-- The sensor channels the handlers read. -/
inductive SensorChannel where
  | ambientTemp | humidity
deriving DecidableEq, Repr

/-- `struct sensor_value`: an integer part and a fractional part in millionths. -/
structure SensorValue where
  val1 : Int
  val2 : Int
deriving DecidableEq, Repr

/-- The zero value, as `memset` leaves it. -/
instance : Inhabited SensorValue := ⟨⟨0, 0⟩⟩

/-- `sensor_value_to_double`, in exact arithmetic. -/
def sensorValueToDouble (value : SensorValue) : Rat := value.val1 + (value.val2 : Rat) / 1000000

/-- `int16_t(x)` of a floating-point value: truncation toward zero. Outside the range of `int16_t` the
    conversion is undefined in the source; here it wraps. -/
def int16OfDouble (x : Rat) : Int16 := Int16.ofInt (x.num.tdiv x.den)

/-- `sIsNetworkProvisioned`, `sIsNetworkEnabled` and `sHaveBLEConnections`: kept by the Matter thread, read
    by both threads. -/
inductive NetworkFlag where
  | sIsNetworkProvisioned | sIsNetworkEnabled | sHaveBLEConnections
deriving DecidableEq, Repr

/-- The blink rates of `LedConsts::StatusLed`. -/
inductive LedConsts.StatusLed where
  | unprovisioned | provisioned
deriving DecidableEq, Repr

/-- `kOn_ms` of a rate. -/
def LedConsts.StatusLed.kOnMs : LedConsts.StatusLed → Nat
  | .unprovisioned => 100
  | .provisioned => 50

/-- `kOff_ms` of a rate. -/
def LedConsts.StatusLed.kOffMs : LedConsts.StatusLed → Nat
  | .unprovisioned => LedConsts.StatusLed.unprovisioned.kOnMs
  | .provisioned => 950

/-- One access to what the main thread and the Matter thread share: a flag, or `sStatusLED`. -/
inductive StatusAccess where
  | readFlag (flag : NetworkFlag)
  | writeFlag (flag : NetworkFlag) (value : Bool)
  | ledSet (on : Bool)
  | ledBlink (rate : LedConsts.StatusLed)
deriving DecidableEq, Repr

/-- What a handler does that other contexts can see or influence: the calls into the SDK it makes, and its
    accesses to the status. -/
inductive Call where
  | gpioPinSetDt (spec : GpioSpec) (value : Nat)
  | pwmSetPulseDt (pulse : Nat)
  | kTimerStart (timer : TimerId) (duration period : Nat)
  | kTimerStop (timer : TimerId)
  | sensorSampleFetch (dev : SensorDevice)
  | sensorChannelGet (dev : SensorDevice) (chan : SensorChannel)
  | temperatureMeasuredValueSet (endpoint : UInt16) (value : Int16)
  | humidityMeasuredValueSet (endpoint : UInt16) (value : UInt16)
  | scheduleFactoryReset
  | factoryResetLedsSet (on : Bool)
  | status (access : StatusAccess)
  | ledWidgetUpdateState (ledWidget : Nat)
deriving DecidableEq, Repr

/-- The answer to a call: its return code and, for `sensor_channel_get`, the value it stored through
    its pointer argument. The return code of a flag that is read is nonzero when the flag is set. -/
structure Response where
  rc : Int
  value : SensorValue
deriving DecidableEq, Repr, Inhabited

/-- A flag as the answer to its reading. -/
def Response.ofFlag (value : Bool) : Response := ⟨if value then 1 else 0, default⟩

/-- The flag an answer stands for. -/
def Response.flag (response : Response) : Bool := response.rc != 0

@[simp] theorem Response.flag_ofFlag (value : Bool) : (Response.ofFlag value).flag = value := by
  cases value <;> rfl

/-- The variables that only the main thread reads and writes. -/
structure AppVars where
  mFunction : FunctionEvent
  lastTemperature1 : SensorValue
  lastHumidity1 : SensorValue
  lastTemperature2 : SensorValue
  lastHumidity2 : SensorValue
  lastTemperature3 : SensorValue
deriving DecidableEq, Repr

/-- The variables when the loop is entered: `mFunction` as constructed and the sensor globals
    zeroed by `Init`. -/
def AppVars.initial : AppVars where
  mFunction := .noneSelected
  lastTemperature1 := default
  lastHumidity1 := default
  lastTemperature2 := default
  lastHumidity2 := default
  lastTemperature3 := default

/-- Main-thread code: a program over SDK calls with the main thread's variables as state. -/
abbrev AppM := StateT AppVars (Prog Call Response)

/-- Make one SDK call. -/
def sdk (c : Call) : AppM Response := StateT.lift (Prog.perform c)

/-- `pulse`, never written after its initialisation. -/
def pulse : Nat := 1050000

/-! ### Status LED -/

/-- Read a shared flag. -/
def readFlag (flag : NetworkFlag) : Prog Call Response Bool := do
  return (← Prog.perform (.status (.readFlag flag))).flag

/-- Assign a shared flag. -/
def writeFlag (flag : NetworkFlag) (value : Bool) : Prog Call Response Unit := do
  let _ ← Prog.perform (.status (.writeFlag flag value))

/-- `AppTask::UpdateStatusLED`, which both threads call: the flags are read one by one before the LED is told
    what to do. -/
def updateStatusLED : Prog Call Response Unit := do
  if ← readFlag .sIsNetworkProvisioned <&&> readFlag .sIsNetworkEnabled then
    let _ ← Prog.perform (.status (.ledSet true))
  else if ← readFlag .sHaveBLEConnections then
    let _ ← Prog.perform (.status (.ledBlink .unprovisioned))
  else
    let _ ← Prog.perform (.status (.ledBlink .provisioned))

/-! ### Function button and factory reset -/

/-- `AppTask::CancelTimer`. -/
def cancelTimer : AppM Unit := do
  let _ ← sdk (.kTimerStop .sFunctionTimer)

/-- `AppTask::StartTimer`. -/
def startTimer (timeoutInMs : Nat) : AppM Unit := do
  let _ ← sdk (.kTimerStart .sFunctionTimer timeoutInMs 0)

/-- `AppTask::FunctionTimerEventHandler`. -/
def functionTimerEventHandler : AppM Unit := do
  if (← get).mFunction = .factoryReset then
    modify fun vars => { vars with mFunction := .noneSelected }
    let _ ← sdk (.status (.ledSet true))
    let _ ← sdk (.factoryResetLedsSet true)
    let _ ← sdk .scheduleFactoryReset

/-- `AppTask::FunctionHandler`. Only button events carry this handler, so the other members of the
    payload union are not reinterpreted. -/
def functionHandler (event : AppEvent) : AppM Unit := do
  match event.payload with
  | .buttonEvent pinNo action =>
      if pinNo ≠ functionButton then
        return
      if action = AppEventType.buttonPushed.toUInt8 then
        startTimer kFactoryResetTriggerTimeout
        modify fun vars => { vars with mFunction := .factoryReset }
      else if action = AppEventType.buttonReleased.toUInt8 then
        if (← get).mFunction = .factoryReset then
          let _ ← sdk (.factoryResetLedsSet false)
          StateT.lift updateStatusLED
          cancelTimer
          modify fun vars => { vars with mFunction := .noneSelected }
  | _ => return

/-- `AppTask::UpdateLedStateEventHandler`. -/
def updateLedStateEventHandler (event : AppEvent) : AppM Unit := do
  if event.type = .updateLedState then
    match event.payload with
    | .updateLedStateEvent ledWidget =>
        let _ ← sdk (.ledWidgetUpdateState ledWidget)
    | _ => return

/-! ### Actuators -/

/-- The common body of the relay handlers: one `gpio_pin_set_dt`. -/
def relayHandler (relay : GpioSpec) (value : Nat) : AppM Unit := do
  let _ ← sdk (.gpioPinSetDt relay value)

/-- Turn on the hot lamp. -/
def hotLampActivateHandler : AppM Unit := relayHandler .rel1 0

/-- Turn off the hot lamp. -/
def hotLampDeactivateHandler : AppM Unit := relayHandler .rel1 1

/-- Turn on the uvb lamp. -/
def uvbLampActivateHandler : AppM Unit := relayHandler .rel2 0

/-- Turn off the uvb lamp. -/
def uvbLampDeactivateHandler : AppM Unit := relayHandler .rel2 1

/-- Turn on the water heater. -/
def heaterActivateHandler : AppM Unit := relayHandler .rel3 0

/-- Turn off the water heater. -/
def heaterDeactivateHandler : AppM Unit := relayHandler .rel3 1

/-- Turn on the filter pump. -/
def filterActivateHandler : AppM Unit := relayHandler .rel4 0

/-- Turn off the filter pump. -/
def filterDeactivateHandler : AppM Unit := relayHandler .rel4 1

/-- Start the pwm-servo and start the `sFeederMonoTimer` software timer; the result of
    `pwm_set_pulse_dt` is stored and not looked at. -/
def feederActivateHandler : AppM Unit := do
  let _ret ← sdk (.pwmSetPulseDt pulse)
  let _ ← sdk (.kTimerStart .sFeederMonoTimer 2000 200000)

/-- Stop the pwm-servo and stop the `sFeederMonoTimer` software timer. -/
def feederDeactivateHandler : AppM Unit := do
  let _ret ← sdk (.pwmSetPulseDt 0)
  let _ ← sdk (.kTimerStop .sFeederMonoTimer)

/-! ### Sensors -/

/-- The common body of the two DHT handlers: fetch, read both channels, keep the pair in the two
    globals selected by `store` when every call succeeded, and publish the globals selected by
    `load` in either case. -/
def dhtMeasureHandler (dev : SensorDevice) (store : SensorValue → SensorValue → AppVars → AppVars)
    (load : AppVars → SensorValue × SensorValue) (temperatureEndpoint humidityEndpoint : UInt16) :
    AppM Unit := do
  let fetched ← sdk (.sensorSampleFetch dev)
  if fetched.rc = 0 then
    let temperature ← sdk (.sensorChannelGet dev .ambientTemp)
    if temperature.rc = 0 then
      let humidity ← sdk (.sensorChannelGet dev .humidity)
      if humidity.rc = 0 then
        modify (store temperature.value humidity.value)
  let (lastTemperature, lastHumidity) := load (← get)
  let _ ← sdk (.temperatureMeasuredValueSet temperatureEndpoint
    (int16OfDouble (sensorValueToDouble lastTemperature)))
  let _ ← sdk (.humidityMeasuredValueSet humidityEndpoint
    (int16OfDouble (sensorValueToDouble lastHumidity)).toUInt16)

/-- `AppTask::HotSensorMeasureHandler`. -/
def hotSensorMeasureHandler : AppM Unit :=
  dhtMeasureHandler .dht22
    (fun temperature humidity vars =>
      { vars with lastTemperature1 := temperature, lastHumidity1 := humidity })
    (fun vars => (vars.lastTemperature1, vars.lastHumidity1)) 7 8

/-- `AppTask::ColdSensorMeasureHandler`. -/
def coldSensorMeasureHandler : AppM Unit :=
  dhtMeasureHandler .dht11
    (fun temperature humidity vars =>
      { vars with lastTemperature2 := temperature, lastHumidity2 := humidity })
    (fun vars => (vars.lastTemperature2, vars.lastHumidity2)) 9 10

/-- `AppTask::WaterTempSensorMeasureHandler`. -/
def waterTempSensorMeasureHandler : AppM Unit := do
  let fetched ← sdk (.sensorSampleFetch .ds18b20)
  if fetched.rc = 0 then
    let temperature ← sdk (.sensorChannelGet .ds18b20 .ambientTemp)
    if temperature.rc = 0 then
      modify fun vars => { vars with lastTemperature3 := temperature.value }
  let _ ← sdk (.temperatureMeasuredValueSet 11
    (int16OfDouble (sensorValueToDouble (← get).lastTemperature3)))

/-! ### Dispatch -/

/-- Call a handler through its pointer. -/
def EventHandler.invoke : EventHandler → AppEvent → AppM Unit
  | .hotSensorMeasureHandler, _ => DeviceWifi.hotSensorMeasureHandler
  | .coldSensorMeasureHandler, _ => DeviceWifi.coldSensorMeasureHandler
  | .waterTempSensorMeasureHandler, _ => DeviceWifi.waterTempSensorMeasureHandler
  | .hotLampActivateHandler, _ => DeviceWifi.hotLampActivateHandler
  | .hotLampDeactivateHandler, _ => DeviceWifi.hotLampDeactivateHandler
  | .uvbLampActivateHandler, _ => DeviceWifi.uvbLampActivateHandler
  | .uvbLampDeactivateHandler, _ => DeviceWifi.uvbLampDeactivateHandler
  | .heaterActivateHandler, _ => DeviceWifi.heaterActivateHandler
  | .heaterDeactivateHandler, _ => DeviceWifi.heaterDeactivateHandler
  | .filterActivateHandler, _ => DeviceWifi.filterActivateHandler
  | .filterDeactivateHandler, _ => DeviceWifi.filterDeactivateHandler
  | .feederActivateHandler, _ => DeviceWifi.feederActivateHandler
  | .feederDeactivateHandler, _ => DeviceWifi.feederDeactivateHandler
  | .updateLedStateEventHandler, event => DeviceWifi.updateLedStateEventHandler event
  | .functionHandler, event => DeviceWifi.functionHandler event
  | .functionTimerEventHandler, _ => DeviceWifi.functionTimerEventHandler

/-- `AppTask::DispatchEvent`. An event without handler is dropped. -/
def dispatchEvent (event : AppEvent) : AppM Unit := do
  match event.handler with
  | some handler => handler.invoke event
  | none => return

/-! ### The CHIP event handler -/

/-- The CHIP device events `ChipEventHandler` looks at, with the connectivity manager's answers. -/
inductive ChipDeviceEvent where
  | chipoBLEAdvertisingChange (numBLEConnections : Nat)
  | wiFiConnectivityChange (isWiFiStationProvisioned isWiFiStationEnabled : Bool)
  | other
deriving DecidableEq, Repr

/-- `AppTask::ChipEventHandler` of the Wi-Fi build, without the OTA requestor. The Matter thread runs it. -/
def chipEventHandler : ChipDeviceEvent → Prog Call Response Unit
  | .chipoBLEAdvertisingChange numBLEConnections => do
      writeFlag .sHaveBLEConnections (numBLEConnections != 0)
      updateStatusLED
  | .wiFiConnectivityChange provisioned enabled => do
      writeFlag .sIsNetworkProvisioned provisioned
      writeFlag .sIsNetworkEnabled enabled
      updateStatusLED
  | .other => return

end DeviceWifi
