/-
Module: DeviceWifi.Spec.Confined
Layer: Spec
Purpose: What the device is confined to. Every event is made for its handler: it has one, carries the type
  of that handler's events and the payload member the handler reads, with a value the handler's guards
  let pass. The outputs keep to what they are for: the level shifter stays enabled, the relays are on or
  off, the servo rests or is driven within its range, only the measurement endpoints are published, and
  each kernel timer keeps its period. And the LEDs keep to what they tell the user: while no
  `ChipEventHandler` is running the status LED shows the state of the network, steadily lit once it is
  provisioned and enabled and otherwise blinking, and both it and the factory-reset LEDs announce a
  factory reset by being lit.
Imports: DeviceWifi.Firmware.Board, DeviceWifi.Firmware.System, DeviceWifi.Spec.Outputs,
  DeviceWifi.Spec.Readings
Trusted boundary: human-reviewed spec
Main exports: EventHandler.eventType, EventHandler.Accepts, AppEvent.WellFormed, Call.Confined,
  Device.Confined, Announced, NotOvertaken, StatusLedTruthful
Open obligations: none
-/
import DeviceWifi.Firmware.Board
import DeviceWifi.Firmware.System
import DeviceWifi.Spec.Outputs
import DeviceWifi.Spec.Readings

namespace DeviceWifi

open Reactive

/-! ### Events -/

/-- The type of the events made for a handler. -/
def EventHandler.eventType : EventHandler → AppEventType
  | .hotSensorMeasureHandler => .hotSensorMeasure
  | .coldSensorMeasureHandler => .coldSensorMeasure
  | .waterTempSensorMeasureHandler => .waterTempSensorMeasure
  | .hotLampActivateHandler => .hotLampActivate
  | .hotLampDeactivateHandler => .hotLampDeactivate
  | .uvbLampActivateHandler => .uvbLampActivate
  | .uvbLampDeactivateHandler => .uvbLampDeactivate
  | .heaterActivateHandler => .heaterActivate
  | .heaterDeactivateHandler => .heaterDeactivate
  | .filterActivateHandler => .filterActivate
  | .filterDeactivateHandler => .filterDeactivate
  | .feederActivateHandler => .feederActivate
  | .feederDeactivateHandler => .feederDeactivate
  | .updateLedStateEventHandler => .updateLedState
  | .functionHandler => .button
  | .functionTimerEventHandler => .timer

/-- The payload holds the union member the handler reads, with a value its guards let pass. -/
def EventHandler.Accepts : EventHandler → EventPayload → Prop
  | .functionHandler, .buttonEvent pinNo action =>
      pinNo = functionButton ∧ (action = AppEventType.buttonPushed.toUInt8 ∨
        action = AppEventType.buttonReleased.toUInt8)
  | .functionHandler, _ => False
  | .updateLedStateEventHandler, .updateLedStateEvent _ => True
  | .updateLedStateEventHandler, _ => False
  | _, _ => True

/-- The event is made for the handler it points to. -/
def AppEvent.WellFormed (event : AppEvent) : Prop :=
  ∃ handler, event.handler = some handler ∧ event.type = handler.eventType ∧
    handler.Accepts event.payload

/-! ### Outputs -/

/-- A call keeps an output to what it is for. -/
def Call.Confined : Call → Prop
  | .gpioPinSetDt spec value => spec ≠ .ls1 ∧ (value = 0 ∨ value = 1)
  | .pwmSetPulseDt width => width = 0 ∨ minPulse ≤ width ∧ width ≤ maxPulse
  | .kTimerStart t _ period =>
      t = .sFunctionTimer ∧ period = 0 ∨ t = .sFeederMonoTimer ∧ period = 200000
  | .kTimerStop t => t ≠ .sSensorTimer
  | .temperatureMeasuredValueSet endpoint _ => ∃ sensor : Sensor, endpoint = sensor.endpoint .ambientTemp
  | .humidityMeasuredValueSet endpoint _ =>
      ∃ sensor : Sensor, .humidity ∈ sensor.channels ∧ endpoint = sensor.endpoint .humidity
  | _ => True

/-- The outputs, the published attributes and the timers are within what they are for. -/
structure Device.Confined (d : Device) : Prop where
  levelShifter : d.gpio .ls1 = 1
  levels : ∀ spec, d.gpio spec = 0 ∨ d.gpio spec = 1
  servo : d.servo = 0 ∨ minPulse ≤ d.servo ∧ d.servo ≤ maxPulse
  measured : ∀ endpoint, d.measured endpoint ≠ none →
    ∃ sensor : Sensor, ∃ chan ∈ sensor.channels, endpoint = sensor.endpoint chan
  functionTimer : (d.timer .sFunctionTimer).period = 0
  feederTimer : (d.timer .sFeederMonoTimer).Running → (d.timer .sFeederMonoTimer).period = 200000
  sensorTimer : (d.timer .sSensorTimer).Running ∧ (d.timer .sSensorTimer).period = 5000

/-! ### LEDs -/

/-- A call was made while an event of the given cause was handled. -/
def CalledFor (log : List Entry) (cause : Nat) (c : Call) : Prop :=
  ∃ entry ∈ log, ∃ r, entry.obs = .called cause c r

/-- A factory reset has been announced for some expiry, and has been scheduled for it, or the handler that
    announced it is still running and has yet to. -/
def Announced (s : State) : Prop :=
  ∃ cause, CalledFor s.log cause (.status (.ledSet true)) ∧
    (CalledFor s.log cause .scheduleFactoryReset ∨
      (∃ posted rest, s.main = .handling posted rest ∧ posted.cause = cause) ∧
        .scheduleFactoryReset ∈ s.main.outputs)

/-- The access tells the status LED what to show. -/
def StatusAccess.isLed : StatusAccess → Bool
  | .ledSet _ | .ledBlink _ => true
  | .readFlag _ | .writeFlag _ _ => false

/-- The main thread is inside the `UpdateStatusLED` of a release: it has read the first flag and not yet
    made the LED call. -/
def MainThread.updatesStatusLED : MainThread → Bool
  | .handling posted (.call (.status access) _) =>
      posted.event.functionInput? = some .release && access != .readFlag .sIsNetworkProvisioned
  | _ => false

/-- The LED call of `ChipEventHandler` is next. -/
def State.chipShows (s : State) : Bool :=
  match s.chip with
  | .call (.status access) _ => access.isLed
  | _ => false

/-- `ChipEventHandler` does not make its LED call while the main thread, inside `UpdateStatusLED`, has yet
    to make the one for the flags it has read. -/
def NotOvertaken (s : State) (a : Action) : Prop :=
  a = .chipCall → s.chipShows = true → s.main.updatesStatusLED = false

instance (s : State) (a : Action) : Decidable (NotOvertaken s a) :=
  inferInstanceAs (Decidable (a = .chipCall → s.chipShows = true → s.main.updatesStatusLED = false))

/-- While no `ChipEventHandler` is running, the status LED shows the network, or is lit for an announced
    reset. -/
def StatusLedTruthful (s : State) : Prop :=
  s.chip.returned = true → s.device.statusLed = s.device.flags.statusLed ∨
    s.device.statusLed = .set true ∧ Announced s

end DeviceWifi
