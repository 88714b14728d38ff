/-
Module: DeviceWifi.Spec.Outputs
Layer: Spec
Purpose: What dispatching an event is for: the output calls it makes (GPIO, PWM, kernel timers, factory
  reset) and what it leaves in `mFunction`. The same two readings of a main thread that is somewhere
  inside a handler: the output calls still to come, and `mFunction` once the handler has returned. And
  what updating the status LED is for.
Imports: DeviceWifi.Firmware.System
Trusted boundary: human-reviewed spec
Main exports: outputCall?, handlerOutputs, functionAfter, MainThread.outputs, MainThread.function,
  NetworkFlags.statusLed
Open obligations: none
-/
import DeviceWifi.Firmware.System

namespace DeviceWifi

open Reactive

/-- The calls with an effect outside sensors, measurements and LEDs. -/
def outputCall? (c : Call) : Option Call :=
  match c with
  | .gpioPinSetDt _ _ | .pwmSetPulseDt _ | .kTimerStart _ _ _ | .kTimerStop _
  | .scheduleFactoryReset => some c
  | _ => none

/-- The function button events, as their handlers see them. -/
inductive FunctionInput where
  | push | release | timer
deriving DecidableEq, Repr

/-- Read an event as an input of the factory-reset state machine. -/
def AppEvent.functionInput? (event : AppEvent) : Option FunctionInput :=
  match event.handler, event.payload with
  | some .functionTimerEventHandler, _ => some .timer
  | some .functionHandler, .buttonEvent pinNo action =>
      if pinNo ≠ functionButton then none
      else if action = AppEventType.buttonPushed.toUInt8 then some .push
      else if action = AppEventType.buttonReleased.toUInt8 then some .release
      else none
  | _, _ => none

/-- `mFunction` after an input. -/
def FunctionInput.next : FunctionInput → FunctionEvent
  | .push => .factoryReset
  | .release => .noneSelected
  | .timer => .noneSelected

/-- The output calls an input leads to, given `mFunction` before it. -/
def FunctionInput.outputs : FunctionInput → FunctionEvent → List Call
  | .push, _ => [.kTimerStart .sFunctionTimer kFactoryResetTriggerTimeout 0]
  | .release, .factoryReset => [.kTimerStop .sFunctionTimer]
  | .timer, .factoryReset => [.scheduleFactoryReset]
  | _, .noneSelected => []

/-- `mFunction` after an event has been handled. -/
def functionAfter (mFunction : FunctionEvent) (event : AppEvent) : FunctionEvent :=
  match event.functionInput? with
  | some input => input.next
  | none => mFunction

/-- The output calls of the actuator handlers. -/
def actuatorOutputs : EventHandler → List Call
  | .hotLampActivateHandler => [.gpioPinSetDt .rel1 0]
  | .hotLampDeactivateHandler => [.gpioPinSetDt .rel1 1]
  | .uvbLampActivateHandler => [.gpioPinSetDt .rel2 0]
  | .uvbLampDeactivateHandler => [.gpioPinSetDt .rel2 1]
  | .heaterActivateHandler => [.gpioPinSetDt .rel3 0]
  | .heaterDeactivateHandler => [.gpioPinSetDt .rel3 1]
  | .filterActivateHandler => [.gpioPinSetDt .rel4 0]
  | .filterDeactivateHandler => [.gpioPinSetDt .rel4 1]
  | .feederActivateHandler =>
      [.pwmSetPulseDt pulse, .kTimerStart .sFeederMonoTimer 2000 200000]
  | .feederDeactivateHandler => [.pwmSetPulseDt 0, .kTimerStop .sFeederMonoTimer]
  | _ => []

/-- The output calls made while an event is handled, given `mFunction` before. -/
def handlerOutputs (event : AppEvent) (mFunction : FunctionEvent) : List Call :=
  match event.functionInput? with
  | some input => input.outputs mFunction
  | none => (event.handler.map actuatorOutputs).getD []

/-- The output calls the running handler still has to make. No handler chooses them by a response, so
    they can be read off along any answers (`HandlerSettled`). -/
def MainThread.outputs : MainThread → List Call
  | .waiting _ => []
  | .handling _ rest => (rest.trace fun _ => default).filterMap fun made => outputCall? made.1

/-- `mFunction` once the running handler has returned. -/
def MainThread.function : MainThread → FunctionEvent
  | .waiting vars => vars.mFunction
  | .handling _ rest => (rest.result fun _ => default).2.mFunction

/-- The status LED for a state of the network. -/
def NetworkFlags.statusLed (flags : NetworkFlags) : StatusLed :=
  if flags.isNetworkProvisioned && flags.isNetworkEnabled then .set true
  else if flags.haveBLEConnections then .blink 100 100
  else .blink 50 950

end DeviceWifi
