/-
Module: DeviceWifi.Spec.Sequential
Layer: Spec
Purpose: What the running device refines. Seen from the main thread alone, events are handled one after
  the other, each in the variables the one before it left and with no other context in between. A state
  of the running device agrees with such a sequence when the sequence has handled the accepted events
  in order, up to the one in hand and those still queued, and has made the same calls with the same
  answers.
Imports: DeviceWifi.Lib.Execution, DeviceWifi.Spec.Handled, DeviceWifi.Spec.Outputs
Trusted boundary: human-reviewed spec
Main exports: AppEvent.sites, acceptedEvents, exchanges, RunsSequentially, deviceOver, SameOutputs
Open obligations: none
-/
import DeviceWifi.Lib.Execution
import DeviceWifi.Spec.Handled
import DeviceWifi.Spec.Outputs

namespace DeviceWifi

open Reactive

/-! ### The call sites of the handlers -/

/-- A call without the measured value it passes on: what tells the call sites of a handler apart. The LED
    calls of `UpdateStatusLED`, of which it makes one, count as one site. -/
def Call.site : Call → Call
  | .temperatureMeasuredValueSet endpoint _ => .temperatureMeasuredValueSet endpoint 0
  | .humidityMeasuredValueSet endpoint _ => .humidityMeasuredValueSet endpoint 0
  | .status (.ledBlink _) => .status (.ledSet true)
  | c => c

/-- The sites of `UpdateStatusLED`. -/
def updateStatusLEDSites : List Call :=
  [.status (.readFlag .sIsNetworkProvisioned), .status (.readFlag .sIsNetworkEnabled),
   .status (.readFlag .sHaveBLEConnections), .status (.ledSet true)]

/-- The call sites of the common body of the DHT handlers. -/
def dhtSites (dev : SensorDevice) (temperatureEndpoint humidityEndpoint : UInt16) : List Call :=
  [.sensorSampleFetch dev, .sensorChannelGet dev .ambientTemp, .sensorChannelGet dev .humidity,
   .temperatureMeasuredValueSet temperatureEndpoint 0, .humidityMeasuredValueSet humidityEndpoint 0]

/-- The call sites of the function handlers, by the input they handle. -/
def FunctionInput.sites : FunctionInput → List Call
  | .push => [.kTimerStart .sFunctionTimer kFactoryResetTriggerTimeout 0]
  | .release => .factoryResetLedsSet false :: updateStatusLEDSites ++ [.kTimerStop .sFunctionTimer]
  | .timer => [.status (.ledSet true), .factoryResetLedsSet true, .scheduleFactoryReset]

/-- The call sites of the other handlers, in the order of their text. -/
def EventHandler.sites : EventHandler → EventPayload → List Call
  | .hotSensorMeasureHandler, _ => dhtSites .dht22 7 8
  | .coldSensorMeasureHandler, _ => dhtSites .dht11 9 10
  | .waterTempSensorMeasureHandler, _ =>
      [.sensorSampleFetch .ds18b20, .sensorChannelGet .ds18b20 .ambientTemp,
       .temperatureMeasuredValueSet 11 0]
  | .updateLedStateEventHandler, .updateLedStateEvent ledWidget => [.ledWidgetUpdateState ledWidget]
  | handler, _ => actuatorOutputs handler

/-- The call sites reached by dispatching an event. -/
def AppEvent.sites (event : AppEvent) : List Call :=
  match event.functionInput? with
  | some input => input.sites
  | none => (event.handler.map fun handler => handler.sites event.payload).getD []

/-! ### Readings of the log -/

/-- The events the queue accepted so far, in order. -/
def acceptedEvents (log : List Entry) : List AppEvent :=
  log.filterMap fun entry =>
    match entry.obs with
    | .posted _ event true => some event
    | _ => none

/-- The calls the main thread made so far, with their answers: those into the SDK, and the accesses to the
    status. -/
def exchanges (log : List Entry) : List (Call × Response) :=
  log.filterMap fun entry =>
    match entry.obs with
    | .called _ c r => some (c, r)
    | _ => none

/-- The event the running handler was called for, with its cause. -/
def MainThread.inHandPosted : MainThread → List Posted
  | .waiting _ => []
  | .handling posted _ => [posted]

/-- The event alone. -/
def MainThread.inHandEvent (main : MainThread) : List AppEvent := main.inHandPosted.map Posted.event

@[simp] theorem inHandEvent_waiting (vars : AppVars) : (MainThread.waiting vars).inHandEvent = [] := rfl

@[simp] theorem inHandEvent_handling (posted : Posted) (rest : Prog Call Response (Unit × AppVars)) :
    (MainThread.handling posted rest).inHandEvent = [posted.event] := rfl

/-! ### Sequential handling -/

/-- The state of the running device agrees with a sequence of handled events: they are the accepted events
    in order, less the one in hand and those still queued; their calls and answers are the ones made,
    up to those of the handler in hand, which is suspended after them; and the variables are the ones
    they leave. -/
structure RunsSequentially (s : State) (handled : List Handled) : Prop where
  events : acceptedEvents s.log =
    handled.map Handled.event ++ s.main.inHandEvent ++ s.queue.items.map Posted.event
  thread :
    match s.main with
    | .waiting vars => vars = varsAfter handled ∧ exchanges s.log = exchangesOver .initial handled
    | .handling posted rest => ∃ made,
        Prog.Leads ((dispatchEvent posted.event).run (varsAfter handled)) made rest ∧
          exchanges s.log = exchangesOver .initial handled ++ made

/-! ### The outputs of a sequence of calls -/

/-- The device after calls made one after the other with nothing in between. The time is that of no run, so
    this says nothing about the timers. -/
def deviceOver (made : List (Call × Response)) : Device :=
  made.foldl (fun d call => effect 0 call.1 call.2 d) .initial

/-- Two devices agree on what only the main thread drives: the GPIO levels, the servo, the `MeasuredValue`
    attributes and the factory-reset LEDs. -/
structure SameOutputs (d d' : Device) : Prop where
  gpio : d.gpio = d'.gpio
  servo : d.servo = d'.servo
  measured : d.measured = d'.measured
  factoryResetLeds : d.factoryResetLeds = d'.factoryResetLeds

end DeviceWifi
