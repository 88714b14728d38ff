/-
Module: DeviceWifi.Firmware.System
Layer: Firmware
Purpose: The running device as a transition system. Its contexts are the main thread (the `StartApp` loop
  and the handler it is running), the Matter thread (a store of an attribute followed by the change
  callback, or `ChipEventHandler`, one at a time), the three timer interrupts and the button and LED
  callbacks; they share `sAppEventQueue`, the kernel timers, the network flags and the outputs. A step is
  one action of one context, so a run is any interleaving of them. An interrupt handler runs to
  completion within its step; threads can be suspended between any two SDK calls and any two accesses to
  a shared flag.
  Log and causes are ghost state: they record what happened, and no behaviour reads them.
Imports: DeviceWifi.Lib.Transition, DeviceWifi.Lib.BoundedQueue, DeviceWifi.Lib.SoftTimer,
  DeviceWifi.Firmware.AppTask, DeviceWifi.Firmware.ZclCallbacks
Trusted boundary: human-reviewed spec
Main exports: State, Action, step, State.initial, Reachable, ReachableWhen
Open obligations: none
-/
import DeviceWifi.Lib.Transition
import DeviceWifi.Lib.BoundedQueue
import DeviceWifi.Lib.SoftTimer
import DeviceWifi.Firmware.AppTask
import DeviceWifi.Firmware.ZclCallbacks

namespace DeviceWifi

open Reactive

/-! ### State -/

/-- An event in the queue. Ghost field: the log position of the occurrence it was posted for. -/
structure Posted where
  event : AppEvent
  cause : Nat
deriving DecidableEq, Repr

/-- Who called `PostEvent`. -/
inductive Producer where
  | attributeChange (path : ConcreteAttributePath) (value : UInt8)
  | sensorTimer
  | functionTimer
  | button
  | ledUpdate
deriving DecidableEq, Repr

/-- What the log records. -/
inductive Obs where
  /-- The Matter thread stored an attribute value: a command was issued. -/
  | written (path : ConcreteAttributePath) (value : UInt8)
  /-- `MatterPostAttributeChangeCallback` was called. -/
  | delivered (path : ConcreteAttributePath) (value : UInt8)
  /-- `PostEvent` was called, and `k_msgq_put` accepted the event or not. -/
  | posted (producer : Producer) (event : AppEvent) (accepted : Bool)
  /-- A kernel timer expired. -/
  | expired (timer : TimerId)
  /-- The function button was pushed or released. -/
  | edge (pushed : Bool)
  /-- An LED widget asked for an update. -/
  | ledUpdate (ledWidget : Nat)
  /-- A handler made an SDK call, while handling an event with the given cause. -/
  | called (cause : Nat) (call : Call) (response : Response)
deriving DecidableEq, Repr

/-- A log entry: an occurrence and its time in milliseconds. -/
structure Entry where
  time : Nat
  obs : Obs
deriving DecidableEq, Repr

/-- A write of the Matter thread between its store and its callback. Ghost field: the log position of
    the store. -/
structure PendingWrite where
  path : ConcreteAttributePath
  value : UInt8
  cause : Nat
deriving DecidableEq, Repr

/-- The `StartApp` loop: blocked in `k_msgq_get`, or running the handler of an event taken from the
    queue. -/
inductive MainThread where
  | waiting (vars : AppVars)
  | handling (posted : Posted) (rest : Prog Call Response (Unit × AppVars))

/-- What the status LED was last told to do. -/
inductive StatusLed where
  | set (on : Bool)
  | blink (onMs offMs : Nat)
deriving DecidableEq, Repr

/-- The values of the shared flags. -/
structure NetworkFlags where
  isNetworkProvisioned : Bool
  isNetworkEnabled : Bool
  haveBLEConnections : Bool
deriving DecidableEq, Repr

/-- The value of one flag. -/
def NetworkFlags.read (flags : NetworkFlags) : NetworkFlag → Bool
  | .sIsNetworkProvisioned => flags.isNetworkProvisioned
  | .sIsNetworkEnabled => flags.isNetworkEnabled
  | .sHaveBLEConnections => flags.haveBLEConnections

/-- The flags after one has been assigned. -/
def NetworkFlags.write (flags : NetworkFlags) (flag : NetworkFlag) (value : Bool) : NetworkFlags :=
  match flag with
  | .sIsNetworkProvisioned => { flags with isNetworkProvisioned := value }
  | .sIsNetworkEnabled => { flags with isNetworkEnabled := value }
  | .sHaveBLEConnections => { flags with haveBLEConnections := value }

/-- The attribute store, the outputs, the kernel timers and the shared flags. -/
structure Device where
  attributes : ConcreteAttributePath → UInt8
  /-- The `MeasuredValue` attribute of each measurement endpoint, once written. -/
  measured : UInt16 → Option Int
  /-- The level each GPIO output was last commanded to. -/
  gpio : GpioSpec → Nat
  /-- The pulse width last applied to the servo. -/
  servo : Nat
  timer : TimerId → SoftTimer
  flags : NetworkFlags
  statusLed : StatusLed
  factoryResetLeds : Bool

/-- The device as a successful `Init` leaves it: relays at level 1, only the sensor timer started. -/
def Device.initial : Device where
  attributes := fun _ => 0
  measured := fun _ => none
  gpio := fun _ => 1
  servo := 0
  timer := fun
    | .sFunctionTimer => .idle
    | .sSensorTimer => .start 0 5000 5000
    | .sFeederMonoTimer => .idle
  flags := ⟨false, false, false⟩
  statusLed := .blink 50 950
  factoryResetLeds := false

/-- The state of all contexts and of what they share. -/
structure State where
  /-- Milliseconds since the loop was entered. -/
  now : Nat
  /-- `sAppEventQueue`. -/
  queue : BoundedQueue Posted kAppEventQueueSize
  main : MainThread
  /-- The Matter thread is between the store and the callback of this write. -/
  pendingWrite : Option PendingWrite
  /-- What the Matter thread has still to do of the `ChipEventHandler` it is in; nothing when it is in
      none. -/
  chip : Prog Call Response Unit
  device : Device
  log : List Entry

/-- The state in which the loop is entered. `Init` starts the other contexts before it returns, so they may
    have posted events by then: the queue is empty here because they post the same events, in a run, in
    the steps before the first `get`. -/
def State.initial : State where
  now := 0
  queue := .empty
  main := .waiting .initial
  pendingWrite := none
  chip := .pure ()
  device := .initial
  log := []

/-- Replace one kernel timer. -/
def Device.setTimer (d : Device) (t : TimerId) (timer : SoftTimer) : Device :=
  { d with timer := fun t' => if t' = t then timer else d.timer t' }

/-- Replace the stored value of one attribute. -/
def Device.setAttribute (d : Device) (path : ConcreteAttributePath) (value : UInt8) : Device :=
  { d with attributes := fun path' => if path' = path then value else d.attributes path' }

/-- Replace the level of one GPIO output. -/
def Device.setGpio (d : Device) (spec : GpioSpec) (value : Nat) : Device :=
  { d with gpio := fun spec' => if spec' = spec then value else d.gpio spec' }

/-- Write the `MeasuredValue` attribute of an endpoint. -/
def Device.setMeasured (d : Device) (endpoint : UInt16) (value : Int) : Device :=
  { d with measured := fun endpoint' => if endpoint' = endpoint then some value
      else d.measured endpoint' }

/-- Append an occurrence to the log. -/
def State.note (s : State) (obs : Obs) : State := { s with log := s.log ++ [⟨s.now, obs⟩] }

/-- The same state with another device. -/
def State.withDevice (s : State) (device : Device) : State := { s with device := device }

/-! ### Producers -/

/-- `AppTask::PostEvent`: put without waiting, and only log a failure. -/
def postEvent (producer : Producer) (cause : Nat) (event : AppEvent) (s : State) : State :=
  match s.queue.put? ⟨event, cause⟩ with
  | some queue => { s with queue := queue }.note (.posted producer event true)
  | none => s.note (.posted producer event false)

/-- Post several events one after the other. -/
def postAll (producer : Producer) (cause : Nat) (events : List AppEvent) (s : State) : State :=
  events.foldl (fun s event => postEvent producer cause event s) s

/-- Call `MatterPostAttributeChangeCallback`. -/
def deliver (cause : Nat) (path : ConcreteAttributePath) (value : UInt8) (s : State) : State :=
  postAll (.attributeChange path value) cause (attributePosts path value)
    (s.note (.delivered path value))

/-- `OnOff::Set`: store the value and call the callback with it. -/
def onOffSet (cause : Nat) (endpoint : UInt16) (value : Bool) (s : State) : State :=
  let path := { endpointId := endpoint, clusterId := onOffClusterId,
                attributeId := onOffAttributeId }
  let byte := if value then 1 else 0
  deliver cause path byte (s.withDevice (s.device.setAttribute path byte))

/-- The events `SensorTimerHandler` posts. -/
def sensorTimerHandler : List AppEvent :=
  [{ type := .hotSensorMeasure, handler := some .hotSensorMeasureHandler },
   { type := .coldSensorMeasure, handler := some .coldSensorMeasureHandler },
   { type := .waterTempSensorMeasure, handler := some .waterTempSensorMeasureHandler }]

/-- `FeederMonoTimerHandler`. -/
def feederMonoTimerHandler (cause : Nat) (s : State) : State := onOffSet cause 6 false s

/-- The event of an expiry of the function timer. -/
def timerEvent : AppEvent :=
  { payload := .timerEvent, type := .timer, handler := some .functionTimerEventHandler }

/-- The events `AppTask::FunctionTimerTimeoutCallback` posts; none for a null timer. -/
def functionTimerTimeoutCallback (timer : Option TimerId) : List AppEvent :=
  if timer.isNone then [] else [timerEvent]

/-- The kernel's part of an expiry: the timer stops or is due again a period later. -/
def State.rearm (s : State) (t : TimerId) : State :=
  (s.withDevice (s.device.setTimer t (s.device.timer t).expire)).note (.expired t)

/-- The expiry of a kernel timer and the interrupt handler it runs. -/
def expire (t : TimerId) (s : State) : State :=
  let cause := s.log.length
  match t with
  | .sFunctionTimer =>
      postAll .functionTimer cause (functionTimerTimeoutCallback (some t)) (s.rearm t)
  | .sSensorTimer => postAll .sensorTimer cause sensorTimerHandler (s.rearm t)
  | .sFeederMonoTimer => feederMonoTimerHandler cause (s.rearm t)

/-- The event posted for an edge of the function button. -/
def buttonEvent (pushed : Bool) : AppEvent :=
  { payload := .buttonEvent functionButton
      (if pushed then AppEventType.buttonPushed else AppEventType.buttonReleased).toUInt8
    type := .button
    handler := some .functionHandler }

/-- `AppTask::ButtonEventHandler`. -/
def buttonEventHandler (buttonState hasChanged : UInt32) (s : State) : State :=
  if functionButtonMask &&& hasChanged ≠ 0 then
    let pushed : Bool := functionButtonMask &&& buttonState != 0
    postEvent .button s.log.length (buttonEvent pushed) (s.note (.edge pushed))
  else s

/-- The event posted for an LED widget. -/
def updateLedEvent (ledWidget : Nat) : AppEvent :=
  { payload := .updateLedStateEvent ledWidget
    type := .updateLedState
    handler := some .updateLedStateEventHandler }

/-- `AppTask::LEDStateUpdateHandler`. -/
def ledStateUpdateHandler (ledWidget : Nat) (s : State) : State :=
  postEvent .ledUpdate s.log.length (updateLedEvent ledWidget) (s.note (.ledUpdate ledWidget))

/-! ### The calls of the running handlers -/

/-- What an access to the status does. -/
def StatusAccess.effect : StatusAccess → Device → Device
  | .readFlag _, d => d
  | .writeFlag flag value, d => { d with flags := d.flags.write flag value }
  | .ledSet on, d => { d with statusLed := .set on }
  | .ledBlink rate, d => { d with statusLed := .blink rate.kOnMs rate.kOffMs }

/-- What a call returns: a flag that is read its value, anything else what the SDK answers. -/
def Device.reply (d : Device) (call : Call) (response : Response) : Response :=
  match call with
  | .status (.readFlag flag) => .ofFlag (d.flags.read flag)
  | _ => response

/-- What an SDK call does to the device at time `now`. A `pwm_set_pulse_dt` that fails leaves the
    output unchanged. -/
def effect (now : Nat) (call : Call) (response : Response) (d : Device) : Device :=
  match call with
  | .gpioPinSetDt spec value => d.setGpio spec value
  | .pwmSetPulseDt pulse => if response.rc = 0 then { d with servo := pulse } else d
  | .kTimerStart t duration period => d.setTimer t (.start now duration period)
  | .kTimerStop t => d.setTimer t (d.timer t).stop
  | .sensorSampleFetch _ => d
  | .sensorChannelGet _ _ => d
  | .temperatureMeasuredValueSet endpoint value => d.setMeasured endpoint value.toInt
  | .humidityMeasuredValueSet endpoint value => d.setMeasured endpoint value.toNat
  | .scheduleFactoryReset => d
  | .factoryResetLedsSet on => { d with factoryResetLeds := on }
  | .status access => access.effect d
  | .ledWidgetUpdateState _ => d

/-- The attribute change a call reports through `MatterPostAttributeChangeCallback`, with the first
    byte of the value. -/
def attributeChange? : Call → Option (ConcreteAttributePath × UInt8)
  | .temperatureMeasuredValueSet endpoint value =>
      some (⟨endpoint, temperatureMeasurementClusterId, measuredValueAttributeId⟩,
        value.toUInt16.toUInt8)
  | .humidityMeasuredValueSet endpoint value =>
      some (⟨endpoint, relativeHumidityMeasurementClusterId, measuredValueAttributeId⟩,
        value.toUInt8)
  | _ => none

/-- Carry out a call: record it, change the device, and report an attribute change. -/
def exec (cause : Nat) (call : Call) (response : Response) (s : State) : State :=
  let called := (s.withDevice (effect s.now call response s.device)).note
    (.called cause call response)
  match attributeChange? call with
  | some (path, value) => deliver cause path value called
  | none => called

/-! ### Steps -/

/-- One action of one context. -/
inductive Action where
  /-- Time passes. -/
  | elapse (duration : Nat)
  /-- The Matter thread stores an attribute value. -/
  | write (path : ConcreteAttributePath) (value : UInt8)
  /-- The Matter thread calls the change callback for its last store. -/
  | callback
  /-- A due kernel timer expires. -/
  | expiry (timer : TimerId)
  /-- The button driver reports changed buttons. -/
  | button (buttonState hasChanged : UInt32)
  /-- An LED widget asks for an update. -/
  | ledUpdate (ledWidget : Nat)
  /-- The Matter thread enters `ChipEventHandler`. -/
  | chip (event : ChipDeviceEvent)
  /-- The running `ChipEventHandler` makes its next access. -/
  | chipCall
  /-- The main loop takes the oldest event and enters its handler. -/
  | get
  /-- The running handler makes its next call, which the SDK answers with `response` if it is one of its
      own. -/
  | call (response : Response)
  /-- The running handler returns. -/
  | ret
deriving DecidableEq, Repr

/-- The Matter thread is neither in a write nor in `ChipEventHandler`. -/
def State.matterIdle (s : State) : Bool := s.pendingWrite.isNone && s.chip.returned

/-- The step function; `none` when the action is not enabled. -/
def step (s : State) : Action → Option State
  | .elapse duration => some { s with now := s.now + duration }
  | .write path value =>
      if s.matterIdle then
        some <| { s with
          device := s.device.setAttribute path value
          pendingWrite := some ⟨path, value, s.log.length⟩ }.note (.written path value)
      else none
  | .callback =>
      s.pendingWrite.map fun w => deliver w.cause w.path w.value { s with pendingWrite := none }
  | .expiry t => if (s.device.timer t).Due s.now then some (expire t s) else none
  | .button buttonState hasChanged => some (buttonEventHandler buttonState hasChanged s)
  | .ledUpdate ledWidget => some (ledStateUpdateHandler ledWidget s)
  | .chip event => if s.matterIdle then some { s with chip := chipEventHandler event } else none
  | .chipCall =>
      -- `ChipEventHandler` makes no other calls
      match s.chip with
      | .call (.status access) k =>
          some { s with
            device := access.effect s.device
            chip := k (s.device.reply (.status access) default) }
      | _ => none
  | .get =>
      match s.main, s.queue.get? with
      | .waiting vars, some (posted, queue) =>
          some { s with
            queue := queue
            main := .handling posted ((dispatchEvent posted.event).run vars) }
      | _, _ => none
  | .call response =>
      match s.main with
      | .handling posted (.call c k) =>
          let reply := s.device.reply c response
          some { exec posted.cause c reply s with main := .handling posted (k reply) }
      | _ => none
  | .ret =>
      match s.main with
      | .handling _ (.pure (_, vars)) => some { s with main := .waiting vars }
      | _ => none

/-- The states reached from the entry of the loop by steps that each satisfy `ok`. -/
def ReachableWhen (ok : State → Action → Prop) (s : State) : Prop :=
  Reaches step ok State.initial s

/-- The states reached from the entry of the loop by any run. -/
def Reachable (s : State) : Prop := ReachableWhen (fun _ _ => True) s

theorem ReachableWhen.reachable {ok : State → Action → Prop} {s : State}
    (reached : ReachableWhen ok s) : Reachable s :=
  Reaches.weaken reached fun _ _ _ => trivial

/-- The state an action list leads to from the entry of the loop. -/
def stateAfter (as : List Action) : State := after step State.initial as

theorem reachableWhen_stateAfter {ok : State → Action → Prop} {as : List Action}
    (along : Along step ok State.initial as) : ReachableWhen ok (stateAfter as) :=
  Reaches.after along

theorem reachable_stateAfter (as : List Action) : Reachable (stateAfter as) :=
  reachableWhen_stateAfter (along_of_forall (fun _ _ => trivial) _ _)

end DeviceWifi
