/-
Module: DeviceWifi.Proofs.Handlers
Layer: Proofs
Purpose: One specification for `DispatchEvent`: whatever the SDK answers, handling an event makes exactly
  the output calls of `handlerOutputs` and leaves `mFunction` as `functionAfter` says. From it, what each
  step of the main thread does to the output calls still to come and to the eventual `mFunction`.
Imports: DeviceWifi.Spec.Outputs, DeviceWifi.Proofs.Frame
Trusted boundary: none (fully proved)
Main exports: dispatchEvent_performs, HandlerSettled, settled_get, settled_call, settled_ret,
  settled_of_reachable
Open obligations: none
-/
import DeviceWifi.Spec.Outputs
import DeviceWifi.Proofs.Frame

namespace DeviceWifi

open Reactive

/-! ### Running main-thread code -/

section Run

variable {α : Type} (vars : AppVars)

@[simp] theorem run_sdk (c : Call) :
    (sdk c).run vars = .call c fun r => .pure (r, vars) := rfl

theorem run_sdk_bind (c : Call) (f : Response → AppM α) :
    (sdk c >>= f).run vars = .call c fun r => (f r).run vars := rfl

end Run

/-! ### Updating the status LED -/

section StatusLed

variable {α : Type}

theorem readFlag_bind (flag : NetworkFlag) (f : Bool → Prog Call Response α) :
    readFlag flag >>= f = .call (.status (.readFlag flag)) fun r => f r.flag := rfl

/-- The second flag of a conjunction is read when the first is set. -/
theorem readFlags_bind (flag flag' : NetworkFlag) (f : Bool → Prog Call Response α) :
    (readFlag flag <&&> readFlag flag') >>= f =
      .call (.status (.readFlag flag)) fun r =>
        if r.flag then .call (.status (.readFlag flag')) fun r' => f r'.flag else f false := by
  refine congrArg (Prog.call _) (funext fun r => ?_)
  show Prog.bind (match r.flag with | true => readFlag flag' | false => .pure r.flag) f = _
  cases r.flag <;> rfl

variable (f : Unit → Prog Call Response α)

/-- `UpdateStatusLED` when the network is not up: one more flag decides how fast the LED blinks. -/
def blinkThen : Prog Call Response α :=
  .call (.status (.readFlag .sHaveBLEConnections)) fun connected =>
    if connected.flag then .call (.status (.ledBlink .unprovisioned)) fun _ => f ()
    else .call (.status (.ledBlink .provisioned)) fun _ => f ()

/-- The accesses of `UpdateStatusLED`, one by one. -/
theorem updateStatusLED_bind :
    updateStatusLED >>= f =
      .call (.status (.readFlag .sIsNetworkProvisioned)) fun provisioned =>
        if provisioned.flag then
          .call (.status (.readFlag .sIsNetworkEnabled)) fun enabled =>
            if enabled.flag then .call (.status (.ledSet true)) fun _ => f () else blinkThen f
        else blinkThen f := by
  rw [updateStatusLED, Prog.bind_assoc, readFlags_bind]
  simp [readFlag_bind, Prog.ite_bind, blinkThen]

/-- A view that shows no access to the status shows what follows the update. -/
theorem performs_updateStatusLED {O : Type} {view : Call → Option O} {L : List O} {Q : α → Prop}
    (hidden : ∀ access, view (.status access) = none) (performs : (f ()).Performs view L Q) :
    (updateStatusLED >>= f).Performs view L Q := by
  have blinks : (blinkThen f).Performs view L Q := by
    rw [blinkThen, Prog.performs_hidden (hidden _)]
    intro connected
    split <;> exact (Prog.performs_hidden (hidden _)).mpr fun _ => performs
  rw [updateStatusLED_bind, Prog.performs_hidden (hidden _)]
  intro provisioned
  split
  · refine (Prog.performs_hidden (hidden _)).mpr fun enabled => ?_
    split
    · exact (Prog.performs_hidden (hidden _)).mpr fun _ => performs
    · exact blinks
  · exact blinks

end StatusLed

/-! ### The specification of dispatch -/

section Dispatch

variable (vars : AppVars)

/-- The postcondition of a handler that leaves `mFunction` at a given value. -/
abbrev LeavesFunction (mFunction : FunctionEvent) (out : Unit × AppVars) : Prop :=
  out.2.mFunction = mFunction

theorem relayHandler_performs (spec : GpioSpec) (value : Nat) :
    ((relayHandler spec value).run vars).Performs outputCall? [.gpioPinSetDt spec value]
      (LeavesFunction vars.mFunction) := by
  simp [relayHandler, Prog.Performs, outputCall?]

theorem feederActivateHandler_performs :
    (feederActivateHandler.run vars).Performs outputCall?
      [.pwmSetPulseDt pulse, .kTimerStart .sFeederMonoTimer 2000 200000]
      (LeavesFunction vars.mFunction) := by
  simp [feederActivateHandler, Prog.Performs, outputCall?]

theorem feederDeactivateHandler_performs :
    (feederDeactivateHandler.run vars).Performs outputCall?
      [.pwmSetPulseDt 0, .kTimerStop .sFeederMonoTimer] (LeavesFunction vars.mFunction) := by
  simp [feederDeactivateHandler, Prog.Performs, outputCall?]

/-- Sensor handlers make no output call, whichever of their readings fail. -/
theorem dhtMeasureHandler_performs (dev : SensorDevice)
    {store : SensorValue → SensorValue → AppVars → AppVars}
    (load : AppVars → SensorValue × SensorValue) (temperatureEndpoint humidityEndpoint : UInt16)
    (keeps : ∀ t h vars, (store t h vars).mFunction = vars.mFunction) :
    ((dhtMeasureHandler dev store load temperatureEndpoint humidityEndpoint).run vars).Performs
      outputCall? [] (LeavesFunction vars.mFunction) := by
  unfold dhtMeasureHandler
  rw [run_sdk_bind, Prog.performs_hidden rfl]
  intro fetched
  split
  · rw [run_sdk_bind, Prog.performs_hidden rfl]
    intro temperature
    split
    · rw [run_sdk_bind, Prog.performs_hidden rfl]
      intro humidity
      split <;> simp [Prog.Performs, outputCall?, LeavesFunction, keeps]
    · simp [Prog.Performs, outputCall?]
  · simp [Prog.Performs, outputCall?]

theorem hotSensorMeasureHandler_performs :
    (hotSensorMeasureHandler.run vars).Performs outputCall? [] (LeavesFunction vars.mFunction) :=
  dhtMeasureHandler_performs vars .dht22 _ 7 8 fun _ _ _ => rfl

theorem coldSensorMeasureHandler_performs :
    (coldSensorMeasureHandler.run vars).Performs outputCall? [] (LeavesFunction vars.mFunction) :=
  dhtMeasureHandler_performs vars .dht11 _ 9 10 fun _ _ _ => rfl

theorem waterTempSensorMeasureHandler_performs :
    (waterTempSensorMeasureHandler.run vars).Performs outputCall? []
      (LeavesFunction vars.mFunction) := by
  unfold waterTempSensorMeasureHandler
  rw [run_sdk_bind, Prog.performs_hidden rfl]
  intro fetched
  split
  · rw [run_sdk_bind, Prog.performs_hidden rfl]
    intro temperature
    split <;> simp [Prog.Performs, outputCall?]
  · simp [Prog.Performs, outputCall?]

theorem updateLedStateEventHandler_performs (event : AppEvent) :
    ((updateLedStateEventHandler event).run vars).Performs outputCall? []
      (LeavesFunction vars.mFunction) := by
  unfold updateLedStateEventHandler
  split
  · split <;> simp [Prog.Performs, outputCall?]
  · simp

theorem functionTimerEventHandler_performs :
    (functionTimerEventHandler.run vars).Performs outputCall?
      (FunctionInput.timer.outputs vars.mFunction) (LeavesFunction .noneSelected) := by
  unfold functionTimerEventHandler
  cases current : vars.mFunction <;>
    simp [current, FunctionInput.outputs, Prog.Performs, outputCall?, LeavesFunction]

/-- An expiry of the function timer while a reset is armed: it is announced and scheduled. -/
theorem run_functionTimerEventHandler_armed (armed : vars.mFunction = .factoryReset) :
    functionTimerEventHandler.run vars =
      .call (.status (.ledSet true)) fun _ => .call (.factoryResetLedsSet true) fun _ =>
        .call .scheduleFactoryReset fun _ => .pure ((), { vars with mFunction := .noneSelected }) := by
  simp [functionTimerEventHandler, armed]

/-- A release while a reset is armed: the announcement is taken back, the status LED updated and the timer
    stopped. -/
theorem run_functionHandler_release {event : AppEvent}
    (release : event.payload = .buttonEvent functionButton AppEventType.buttonReleased.toUInt8)
    (armed : vars.mFunction = .factoryReset) :
    (functionHandler event).run vars =
      .call (.factoryResetLedsSet false) fun _ => updateStatusLED >>= fun _ =>
        .call (.kTimerStop .sFunctionTimer) fun _ =>
          .pure ((), { vars with mFunction := .noneSelected }) := by
  have apart : AppEventType.buttonReleased.toUInt8 ≠ AppEventType.buttonPushed.toUInt8 := by decide
  simp [functionHandler, release, apart, armed, cancelTimer, Prog.bind_assoc]

/-- A button event of the function button is handled as its input says, any other is ignored. -/
theorem functionHandler_performs {event : AppEvent}
    (handler : event.handler = some .functionHandler) :
    ((functionHandler event).run vars).Performs outputCall?
      (handlerOutputs event vars.mFunction)
      (LeavesFunction (functionAfter vars.mFunction event)) := by
  unfold handlerOutputs functionAfter AppEvent.functionInput?
  rw [handler]
  cases payload : event.payload with
  | buttonEvent pinNo action =>
      by_cases foreign : pinNo = functionButton
      · by_cases push : action = AppEventType.buttonPushed.toUInt8
        · simp [functionHandler, payload, foreign, push, startTimer, FunctionInput.outputs,
            FunctionInput.next, Prog.Performs, outputCall?, LeavesFunction]
        · by_cases release : action = AppEventType.buttonReleased.toUInt8
          · subst foreign release
            cases armed : vars.mFunction with
            | noneSelected =>
                simp [functionHandler, payload, push, armed, FunctionInput.outputs,
                  FunctionInput.next, LeavesFunction]
            | factoryReset =>
                rw [run_functionHandler_release vars payload armed]
                simp only [ne_eq, not_true_eq_false, push, if_false, if_true]
                refine (Prog.performs_hidden rfl).mpr fun _ =>
                  performs_updateStatusLED _ (fun _ => rfl) ?_
                simp [Prog.Performs, outputCall?, FunctionInput.outputs, FunctionInput.next,
                  LeavesFunction]
          · simp [functionHandler, payload, foreign, push, release, actuatorOutputs, LeavesFunction]
      · simp [functionHandler, payload, foreign, actuatorOutputs, LeavesFunction]
  | _ => simp [functionHandler, payload, actuatorOutputs, LeavesFunction]

/-- Dispatch calls the handler the event points to. -/
theorem dispatchEvent_some {event : AppEvent} {handler : EventHandler}
    (points : event.handler = some handler) : dispatchEvent event = handler.invoke event := by
  simp [dispatchEvent, points]

/-- Only the two function handlers act on `mFunction`. -/
theorem functionInput?_eq_none {event : AppEvent}
    (notButton : event.handler ≠ some .functionHandler)
    (notTimer : event.handler ≠ some .functionTimerEventHandler) :
    event.functionInput? = none := by
  unfold AppEvent.functionInput?
  split <;> simp_all

/-- Handling an event makes exactly the output calls of `handlerOutputs`, whatever the SDK answers,
    and leaves `mFunction` as `functionAfter` says. -/
theorem dispatchEvent_performs (event : AppEvent) :
    ((dispatchEvent event).run vars).Performs outputCall?
      (handlerOutputs event vars.mFunction)
      (LeavesFunction (functionAfter vars.mFunction event)) := by
  by_cases button : event.handler = some .functionHandler
  · rw [dispatchEvent_some button]
    exact functionHandler_performs vars button
  by_cases timer : event.handler = some .functionTimerEventHandler
  · have input : event.functionInput? = some .timer := by simp [AppEvent.functionInput?, timer]
    rw [dispatchEvent_some timer]
    simp only [handlerOutputs, functionAfter, input]
    exact functionTimerEventHandler_performs vars
  · have input := functionInput?_eq_none button timer
    simp only [handlerOutputs, functionAfter, input]
    cases handler : event.handler with
    | none => simp [dispatchEvent, handler, LeavesFunction]
    | some h =>
        rw [dispatchEvent_some handler, Option.map_some, Option.getD_some]
        cases h with
        | hotSensorMeasureHandler => exact hotSensorMeasureHandler_performs vars
        | coldSensorMeasureHandler => exact coldSensorMeasureHandler_performs vars
        | waterTempSensorMeasureHandler => exact waterTempSensorMeasureHandler_performs vars
        | hotLampActivateHandler => exact relayHandler_performs vars _ _
        | hotLampDeactivateHandler => exact relayHandler_performs vars _ _
        | uvbLampActivateHandler => exact relayHandler_performs vars _ _
        | uvbLampDeactivateHandler => exact relayHandler_performs vars _ _
        | heaterActivateHandler => exact relayHandler_performs vars _ _
        | heaterDeactivateHandler => exact relayHandler_performs vars _ _
        | filterActivateHandler => exact relayHandler_performs vars _ _
        | filterDeactivateHandler => exact relayHandler_performs vars _ _
        | feederActivateHandler => exact feederActivateHandler_performs vars
        | feederDeactivateHandler => exact feederDeactivateHandler_performs vars
        | updateLedStateEventHandler => exact updateLedStateEventHandler_performs vars event
        | functionHandler => exact absurd handler button
        | functionTimerEventHandler => exact absurd handler timer

end Dispatch

/-- The view shows an output call as itself. -/
theorem eq_of_outputCall? {c o : Call} (visible : outputCall? c = some o) : c = o := by
  unfold outputCall? at visible
  split at visible <;> simp_all

/-! ### The main thread's steps, seen through the specification -/

/-- A running handler makes the output calls read off its program and leaves `mFunction` at the value
    read off its program, whatever the SDK answers from here on; both are what the event's
    specification says, less the calls already made. -/
def HandlerSettled (main : MainThread) : Prop :=
  match main with
  | .waiting _ => True
  | .handling posted rest =>
      rest.Performs outputCall? main.outputs (LeavesFunction main.function) ∧
        ∃ mFunction, main.outputs <:+ handlerOutputs posted.event mFunction ∧
          main.function = functionAfter mFunction posted.event

/-- What a program performs is what its readings say. -/
theorem readings_of_performs (posted : Posted) {rest : Prog Call Response (Unit × AppVars)}
    {L : List Call} {mFunction : FunctionEvent}
    (performs : rest.Performs outputCall? L (LeavesFunction mFunction)) :
    (MainThread.handling posted rest).outputs = L ∧
      (MainThread.handling posted rest).function = mFunction :=
  ⟨performs.filterMap_trace fun _ => default, performs.result fun _ => default⟩

section Readings

variable {posted : Posted} {vars : AppVars}

/-- Entering a handler: its output calls are those of the event. -/
@[simp] theorem outputs_get :
    (MainThread.handling posted ((dispatchEvent posted.event).run vars)).outputs =
      handlerOutputs posted.event vars.mFunction :=
  (readings_of_performs posted (dispatchEvent_performs vars posted.event)).1

@[simp] theorem function_get :
    (MainThread.handling posted ((dispatchEvent posted.event).run vars)).function =
      functionAfter vars.mFunction posted.event :=
  (readings_of_performs posted (dispatchEvent_performs vars posted.event)).2

theorem settled_get :
    HandlerSettled (.handling posted ((dispatchEvent posted.event).run vars)) := by
  refine ⟨?_, vars.mFunction, ?_, function_get⟩
  · rw [outputs_get, function_get]
    exact dispatchEvent_performs vars posted.event
  · exact outputs_get ▸ List.suffix_refl _

/-- One call of a handler: an output call is the first of those to come, any other keeps them. -/
theorem settled_call {c : Call} {k : Response → Prog Call Response (Unit × AppVars)}
    (settled : HandlerSettled (.handling posted (.call c k))) (r : Response) :
    HandlerSettled (.handling posted (k r)) ∧
      (MainThread.handling posted (k r)).function =
        (MainThread.handling posted (.call c k)).function ∧
      (MainThread.handling posted (.call c k)).outputs =
        (outputCall? c).toList ++ (MainThread.handling posted (k r)).outputs := by
  obtain ⟨performs, mFunction, suffix, function⟩ := settled
  rcases performs.next r with ⟨hidden, continues⟩ | ⟨o, rest, visible, split, continues⟩
  · obtain ⟨outputs', function'⟩ := readings_of_performs posted continues
    refine ⟨⟨?_, mFunction, ?_, ?_⟩, function', by simp [hidden, outputs']⟩
    · rwa [outputs', function']
    · rwa [outputs']
    · rw [function', function]
  · obtain ⟨outputs', function'⟩ := readings_of_performs posted continues
    refine ⟨⟨?_, mFunction, ?_, ?_⟩, function', by simp [visible, outputs', split]⟩
    · rwa [outputs', function']
    · rw [outputs']
      exact (split ▸ List.suffix_cons o rest).trans suffix
    · rw [function', function]

/-- An output call that is made next is one of the event's. -/
theorem settled_call_mem {c o : Call} {k : Response → Prog Call Response (Unit × AppVars)}
    (settled : HandlerSettled (.handling posted (.call c k))) (visible : outputCall? c = some o) :
    ∃ mFunction, o ∈ handlerOutputs posted.event mFunction := by
  obtain ⟨mFunction, suffix, _⟩ := settled.2
  have outputs := (settled_call settled default).2.2
  refine ⟨mFunction, suffix.subset ?_⟩
  simp [outputs, visible]

/-- A handler that returns has no output call left. -/
theorem settled_ret {u : Unit}
    (settled : HandlerSettled (.handling posted (.pure (u, vars)))) :
    (MainThread.handling posted (.pure (u, vars))).outputs = [] ∧
      vars.mFunction = (MainThread.handling posted (.pure (u, vars))).function :=
  ⟨settled.1.1, settled.1.2⟩

end Readings

/-- Only the main thread's own steps change the main thread. -/
theorem settled_step {s s' : State} {a : Action} (settled : HandlerSettled s.main)
    (taken : step s a = some s') : HandlerSettled s'.main := by
  cases stepEffect taken with
  | get vars posted queue main items => exact settled_get
  | call posted c k r rest main reports => exact (settled_call (main ▸ settled) r).1
  | ret posted u vars main => exact trivial
  | _ => simpa using settled

/-- In every reachable state the running handler does what the specification of its event says. -/
theorem settled_of_reachable {s : State} (reached : Reachable s) : HandlerSettled s.main :=
  reached.invariant trivial fun settled _ taken => settled_step settled taken

end DeviceWifi
