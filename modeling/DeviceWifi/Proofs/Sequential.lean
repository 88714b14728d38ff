/-
Module: DeviceWifi.Proofs.Sequential
Layer: Proofs
Purpose: The running device refines sequential handling. No handler repeats a call, so an execution of it
  that was suspended and resumed any number of times, while other contexts ran, is one against a fixed
  table of answers. With the queue a FIFO, the main thread of every reachable state has therefore handled
  the accepted events one after the other, as if nothing ran in between.
Imports: DeviceWifi.Spec.Sequential, DeviceWifi.Proofs.Handlers
Trusted boundary: none (fully proved)
Main exports: dispatchEvent_callsAmong, Feeds, runsSequentially_step, sequential_of_reachable,
  sameOutputs_step, runs_sequentially
Open obligations: none
-/
import DeviceWifi.Spec.Sequential
import DeviceWifi.Proofs.Handlers

namespace DeviceWifi

open Reactive

/-! ### Call sites -/

section Sites

variable (vars : AppVars)

/-- Whichever of its readings fail, a DHT handler calls at its sites, in order. -/
theorem dhtMeasureHandler_callsAmong (dev : SensorDevice)
    (store : SensorValue → SensorValue → AppVars → AppVars)
    (load : AppVars → SensorValue × SensorValue) (temperatureEndpoint humidityEndpoint : UInt16) :
    ((dhtMeasureHandler dev store load temperatureEndpoint humidityEndpoint).run vars).CallsAmong
      Call.site (dhtSites dev temperatureEndpoint humidityEndpoint) := by
  unfold dhtMeasureHandler
  rw [run_sdk_bind]
  refine Prog.callsAmong_head.mpr fun fetched => ?_
  split
  · rw [run_sdk_bind]
    refine Prog.callsAmong_head.mpr fun temperature => ?_
    split
    · rw [run_sdk_bind]
      refine Prog.callsAmong_head.mpr fun humidity => ?_
      split <;> simp [Prog.CallsAmong, Call.site]
    · simp [Prog.CallsAmong, Call.site]
  · simp [Prog.CallsAmong, Call.site]

theorem hotSensorMeasureHandler_callsAmong :
    (hotSensorMeasureHandler.run vars).CallsAmong Call.site (dhtSites .dht22 7 8) := by
  unfold hotSensorMeasureHandler
  exact dhtMeasureHandler_callsAmong vars .dht22 _ _ 7 8

theorem coldSensorMeasureHandler_callsAmong :
    (coldSensorMeasureHandler.run vars).CallsAmong Call.site (dhtSites .dht11 9 10) := by
  unfold coldSensorMeasureHandler
  exact dhtMeasureHandler_callsAmong vars .dht11 _ _ 9 10

theorem waterTempSensorMeasureHandler_callsAmong :
    (waterTempSensorMeasureHandler.run vars).CallsAmong Call.site
      [.sensorSampleFetch .ds18b20, .sensorChannelGet .ds18b20 .ambientTemp,
       .temperatureMeasuredValueSet 11 0] := by
  unfold waterTempSensorMeasureHandler
  rw [run_sdk_bind]
  refine Prog.callsAmong_head.mpr fun fetched => ?_
  split
  · rw [run_sdk_bind]
    refine Prog.callsAmong_head.mpr fun temperature => ?_
    split <;> simp [Prog.CallsAmong, Call.site]
  · simp [Prog.CallsAmong, Call.site]

/-- `UpdateStatusLED` calls at its sites, in order, before those of what follows it. -/
theorem updateStatusLED_callsAmong {f : Unit → Prog Call Response (Unit × AppVars)}
    {later : List Call} (follows : (f ()).CallsAmong Call.site later) :
    (updateStatusLED >>= f).CallsAmong Call.site (updateStatusLEDSites ++ later) := by
  rw [updateStatusLED_bind]
  refine Prog.callsAmong_head.mpr fun provisioned => ?_
  split
  · refine Prog.callsAmong_head.mpr fun enabled => ?_
    split
    · simpa [Prog.CallsAmong, Call.site] using follows
    · refine Prog.callsAmong_head.mpr fun connected => ?_
      split <;> simpa [Prog.CallsAmong, Call.site] using follows
  · simp only [blinkThen, Prog.CallsAmong, Call.site]
    intro connected
    split <;> simpa [Prog.CallsAmong, Call.site] using follows

/-- The handler of the button calls at the sites of the input it handles; an event it ignores has none. -/
theorem functionHandler_callsAmong {event : AppEvent}
    (handler : event.handler = some .functionHandler) :
    ((functionHandler event).run vars).CallsAmong Call.site event.sites := by
  unfold AppEvent.sites AppEvent.functionInput?
  rw [handler]
  cases payload : event.payload with
  | buttonEvent pinNo action =>
      by_cases foreign : pinNo = functionButton
      · by_cases push : action = AppEventType.buttonPushed.toUInt8
        · simp [functionHandler, payload, foreign, push, startTimer, Prog.CallsAmong, Call.site,
            FunctionInput.sites]
        · by_cases release : action = AppEventType.buttonReleased.toUInt8
          · subst foreign release
            cases armed : vars.mFunction with
            | noneSelected => simp [functionHandler, payload, push, armed]
            | factoryReset =>
                rw [run_functionHandler_release vars payload armed]
                simp only [ne_eq, not_true_eq_false, push, if_false, if_true]
                refine Prog.callsAmong_head.mpr fun _ => updateStatusLED_callsAmong ?_
                simp [Prog.CallsAmong, Call.site]
          · simp [functionHandler, payload, foreign, push, release]
      · simp [functionHandler, payload, foreign]
  | _ => simp [functionHandler, payload]

/-- The LED handler calls the widget of its payload, and nothing when the event is not its own. -/
theorem updateLedStateEventHandler_callsAmong (event : AppEvent) :
    ((updateLedStateEventHandler event).run vars).CallsAmong Call.site
      (EventHandler.sites .updateLedStateEventHandler event.payload) := by
  unfold updateLedStateEventHandler
  split
  · cases event.payload <;> simp [Prog.CallsAmong, Call.site, EventHandler.sites]
  · simp

/-- Whatever the SDK answers, handling an event calls at the event's sites, in order. -/
theorem dispatchEvent_callsAmong (event : AppEvent) :
    ((dispatchEvent event).run vars).CallsAmong Call.site event.sites := by
  by_cases button : event.handler = some .functionHandler
  · rw [dispatchEvent_some button]
    exact functionHandler_callsAmong vars button
  by_cases timer : event.handler = some .functionTimerEventHandler
  · have input : event.functionInput? = some .timer := by simp [AppEvent.functionInput?, timer]
    rw [dispatchEvent_some timer, AppEvent.sites, input]
    simp only [EventHandler.invoke, functionTimerEventHandler]
    cases current : vars.mFunction <;>
      simp [current, Prog.CallsAmong, Call.site, FunctionInput.sites]
  · rw [AppEvent.sites, functionInput?_eq_none button timer]
    cases handler : event.handler with
    | none => simp [dispatchEvent, handler]
    | some h =>
        rw [dispatchEvent_some handler, Option.map_some, Option.getD_some]
        cases h with
        | hotSensorMeasureHandler => exact hotSensorMeasureHandler_callsAmong vars
        | coldSensorMeasureHandler => exact coldSensorMeasureHandler_callsAmong vars
        | waterTempSensorMeasureHandler => exact waterTempSensorMeasureHandler_callsAmong vars
        | updateLedStateEventHandler => exact updateLedStateEventHandler_callsAmong vars event
        | functionHandler => exact absurd handler button
        | functionTimerEventHandler => exact absurd handler timer
        | feederActivateHandler =>
            simp [EventHandler.invoke, feederActivateHandler, Prog.CallsAmong, Call.site,
              EventHandler.sites, actuatorOutputs]
        | feederDeactivateHandler =>
            simp [EventHandler.invoke, feederDeactivateHandler, Prog.CallsAmong, Call.site,
              EventHandler.sites, actuatorOutputs]
        | _ =>
            simp [EventHandler.invoke, hotLampActivateHandler, hotLampDeactivateHandler,
              uvbLampActivateHandler, uvbLampDeactivateHandler, heaterActivateHandler,
              heaterDeactivateHandler, filterActivateHandler, filterDeactivateHandler,
              relayHandler, Prog.CallsAmong, Call.site, EventHandler.sites, actuatorOutputs]

/-- Only the function timer's handler takes an event as the timer's. -/
theorem handler_of_timer {event : AppEvent} (input : event.functionInput? = some .timer) :
    event.handler = some .functionTimerEventHandler := by
  unfold AppEvent.functionInput? at input
  split at input
  next handler => exact handler
  next => split_ifs at input <;> simp at input
  next => simp at input

/-- The function timer's handler calls exactly as its sites say. -/
theorem timer_callsAmong {event : AppEvent} (input : event.functionInput? = some .timer) :
    ((dispatchEvent event).run vars).CallsAmong id FunctionInput.timer.sites := by
  rw [dispatchEvent_some (handler_of_timer input)]
  simp only [EventHandler.invoke, functionTimerEventHandler]
  cases current : vars.mFunction <;> simp [current, Prog.CallsAmong, FunctionInput.sites]

/-- No site occurs twice, and there are at most six. -/
theorem sites_spec (event : AppEvent) : event.sites.Nodup ∧ event.sites.length ≤ 6 := by
  unfold AppEvent.sites
  split
  next input _ => cases input <;> decide
  next =>
    cases event.handler with
    | none => exact ⟨List.nodup_nil, Nat.zero_le 6⟩
    | some h =>
        rw [Option.map_some, Option.getD_some]
        cases h with
        | updateLedStateEventHandler => cases event.payload <;> simp [EventHandler.sites, actuatorOutputs]
        | _ => simp only [EventHandler.sites]; decide

theorem sites_nodup (event : AppEvent) : event.sites.Nodup := (sites_spec event).1

theorem length_sites (event : AppEvent) : event.sites.length ≤ 6 := (sites_spec event).2

end Sites

/-! ### Reading one more entry -/

section Readings

variable (log log' : List Entry) (time : Nat)

@[simp] theorem acceptedEvents_append :
    acceptedEvents (log ++ log') = acceptedEvents log ++ acceptedEvents log' :=
  List.filterMap_append

@[simp] theorem exchanges_append : exchanges (log ++ log') = exchanges log ++ exchanges log' :=
  List.filterMap_append

@[simp] theorem exchanges_called (cause : Nat) (c : Call) (r : Response) :
    exchanges (⟨time, .called cause c r⟩ :: log) = (c, r) :: exchanges log := rfl

@[simp] theorem acceptedEvents_called (cause : Nat) (c : Call) (r : Response) :
    acceptedEvents (⟨time, .called cause c r⟩ :: log) = acceptedEvents log := rfl

/-- What a call reports is a change of an attribute that is no load's: no event, and no further call. -/
theorem reported_silent {now : Nat} {rest : List Entry}
    (reports : rest = [] ∨ ∃ path value, (∀ e : Actuator, path ≠ e.onOffPath) ∧
      rest = [⟨now, .delivered path value⟩]) : exchanges rest = [] ∧ acceptedEvents rest = [] := by
  rcases reports with rfl | ⟨path, value, _, rfl⟩ <;> exact ⟨rfl, rfl⟩

end Readings

/-! ### What the other contexts do to the main thread -/

/-- From one state to another the main thread has made no step, and the queue has got the events that were
    accepted in between at its back. -/
structure Feeds (s s' : State) : Prop where
  main : s'.main = s.main
  exchanged : exchanges s'.log = exchanges s.log
  queued : ∃ events, acceptedEvents s'.log = acceptedEvents s.log ++ events ∧
    s'.queue.items.map Posted.event = s.queue.items.map Posted.event ++ events

section Feeds

variable {s s' s'' : State}

/-- Nothing is fed where the readings of the log and the queue are the same. -/
theorem Feeds.of_same (main : s'.main = s.main) (exchanged : exchanges s'.log = exchanges s.log)
    (accepted : acceptedEvents s'.log = acceptedEvents s.log) (queue : s'.queue = s.queue) :
    Feeds s s' :=
  ⟨main, exchanged, [], by simp [accepted], by simp [queue]⟩

theorem Feeds.trans (first : Feeds s s') (second : Feeds s' s'') : Feeds s s'' := by
  obtain ⟨events, accepted, queue⟩ := first.queued
  obtain ⟨more, accepted', queue'⟩ := second.queued
  refine ⟨second.main.trans first.main, second.exchanged.trans first.exchanged, events ++ more, ?_, ?_⟩
  · rw [accepted', accepted, List.append_assoc]
  · rw [queue', queue, List.append_assoc]

/-- Posting feeds the event, or nothing when the queue is full. -/
theorem Feeds.post (feeds : Feeds s s') (producer : Producer) (cause : Nat) (event : AppEvent) :
    Feeds s (postEvent producer cause event s') := by
  apply feeds.trans
  rcases postEvent_cases producer cause event s' with ⟨_, items, log⟩ | ⟨_, queue, log⟩
  · refine ⟨postEvent_main .., ?_, [event], ?_, ?_⟩
    · simp [log, exchanges]
    · simp [log, acceptedEvents]
    · simp [items]
  · apply Feeds.of_same (postEvent_main ..) _ _ queue
    · simp [log, exchanges]
    · simp [log, acceptedEvents]

/-- Every action but those of the main thread only feeds. -/
theorem feeds_of_environment {a : Action} (taken : step s a = some s')
    (environment : a ≠ .get ∧ (∀ r, a ≠ .call r) ∧ a ≠ .ret) : Feeds s s' := by
  cases stepEffect taken with
  | loadCallback w e pending load =>
      apply Feeds.post
      apply Feeds.of_same <;> simp [exchanges, acceptedEvents]
  | functionExpiry due =>
      apply Feeds.post
      apply Feeds.of_same <;> simp [exchanges, acceptedEvents]
  | feederExpiry due =>
      apply Feeds.post
      apply Feeds.of_same <;> simp [exchanges, acceptedEvents]
  | edge buttonState hasChanged pushed changed level =>
      apply Feeds.post
      apply Feeds.of_same <;> simp [exchanges, acceptedEvents]
  | ledUpdate ledWidget =>
      apply Feeds.post
      apply Feeds.of_same <;> simp [exchanges, acceptedEvents]
  | sensorExpiry due =>
      refine postAll_induction (I := fun t => Feeds s t) ?_ fun t event _ feeds => feeds.post ..
      apply Feeds.of_same <;> simp [exchanges, acceptedEvents]
  | get => exact absurd rfl environment.1
  | call => exact absurd rfl (environment.2.1 _)
  | ret => exact absurd rfl environment.2.2
  | _ => apply Feeds.of_same <;> simp [exchanges, acceptedEvents]

end Feeds

/-! ### The refinement -/

section Steps

variable {s s' : State} {handled : List Handled}

/-- On entry to the loop nothing has been handled. -/
theorem runsSequentially_initial : RunsSequentially .initial [] := ⟨rfl, rfl, rfl⟩

/-- What the other contexts do leaves the agreement alone. -/
theorem RunsSequentially.feeds (runs : RunsSequentially s handled) (feeds : Feeds s s') :
    RunsSequentially s' handled := by
  obtain ⟨events, accepted, queue⟩ := feeds.queued
  constructor
  case events => rw [accepted, runs.events, feeds.main, queue, List.append_assoc]
  case thread =>
    rw [feeds.main, feeds.exchanged]
    exact runs.thread

/-- Every step keeps the agreement: a handler that returns is one more handled event, all others leave the
    sequence as it is. -/
theorem runsSequentially_step {a : Action} (runs : RunsSequentially s handled)
    (taken : step s a = some s') : ∃ handled', RunsSequentially s' handled' := by
  cases stepEffect taken with
  | get vars posted queue main items =>
      have thread := runs.thread
      simp only [main] at thread
      obtain ⟨rfl, exchanged⟩ := thread
      refine ⟨handled, ?_, [], .refl _, by simpa using exchanged⟩
      simpa [main, items] using runs.events
  | call posted c k r rest main reports =>
      have thread := runs.thread
      simp only [main] at thread
      obtain ⟨made, leads, exchanged⟩ := thread
      have silent := reported_silent reports
      refine ⟨handled, ?_, made ++ [(c, r)], leads.answer r, ?_⟩
      · simpa [main, silent] using runs.events
      · simp [exchanged, silent]
  | ret posted u vars main =>
      have thread := runs.thread
      simp only [main] at thread
      obtain ⟨made, leads, exchanged⟩ := thread
      -- no site is called twice, so a table gives the answers that were received
      have distinct := (dispatchEvent_callsAmong (varsAfter handled) posted.event).nodup
        (sites_nodup posted.event) leads
      obtain ⟨answers, calls, left⟩ := leads.exists_table distinct
      refine ⟨handled ++ [⟨posted.event, answers⟩], ?_, ?_, ?_⟩
      · simpa [main] using runs.events
      · simp [Handled.varsAfter, left]
      · rw [exchangesOver_concat]
        exact exchanged.trans (congrArg _ calls.symm)
  | _ => exact ⟨handled, runs.feeds (feeds_of_environment taken (by simp))⟩

end Steps

theorem sequential_of_reachable {s : State} (reached : Reachable s) :
    ∃ handled, RunsSequentially s handled :=
  reached.invariant (I := fun s => ∃ handled, RunsSequentially s handled)
    ⟨[], runsSequentially_initial⟩ fun ⟨_, runs⟩ _ taken => runsSequentially_step runs taken

/-! ### The outputs -/

section Outputs

variable {d d' d'' : Device}

theorem SameOutputs.refl (d : Device) : SameOutputs d d := ⟨rfl, rfl, rfl, rfl⟩

theorem SameOutputs.symm (same : SameOutputs d d') : SameOutputs d' d :=
  ⟨same.gpio.symm, same.servo.symm, same.measured.symm, same.factoryResetLeds.symm⟩

theorem SameOutputs.trans (first : SameOutputs d d') (second : SameOutputs d' d'') :
    SameOutputs d d'' :=
  ⟨first.gpio.trans second.gpio, first.servo.trans second.servo,
    first.measured.trans second.measured, first.factoryResetLeds.trans second.factoryResetLeds⟩

/-- An access to the status changes no such output. -/
theorem statusEffect_sameOutputs (access : StatusAccess) (d : Device) :
    SameOutputs (access.effect d) d := by
  cases access <;> exact ⟨rfl, rfl, rfl, rfl⟩

/-- A call does the same to equal outputs, whenever it is made. -/
theorem effect_sameOutputs (now now' : Nat) (c : Call) (r : Response) (same : SameOutputs d d') :
    SameOutputs (effect now c r d) (effect now' c r d') := by
  obtain ⟨gpio, servo, measured, leds⟩ := same
  cases c with
  | gpioPinSetDt spec value => exact ⟨by simp [effect, Device.setGpio, gpio], servo, measured, leds⟩
  | pwmSetPulseDt width =>
      simp only [effect]
      split
      · exact ⟨gpio, rfl, measured, leds⟩
      · exact ⟨gpio, servo, measured, leds⟩
  | temperatureMeasuredValueSet endpoint value =>
      exact ⟨gpio, servo, by simp [effect, Device.setMeasured, measured], leds⟩
  | humidityMeasuredValueSet endpoint value =>
      exact ⟨gpio, servo, by simp [effect, Device.setMeasured, measured], leds⟩
  | factoryResetLedsSet on => exact ⟨gpio, servo, measured, rfl⟩
  | status access =>
      exact (statusEffect_sameOutputs access d).trans
        (SameOutputs.trans ⟨gpio, servo, measured, leds⟩ (statusEffect_sameOutputs access d').symm)
  | _ => exact ⟨gpio, servo, measured, leds⟩

@[simp] theorem deviceOver_concat (made : List (Call × Response)) (c : Call) (r : Response) :
    deviceOver (made ++ [(c, r)]) = effect 0 c r (deviceOver made) := by
  simp [deviceOver]

/-- Only the main thread's calls change these outputs. -/
theorem sameOutputs_step {s s' : State} {a : Action} (taken : step s a = some s')
    (same : SameOutputs s.device (deviceOver (exchanges s.log))) :
    SameOutputs s'.device (deviceOver (exchanges s'.log)) := by
  by_cases environment : a ≠ .get ∧ (∀ r, a ≠ .call r) ∧ a ≠ .ret
  · rw [(feeds_of_environment taken environment).exchanged]
    refine SameOutputs.trans ?_ same
    cases stepEffect taken with
    | chip => exact .refl _
    | chipCall access => exact statusEffect_sameOutputs access s.device
    | sensorExpiry due => rw [postAll_device]; exact ⟨rfl, rfl, rfl, rfl⟩
    | get => simp at environment
    | call => simp at environment
    | ret => simp at environment
    | elapse => exact .refl _
    | write => exact ⟨rfl, rfl, rfl, rfl⟩
    | otherCallback => exact .refl _
    | noEdge => exact .refl _
    | _ => rw [postEvent_device]; exact ⟨rfl, rfl, rfl, rfl⟩
  · cases stepEffect taken with
    | call posted c k r rest main reports =>
        have silent := (reported_silent reports).1
        have one : exchanges (s.log ++ (⟨s.now, .called posted.cause c r⟩ :: rest)) =
            exchanges s.log ++ [(c, r)] := by simp [silent]
        simp only [one, deviceOver_concat]
        exact effect_sameOutputs _ _ c r same
    | get => exact same
    | ret => exact same
    | _ => simp at environment

theorem sameOutputs_of_reachable {s : State} (reached : Reachable s) :
    SameOutputs s.device (deviceOver (exchanges s.log)) :=
  reached.invariant (I := fun s => SameOutputs s.device (deviceOver (exchanges s.log))) (.refl _)
    fun same _ taken => sameOutputs_step taken same

end Outputs

/-- The running device refines sequential handling: in every reachable state the accepted events have been
    handled one after the other in the order of acceptance, up to the one in hand and those still
    queued; the calls made, their answers and the variables are those of handling them so, and the
    outputs are those the calls alone lead to, whatever the other contexts did in between. A flag that
    is read counts as a call, and the value found as its answer. -/
theorem runs_sequentially (s : State) (reached : Reachable s) :
    (∃ handled, RunsSequentially s handled) ∧
      SameOutputs s.device (deviceOver (exchanges s.log)) :=
  ⟨sequential_of_reachable reached, sameOutputs_of_reachable reached⟩

/-- The sensor timer expires, and while the hot sensor is being read the heater is switched on and the
    button pushed. The reading ends, and the cold sensor's begins. -/
def readingPreempted : List Action :=
  [.elapse 5000, .expiry .sSensorTimer, .get, .call ⟨0, default⟩, .write Actuator.heater.onOffPath 1,
   .call ⟨0, ⟨30, 0⟩⟩, .callback, .call ⟨-5, default⟩, .button 1 1, .call ⟨0, default⟩,
   .call ⟨0, default⟩, .ret, .get, .call ⟨-5, default⟩]

/-- `runs_sequentially` on a preempted reading: what has been handled is the hot sensor's event, although
    the Matter thread and the button ran between its calls. -/
theorem runs_sequentially_readingPreempted :
    ∃ handled, RunsSequentially (stateAfter readingPreempted) handled ∧
      handled.map Handled.event =
        [{ type := .hotSensorMeasure, handler := some .hotSensorMeasureHandler }] := by
  obtain ⟨⟨handled, runs⟩, _⟩ :=
    runs_sequentially (stateAfter readingPreempted) (reachable_stateAfter _)
  have before : acceptedEvents (stateAfter readingPreempted).log =
      [{ type := .hotSensorMeasure, handler := some .hotSensorMeasureHandler }] ++
        (stateAfter readingPreempted).main.inHandEvent ++
        (stateAfter readingPreempted).queue.items.map Posted.event := by decide +kernel
  have events := runs.events.symm.trans before
  rw [List.append_left_inj, List.append_left_inj] at events
  exact ⟨handled, runs, events⟩

end DeviceWifi
