/-
Module: DeviceWifi.Proofs.Sampling
Layer: Proofs
Purpose: The sensors of the running device. Other events touch neither the stored values nor the
  `MeasuredValue` attributes, so what holds of a sequence of readings holds of the readings among the
  events the device has handled. Every reading the sensor timer asks for is accounted for, and none is
  made that it did not ask for, so no sensor is fetched more often than the timer expires.
Imports: DeviceWifi.Spec.Sampling, DeviceWifi.Proofs.Sequential, DeviceWifi.Proofs.Sensors
Trusted boundary: none (fully proved)
Main exports: dispatchEvent_silent, measured_attributes, sensor_accounting, sampling_rate
Open obligations: none
-/
import DeviceWifi.Spec.Sampling
import DeviceWifi.Proofs.Sequential
import DeviceWifi.Proofs.Sensors

namespace DeviceWifi

open Reactive

/-! ### Events that are no readings -/

/-- An event that is no reading publishes nothing and changes no variable but `mFunction`. -/
theorem dispatchEvent_silent (vars : AppVars) {event : AppEvent} (other : event.sensor? = none) :
    ((dispatchEvent event).run vars).Performs publication? []
      fun out => ∃ mFunction, out.2 = { vars with mFunction := mFunction } := by
  have same : ∃ mFunction, vars = { vars with mFunction := mFunction } := ⟨vars.mFunction, rfl⟩
  cases handler : event.handler with
  | none => simp [dispatchEvent, handler, same]
  | some h =>
      rw [dispatchEvent_some handler]
      cases h with
      | hotSensorMeasureHandler => simp [AppEvent.sensor?, handler] at other
      | coldSensorMeasureHandler => simp [AppEvent.sensor?, handler] at other
      | waterTempSensorMeasureHandler => simp [AppEvent.sensor?, handler] at other
      | feederActivateHandler =>
          simp [EventHandler.invoke, feederActivateHandler, Prog.Performs, publication?, same]
      | feederDeactivateHandler =>
          simp [EventHandler.invoke, feederDeactivateHandler, Prog.Performs, publication?, same]
      | updateLedStateEventHandler =>
          simp only [EventHandler.invoke, updateLedStateEventHandler]
          split
          · split <;> simp [Prog.Performs, publication?, same]
          · simp [same]
      | functionTimerEventHandler =>
          simp only [EventHandler.invoke, functionTimerEventHandler]
          cases current : vars.mFunction <;> simp [current, Prog.Performs, publication?, same]
      | functionHandler =>
          rw [EventHandler.invoke]
          cases payload : event.payload with
          | buttonEvent pinNo action =>
              by_cases foreign : pinNo = functionButton
              · by_cases push : action = AppEventType.buttonPushed.toUInt8
                · simp [functionHandler, payload, foreign, push, startTimer, Prog.Performs, publication?]
                · by_cases release : action = AppEventType.buttonReleased.toUInt8
                  · subst foreign release
                    cases armed : vars.mFunction with
                    | noneSelected => simp [functionHandler, payload, push, armed, same]
                    | factoryReset =>
                        rw [run_functionHandler_release vars payload armed]
                        refine (Prog.performs_hidden rfl).mpr fun _ =>
                          performs_updateStatusLED _ (fun _ => rfl) ?_
                        simp [Prog.Performs, publication?]
                  · simp [functionHandler, payload, foreign, push, release, same]
              · simp [functionHandler, payload, foreign, same]
          | _ => simp [functionHandler, payload, same]
      | _ =>
          simp [EventHandler.invoke, hotLampActivateHandler, hotLampDeactivateHandler,
            uvbLampActivateHandler, uvbLampDeactivateHandler, heaterActivateHandler,
            heaterDeactivateHandler, filterActivateHandler, filterDeactivateHandler,
            relayHandler, Prog.Performs, publication?, same]

/-! ### The stored values and the published ones -/

/-- The sensors have the same stored values. -/
def SameStored (vars vars' : AppVars) : Prop :=
  ∀ (sensor : Sensor) (chan : SensorChannel), sensor.stored vars chan = sensor.stored vars' chan

section Stored

variable {vars vars' : AppVars} {h : Handled} (sensor : Sensor)

/-- An event with a sensor's handler is handled as the sensor's own event. -/
theorem dispatchEvent_of_sensor {event : AppEvent} {sensor : Sensor}
    (own : event.sensor? = some sensor) : dispatchEvent event = dispatchEvent sensor.event := by
  unfold AppEvent.sensor? at own
  split at own
  next handler => obtain rfl := Option.some.inj own; rw [dispatchEvent_some handler]; rfl
  next handler => obtain rfl := Option.some.inj own; rw [dispatchEvent_some handler]; rfl
  next handler => obtain rfl := Option.some.inj own; rw [dispatchEvent_some handler]; rfl
  next => exact nomatch own

/-- A reading stores the same from the same stored values. -/
theorem SameStored.reading (same : SameStored vars vars') (answers : Call → Response) :
    SameStored ((Reading.handled (sensor, answers)).varsAfter vars)
      ((Reading.handled (sensor, answers)).varsAfter vars') := by
  intro sensor' chan
  rw [reading_varsAfter, reading_varsAfter]
  split
  · by_cases own : sensor' = sensor
    · subst own
      cases sensor' <;> cases chan <;> rfl
    · rw [stored_store_other sensor answers _ own, stored_store_other sensor answers _ own]
      exact same sensor' chan
  · exact same sensor' chan

/-- The same stored values are published as the same. -/
theorem SameStored.publications (same : SameStored vars vars') :
    sensor.publications vars = sensor.publications vars' := by
  simp only [Sensor.publications, same sensor]

/-- Handling an event that is no reading leaves the stored values alone and publishes nothing. -/
theorem handled_silent (other : h.event.sensor? = none) (vars : AppVars) :
    SameStored (h.varsAfter vars) vars ∧ (h.calls vars).filterMap publication? = [] := by
  have silent := dispatchEvent_silent vars other
  obtain ⟨mFunction, left⟩ := silent.result h.answers
  refine ⟨fun sensor chan => ?_, ?_⟩
  · rw [Handled.varsAfter, left]
    cases sensor <;> cases chan <;> rfl
  · rw [Handled.calls, List.filterMap_map]
    exact silent.filterMap_trace h.answers

/-- Handled events store and publish what the readings among them do. -/
theorem readingsOf_spec (handled : List Handled) :
    SameStored (varsAfter handled) (varsAfterReadings (readingsOf handled)) ∧
      (callsOver .initial handled).filterMap publication? =
        (callsOver .initial ((readingsOf handled).map Reading.handled)).filterMap publication? := by
  induction handled using List.reverseRecOn with
  | nil => exact ⟨fun _ _ => rfl, rfl⟩
  | append_singleton handled h ih =>
      obtain ⟨same, published⟩ := ih
      rw [varsAfter_concat, callsOver_concat, List.filterMap_append, published]
      cases own : h.event.sensor? with
      | none =>
          have skipped : readingsOf (handled ++ [h]) = readingsOf handled := by
            simp [readingsOf, Handled.reading?, own]
          obtain ⟨left, silent⟩ := handled_silent own (varsAfter handled)
          rw [skipped]
          refine ⟨fun sensor chan => (left sensor chan).trans (same sensor chan), ?_⟩
          change _ ++ (h.calls (varsAfter handled)).filterMap publication? = _
          rw [silent, List.append_nil]
      | some sensor =>
          have read : readingsOf (handled ++ [h]) = readingsOf handled ++ [(sensor, h.answers)] := by
            simp [readingsOf, Handled.reading?, own]
          have after : h.varsAfter = (Reading.handled (sensor, h.answers)).varsAfter := by
            funext vars
            simp only [Handled.varsAfter, Reading.handled, dispatchEvent_of_sensor own]
          have calls : h.calls = (Reading.handled (sensor, h.answers)).calls := by
            funext vars
            simp only [Handled.calls, Handled.exchanges, Reading.handled, dispatchEvent_of_sensor own]
          have kept := same.reading sensor h.answers
          rw [read, after, calls, varsAfterReadings_concat, List.map_append, List.map_singleton,
            callsOver_concat, List.filterMap_append]
          refine ⟨kept, congrArg _ ?_⟩
          change ((Reading.handled (sensor, h.answers)).calls (varsAfter handled)).filterMap
            publication? = ((Reading.handled (sensor, h.answers)).calls
              (varsAfterReadings (readingsOf handled))).filterMap publication?
          rw [reading_publications, reading_publications]
          exact kept.publications sensor

end Stored

/-! ### The attributes of the running device -/

section Measured

/-- Only a publication writes a `MeasuredValue`, and only that of its endpoint. -/
theorem effect_measured (now : Nat) (c : Call) (r : Response) (d : Device) (endpoint : UInt16) :
    (effect now c r d).measured endpoint =
      match publication? c with
      | some (own, value) => if endpoint = own then some value else d.measured endpoint
      | none => d.measured endpoint := by
  cases c with
  | pwmSetPulseDt width => simp only [effect]; split <;> rfl
  | status access => exact congrFun (statusEffect_sameOutputs access d).measured endpoint
  | _ => rfl

/-- After a sequence of calls an endpoint holds the last value published on it. -/
theorem measured_deviceOver (made : List (Call × Response)) (endpoint : UInt16) :
    (deviceOver made).measured endpoint =
      ((((made.map Prod.fst).filterMap publication?).filter
        fun written => written.1 = endpoint).getLast?).map Prod.snd := by
  induction made using List.reverseRecOn with
  | nil => rfl
  | append_singleton made call ih =>
      obtain ⟨c, r⟩ := call
      rw [deviceOver_concat, effect_measured]
      cases publishes : publication? c with
      | none => simp [publishes, ih]
      | some written =>
          obtain ⟨own, value⟩ := written
          by_cases same : endpoint = own
          · simp [publishes, same]
          · simp [publishes, same, Ne.symm same, ih]

end Measured

/-- The hot sensor is read completely, the others' events still wait. -/
def hotRead : List Action :=
  [.elapse 5000, .expiry .sSensorTimer, .get, .call ⟨0, default⟩, .call ⟨0, ⟨30, 0⟩⟩,
   .call ⟨0, ⟨60, 0⟩⟩, .call ⟨0, default⟩, .call ⟨0, default⟩, .ret]

/-- The main thread's variables after `hotRead`. -/
def hotReadVars : AppVars :=
  { AppVars.initial with lastTemperature1 := ⟨30, 0⟩, lastHumidity1 := ⟨60, 0⟩ }

section Accounting

variable (sensor : Sensor) (log log' : List Entry) (entry : Entry)

@[simp] theorem expiries_append : expiries (log ++ log') = expiries log + expiries log' :=
  List.countP_append

@[simp] theorem expiries_cons :
    expiries (entry :: log) = (if entry.obs = .expired .sSensorTimer then 1 else 0) + expiries log := by
  simp [expiries, List.countP_cons, Nat.add_comm]

@[simp] theorem expiries_nil : expiries [] = 0 := rfl

@[simp] theorem dropped_append :
    sensor.dropped (log ++ log') = sensor.dropped log + sensor.dropped log' := List.countP_append

@[simp] theorem dropped_cons :
    sensor.dropped (entry :: log) =
      (if entry.obs = .posted .sensorTimer sensor.event false then 1 else 0) + sensor.dropped log := by
  simp [Sensor.dropped, List.countP_cons, Nat.add_comm]

@[simp] theorem dropped_nil : sensor.dropped [] = 0 := rfl

@[simp] theorem requests_append (events events' : List AppEvent) :
    sensor.requests (events ++ events') = sensor.requests events + sensor.requests events' :=
  List.countP_append

/-- The events of a sensor that were posted: accepted, or dropped. -/
def Sensor.posted : Nat := sensor.requests (acceptedEvents log) + sensor.dropped log

@[simp] theorem posted_append :
    sensor.posted (log ++ log') = sensor.posted log + sensor.posted log' := by
  simp only [Sensor.posted, acceptedEvents_append, requests_append, dropped_append]
  omega

/-- Occurrences that are no post of the sensor's event. -/
theorem posted_of_silent (other : ∀ entry ∈ log, ∀ producer event accepted,
    entry.obs = .posted producer event accepted → event.sensor? ≠ some sensor) :
    sensor.posted log = 0 := by
  have event : sensor.event.sensor? = some sensor := by cases sensor <;> rfl
  have none : sensor.requests (acceptedEvents log) = 0 := by
    refine List.countP_eq_zero.mpr fun event member => ?_
    obtain ⟨entry, present, accepts⟩ := List.mem_filterMap.mp member
    split at accepts
    next obs =>
      obtain rfl := Option.some.inj accepts
      simpa using other entry present _ _ _ obs
    next => exact nomatch accepts
  have kept : sensor.dropped log = 0 := by
    refine List.countP_eq_zero.mpr fun entry present => ?_
    rw [decide_eq_true_eq]
    exact fun drop => other entry present _ _ _ drop event
  simp [Sensor.posted, none, kept]

variable {sensor} {s s' : State} {a : Action}

/-- A post of any other event leaves the sensor's account as it is. -/
theorem posted_postEvent_other (producer : Producer) (cause : Nat) {event : AppEvent} (s : State)
    (other : event.sensor? ≠ some sensor) :
    sensor.posted (postEvent producer cause event s).log = sensor.posted s.log := by
  rcases postEvent_cases producer cause event s with ⟨_, _, log⟩ | ⟨_, _, log⟩ <;>
    rw [log, posted_append, posted_of_silent sensor [_] (by simpa using other)] <;> rfl

/-- A post of the sensor's event by the sensor timer is counted, accepted or not. -/
theorem posted_postEvent_own (cause : Nat) (s : State) :
    sensor.posted (postEvent .sensorTimer cause sensor.event s).log = sensor.posted s.log + 1 := by
  have event : sensor.event.sensor? = some sensor := by cases sensor <;> rfl
  rcases postEvent_cases .sensorTimer cause sensor.event s with ⟨_, _, log⟩ | ⟨_, _, log⟩ <;>
    rw [log, posted_append] <;> simp [Sensor.posted, Sensor.requests, acceptedEvents, event]

/-- An expiry of the sensor timer posts the event of every sensor once. -/
theorem posted_sensorTimerHandler (cause : Nat) (s : State) :
    sensor.posted (postAll .sensorTimer cause sensorTimerHandler s).log = sensor.posted s.log + 1 := by
  change sensor.posted (postAll .sensorTimer cause
    [Sensor.hot.event, Sensor.cold.event, Sensor.waterTemp.event] s).log = _
  simp only [postAll_cons, postAll_nil]
  cases sensor with
  | hot =>
      rw [posted_postEvent_other _ _ _ (by decide), posted_postEvent_other _ _ _ (by decide),
        posted_postEvent_own]
  | cold =>
      rw [posted_postEvent_other _ _ _ (by decide), posted_postEvent_own,
        posted_postEvent_other _ _ _ (by decide)]
  | waterTemp =>
      rw [posted_postEvent_own, posted_postEvent_other _ _ _ (by decide),
        posted_postEvent_other _ _ _ (by decide)]

@[simp] theorem expiries_postEvent (producer : Producer) (cause : Nat) (event : AppEvent) (s : State) :
    expiries (postEvent producer cause event s).log = expiries s.log := by
  rcases postEvent_cases producer cause event s with ⟨_, _, log⟩ | ⟨_, _, log⟩ <;> simp [log]

@[simp] theorem expiries_postAll (producer : Producer) (cause : Nat) (events : List AppEvent)
    (s : State) : expiries (postAll producer cause events s).log = expiries s.log :=
  postAll_induction (I := fun t => expiries t.log = expiries s.log) rfl
    fun _ _ _ same => by simpa using same

theorem sensor?_event (e : Actuator) (on : Bool) : (e.event on).sensor? = none := by
  cases e <;> cases on <;> rfl

/-- Every step keeps the account of a sensor: its posted events are the expiries. -/
theorem posted_step (taken : step s a = some s') (account : sensor.posted s.log = expiries s.log) :
    sensor.posted s'.log = expiries s'.log := by
  cases stepEffect taken with
  | loadCallback w e pending load =>
      rw [posted_postEvent_other _ _ _ (by simp [sensor?_event]), expiries_postEvent]
      simp [account, posted_of_silent]
  | otherCallback w pending other => simp [account, posted_of_silent]
  | functionExpiry due =>
      rw [posted_postEvent_other _ _ _ (by simp [AppEvent.sensor?, timerEvent]), expiries_postEvent]
      simp [account, posted_of_silent]
  | sensorExpiry due =>
      rw [posted_sensorTimerHandler, expiries_postAll]
      simp [account, posted_of_silent]
  | feederExpiry due =>
      rw [posted_postEvent_other _ _ _ (by simp [sensor?_event]), expiries_postEvent]
      simp [account, posted_of_silent]
  | edge buttonState hasChanged pushed changed level =>
      rw [posted_postEvent_other _ _ _ (by simp [AppEvent.sensor?, buttonEvent]), expiries_postEvent]
      simp [account, posted_of_silent]
  | ledUpdate ledWidget =>
      rw [posted_postEvent_other _ _ _ (by simp [AppEvent.sensor?, updateLedEvent]), expiries_postEvent]
      simp [account, posted_of_silent]
  | write path value idle => simp [account, posted_of_silent]
  | call posted c k r rest main reports =>
      rw [List.append_cons, posted_append, posted_append, expiries_append, expiries_append]
      rcases reports with rfl | ⟨path, value, _, rfl⟩ <;> simp [account, posted_of_silent]
  | _ => exact account

/-- Only a post of the sensor's event by the sensor timer to a full queue is a drop of it. -/
theorem dropped_postEvent (producer : Producer) (cause : Nat) (event : AppEvent) (s : State) :
    sensor.dropped (postEvent producer cause event s).log = sensor.dropped s.log +
      if s.queue.Full ∧ producer = .sensorTimer ∧ event = sensor.event then 1 else 0 := by
  rcases postEvent_cases producer cause event s with ⟨room, _, log⟩ | ⟨full, _, log⟩
  · simp [log, room]
  · simp [log, full]

/-- Posting makes no room. -/
theorem full_postEvent (producer : Producer) (cause : Nat) (event : AppEvent) {s : State}
    (full : s.queue.Full) : (postEvent producer cause event s).queue.Full := by
  rcases postEvent_cases producer cause event s with ⟨room, _, _⟩ | ⟨_, queue, _⟩
  · exact absurd full room
  · exact queue ▸ full

/-- The drops are ordered as the posts of an expiry are. -/
def DropsOrdered (log : List Entry) : Prop :=
  Sensor.hot.dropped log ≤ Sensor.cold.dropped log ∧
    Sensor.cold.dropped log ≤ Sensor.waterTemp.dropped log

theorem event_eq_iff {sensor sensor' : Sensor} : sensor.event = sensor'.event ↔ sensor = sensor' := by
  cases sensor <;> cases sensor' <;> decide

/-- Within one expiry a full queue stays full, so a sensor's drop brings those of the sensors after it. -/
theorem DropsOrdered.sensorTimerHandler {cause : Nat} (ordered : DropsOrdered s.log) :
    DropsOrdered (postAll .sensorTimer cause sensorTimerHandler s).log := by
  change DropsOrdered (postAll .sensorTimer cause
    [Sensor.hot.event, Sensor.cold.event, Sensor.waterTemp.event] s).log
  have first := full_postEvent (s := s) .sensorTimer cause Sensor.hot.event
  have second := full_postEvent (s := postEvent .sensorTimer cause Sensor.hot.event s) .sensorTimer
    cause Sensor.cold.event
  simp only [DropsOrdered, postAll_cons, postAll_nil, dropped_postEvent, event_eq_iff, reduceCtorEq,
    and_false, and_true, if_false, Nat.add_zero] at ordered ⊢
  split_ifs <;> simp_all <;> omega

/-- Every step keeps the order of the drops. -/
theorem dropped_step (taken : step s a = some s') (ordered : DropsOrdered s.log) :
    DropsOrdered s'.log := by
  cases stepEffect taken with
  | sensorExpiry due =>
      apply DropsOrdered.sensorTimerHandler
      simpa [DropsOrdered] using ordered
  | call posted c k r rest main reports =>
      rcases reports with rfl | ⟨path, value, _, rfl⟩ <;> simpa [DropsOrdered] using ordered
  | _ => simpa [DropsOrdered, dropped_postEvent] using ordered

end Accounting

/-- Every expiry of the sensor timer is accounted for. In every reachable state the expiries so far are, for
    each sensor, the readings handled, the one in hand, those waiting and those a full queue dropped;
    and no sensor is dropped more often than the sensors behind it. -/
theorem sensor_accounting (s : State) (reached : Reachable s) :
    ∃ handled, RunsSequentially s handled ∧
      (∀ sensor : Sensor, expiries s.log =
        sensor.requests (handled.map Handled.event) + sensor.requests s.main.inHandEvent +
          sensor.requests (s.queue.items.map Posted.event) + sensor.dropped s.log) ∧
      DropsOrdered s.log := by
  obtain ⟨handled, runs⟩ := sequential_of_reachable reached
  refine ⟨handled, runs, fun sensor => ?_, ?_⟩
  · have account : sensor.posted s.log = expiries s.log :=
      reached.invariant (I := fun s => sensor.posted s.log = expiries s.log) rfl
        fun account _ taken => posted_step taken account
    rw [← account, Sensor.posted, runs.events, requests_append, requests_append]
  · exact reached.invariant (I := fun s => DropsOrdered s.log) ⟨Nat.le_refl 0, Nat.le_refl 0⟩
      fun ordered _ taken => dropped_step taken ordered

/-- Nine LED updates leave room for one of the three sensor events. -/
def sensorsDropped : List Action :=
  List.replicate 9 (.ledUpdate 0) ++ [.elapse 5000, .expiry .sSensorTimer]

/-- `sensor_accounting` on a queue with one free place: the hot sensor's event waits, the others' are
    dropped. -/
theorem sensor_accounting_sensorsDropped :
    ∃ handled, RunsSequentially (stateAfter sensorsDropped) handled ∧
      1 = Sensor.cold.requests (handled.map Handled.event) +
        Sensor.cold.requests (stateAfter sensorsDropped).main.inHandEvent +
        Sensor.cold.requests ((stateAfter sensorsDropped).queue.items.map Posted.event) +
        Sensor.cold.dropped (stateAfter sensorsDropped).log ∧
      Sensor.cold.dropped (stateAfter sensorsDropped).log = 1 := by
  obtain ⟨handled, runs, account, _⟩ := sensor_accounting _ (reachable_stateAfter sensorsDropped)
  have expired : expiries (stateAfter sensorsDropped).log = 1 := by decide
  exact ⟨handled, runs, expired ▸ account .cold, by decide⟩

/-! ### The sampling rate -/

section Rate

variable {s s' : State} {a : Action}

/-- No handler starts or stops the sensor timer. -/
theorem not_sensorTimer_of_mem {c : Call} {event : AppEvent} {mFunction : FunctionEvent}
    (made : c ∈ handlerOutputs event mFunction) :
    (∀ duration period, c ≠ .kTimerStart .sSensorTimer duration period) ∧
      c ≠ .kTimerStop .sSensorTimer := by
  unfold handlerOutputs at made
  split at made
  next input _ =>
    cases input <;> cases mFunction <;> simp [FunctionInput.outputs] at made <;> simp [made]
  next =>
    cases handler : event.handler with
    | none => simp [handler] at made
    | some h =>
        cases h with
        | feederActivateHandler =>
            simp only [handler, actuatorOutputs, Option.map_some, Option.getD_some, List.mem_cons,
              List.not_mem_nil, or_false] at made
            rcases made with rfl | rfl <;> simp
        | feederDeactivateHandler =>
            simp only [handler, actuatorOutputs, Option.map_some, Option.getD_some, List.mem_cons,
              List.not_mem_nil, or_false] at made
            rcases made with rfl | rfl <;> simp
        | _ => simp [handler, actuatorOutputs] at made <;> simp [made]

/-- The sensor timer has expired every five seconds and is to go on so. -/
structure SensorClock (s : State) : Prop where
  timer : s.device.timer .sSensorTimer = ⟨some (5000 * (expiries s.log + 1)), 5000⟩
  past : 5000 * expiries s.log ≤ s.now

/-- Every step keeps the clock: only an expiry moves it on, by a period. -/
theorem sensorClock_step (settled : HandlerSettled s.main) (clock : SensorClock s)
    (taken : step s a = some s') : SensorClock s' := by
  obtain ⟨timer, past⟩ := clock
  cases stepEffect taken with
  | elapse duration => exact ⟨timer, Nat.le_trans past (Nat.le_add_right _ _)⟩
  | write path value idle => exact ⟨by simpa using timer, by simpa using past⟩
  | sensorExpiry due =>
      obtain ⟨d, scheduled, passed⟩ := due
      rw [timer] at scheduled
      obtain rfl : _ = d := Option.some.inj scheduled
      have next : (s.device.timer .sSensorTimer).expire =
          ⟨some (5000 * (expiries s.log + 1) + 5000), 5000⟩ := by rw [timer]; rfl
      refine ⟨?_, ?_⟩
      · simp [next]
        omega
      · simp only [postAll_now, rearm_now, expiries_postAll, rearm_log, expiries_append,
          expiries_cons, if_true, expiries_nil]
        omega
  | call posted c k r rest main reports =>
      have silent : expiries rest = 0 := by
        rcases reports with rfl | ⟨path, value, _, rfl⟩ <;> simp
      have kept : (effect s.now c r s.device).timer .sSensorTimer = s.device.timer .sSensorTimer := by
        rw [effect_timer]
        have foreign : ∀ o, outputCall? c = some o →
            (∀ duration period, o ≠ .kTimerStart .sSensorTimer duration period) ∧
              o ≠ .kTimerStop .sSensorTimer := by
          intro o visible
          obtain ⟨mFunction, made⟩ := settled_call_mem (main ▸ settled) visible
          exact not_sensorTimer_of_mem made
        cases c with
        | kTimerStart t duration period =>
            by_cases own : TimerId.sSensorTimer = t
            · exact absurd (own ▸ rfl) ((foreign _ rfl).1 duration period)
            · simp [own]
        | kTimerStop t =>
            by_cases own : TimerId.sSensorTimer = t
            · exact absurd (own ▸ rfl) (foreign _ rfl).2
            · simp [own]
        | _ => rfl
      exact ⟨by simp [kept, timer, silent], by simpa [silent] using past⟩
  | _ => exact ⟨by simpa using timer, by simpa using past⟩

theorem sensorClock_of_reachable (reached : Reachable s) : SensorClock s :=
  reached.invariant_with settled_of_reachable ⟨rfl, Nat.le_refl 0⟩
    fun settled clock _ taken => sensorClock_step settled clock taken

/-- Only the events of a sensor have a site that fetches from its device. -/
theorem sensor?_of_fetch {event : AppEvent} {sensor : Sensor}
    (site : .sensorSampleFetch sensor.device ∈ event.sites) : event.sensor? = some sensor := by
  unfold AppEvent.sites at site
  split at site
  next input _ => cases input <;> simp [FunctionInput.sites, updateStatusLEDSites] at site
  next =>
    cases handler : event.handler with
    | none => simp [handler] at site
    | some h =>
        rw [handler, Option.map_some, Option.getD_some] at site
        unfold AppEvent.sensor?
        rw [handler]
        cases h with
        | hotSensorMeasureHandler =>
            cases sensor <;> first | rfl | simp [EventHandler.sites, dhtSites, Sensor.device] at site
        | coldSensorMeasureHandler =>
            cases sensor <;> first | rfl | simp [EventHandler.sites, dhtSites, Sensor.device] at site
        | waterTempSensorMeasureHandler =>
            cases sensor <;> first | rfl | simp [EventHandler.sites, Sensor.device] at site
        | updateLedStateEventHandler =>
            cases payload : event.payload <;> simp [EventHandler.sites, payload, actuatorOutputs] at site
        | _ => simp [EventHandler.sites, actuatorOutputs] at site

/-- Handling an event fetches from a sensor's device at most once, and only when the event asks for it. -/
theorem fetches_le {vars : AppVars} {event : AppEvent} {made : List (Call × Response)}
    {rest : Prog Call Response (Unit × AppVars)} (sensor : Sensor)
    (leads : Prog.Leads ((dispatchEvent event).run vars) made rest) :
    sensor.fetches made ≤ sensor.requests [event] := by
  have bySite : sensor.fetches made =
      (made.map fun call => call.1.site).count (.sensorSampleFetch sensor.device) := by
    rw [List.count, List.countP_map, Sensor.fetches]
    apply List.countP_congr
    rintro ⟨c, r⟩ -
    cases c with
    | status access => cases access <;> simp [Call.site]
    | _ => simp [Call.site]
  have fewer := ((dispatchEvent_callsAmong vars event).sublist leads).count_le
    (.sensorSampleFetch sensor.device)
  rw [bySite]
  refine Nat.le_trans fewer ?_
  by_cases own : event.sensor? = some sensor
  · have once := List.nodup_iff_count_le_one.mp (sites_nodup event) (.sensorSampleFetch sensor.device)
    simpa [Sensor.requests, own] using once
  · rw [List.count_eq_zero.mpr fun site => own (sensor?_of_fetch site)]
    exact Nat.zero_le _

/-- Over handled events no sensor is fetched more often than they ask for. -/
theorem fetches_exchangesOver (sensor : Sensor) (vars : AppVars) (handled : List Handled) :
    sensor.fetches (exchangesOver vars handled) ≤ sensor.requests (handled.map Handled.event) := by
  induction handled generalizing vars with
  | nil => exact Nat.le_refl 0
  | cons h rest ih =>
      have leads := (Prog.Leads.refl ((dispatchEvent h.event).run vars)).completed h.answers
      have one : sensor.fetches (h.exchanges vars) ≤ sensor.requests [h.event] := fetches_le sensor leads
      have split : sensor.requests (h.event :: rest.map Handled.event) =
          sensor.requests [h.event] + sensor.requests (rest.map Handled.event) :=
        requests_append sensor [h.event] _
      rw [exchangesOver, Sensor.fetches, List.countP_append, List.map_cons, split]
      exact Nat.add_le_add one (ih _)

end Rate

/-- The sampling rate. The sensor timer expires every five seconds from the entry of the loop, whatever the
    handlers do, and no sensor is fetched more often than the timer has expired: after `n` fetches at
    least `5 n` seconds have passed. -/
theorem sampling_rate (s : State) (reached : Reachable s) :
    (s.device.timer .sSensorTimer).next = some (5000 * (expiries s.log + 1)) ∧
      5000 * expiries s.log ≤ s.now ∧
      ∀ sensor : Sensor, sensor.fetches (exchanges s.log) ≤ expiries s.log := by
  have clock := sensorClock_of_reachable reached
  refine ⟨by rw [clock.timer], clock.past, fun sensor => ?_⟩
  have account : sensor.posted s.log = expiries s.log :=
    reached.invariant (I := fun s => sensor.posted s.log = expiries s.log) rfl
      fun account _ taken => posted_step taken account
  obtain ⟨handled, runs⟩ := sequential_of_reachable reached
  have asked : sensor.fetches (exchanges s.log) ≤
      sensor.requests (handled.map Handled.event ++ s.main.inHandEvent) := by
    have thread := runs.thread
    rw [requests_append]
    cases main : s.main with
    | waiting vars =>
        simp only [main] at thread
        rw [thread.2]
        exact Nat.le_trans (fetches_exchangesOver sensor _ handled) (Nat.le_add_right _ _)
    | handling posted rest =>
        simp only [main] at thread
        obtain ⟨made, leads, exchanged⟩ := thread
        rw [exchanged, Sensor.fetches, List.countP_append]
        exact Nat.add_le_add (fetches_exchangesOver sensor _ handled) (fetches_le sensor leads)
  rw [← account, Sensor.posted, runs.events, requests_append]
  omega

/-- `sampling_rate` after the first reading: one fetch in five seconds. -/
theorem sampling_rate_hotRead :
    (stateAfter hotRead).device.timer .sSensorTimer = ⟨some 10000, 5000⟩ ∧
      Sensor.hot.fetches (exchanges (stateAfter hotRead).log) ≤ 1 := by
  obtain ⟨_, _, few⟩ := sampling_rate _ (reachable_stateAfter hotRead)
  have expired : expiries (stateAfter hotRead).log = 1 := by decide +kernel
  exact ⟨by decide +kernel, expired ▸ few .hot⟩

end DeviceWifi
