/-
Module: DeviceWifi.Proofs.Isolation
Layer: Proofs
Purpose: Faulty sensors are isolated. The handlers of all other events run in lockstep whatever the faulty
  sensors answered, since they read nothing that a reading of those has changed, and whatever flags an
  update of the status LED finds; a reading of a faulty sensor in turn makes only calls that concern it.
  So two executions whose other events correspond agree on every output but the faulty sensors' own
  attributes.
Imports: DeviceWifi.Spec.Isolation, DeviceWifi.Proofs.Sampling
Trusted boundary: none (fully proved)
Main exports: dispatchEvent_couples, exchanges_of_faulty, exchangesOver_others, sensor_faults_isolated
Open obligations: none
-/
import DeviceWifi.Spec.Isolation
import DeviceWifi.Proofs.Sampling

namespace DeviceWifi

open Reactive

section Isolation

variable {faulty : Sensor → Bool} {vars vars' vars'' : AppVars}

/-! ### Events that are no readings of a faulty sensor -/

/-- Two handlers run alike but for what is set aside, and leave the variables in agreement. -/
abbrev CouplesBut (faulty : Sensor → Bool) (p q : Prog Call Response (Unit × AppVars)) : Prop :=
  Prog.Couples (setAside faulty) (fun out out' => out.2.AgreesBut faulty out'.2) p q

/-- The body of the DHT handlers of a sound sensor reads nothing a faulty one may have changed. -/
theorem dhtMeasureHandler_couples {dev : SensorDevice}
    {store : SensorValue → SensorValue → AppVars → AppVars}
    {load : AppVars → SensorValue × SensorValue} {tEndpoint hEndpoint : UInt16}
    (sound : faulty dev.sensor = false) (tSound : (publisher? tEndpoint).any faulty = false)
    (hSound : (publisher? hEndpoint).any faulty = false) (agree : vars.AgreesBut faulty vars')
    (loads : load vars = load vars')
    (stores : ∀ t h, (store t h vars).AgreesBut faulty (store t h vars'))
    (loadsStored : ∀ t h, load (store t h vars) = load (store t h vars')) :
    CouplesBut faulty ((dhtMeasureHandler dev store load tEndpoint hEndpoint).run vars)
      ((dhtMeasureHandler dev store load tEndpoint hEndpoint).run vars') := by
  -- whatever was read, the stored values are published
  have publishes {vars vars' : AppVars} (agree : vars.AgreesBut faulty vars')
      (t : Int16) (h : UInt16) : CouplesBut faulty
        (.call (.temperatureMeasuredValueSet tEndpoint t) fun _ =>
          .call (.humidityMeasuredValueSet hEndpoint h) fun _ => .pure ((), vars))
        (.call (.temperatureMeasuredValueSet tEndpoint t) fun _ =>
          .call (.humidityMeasuredValueSet hEndpoint h) fun _ => .pure ((), vars')) :=
    .call tSound fun _ => .call hSound fun _ => .pure agree
  unfold dhtMeasureHandler
  rw [run_sdk_bind, run_sdk_bind]
  refine .call sound fun fetched => ?_
  split
  · rw [run_sdk_bind, run_sdk_bind]
    refine .call sound fun temperature => ?_
    split
    · rw [run_sdk_bind, run_sdk_bind]
      refine .call sound fun humidity => ?_
      split
      · simpa [loadsStored] using publishes (stores _ _) _ _
      · simpa [loads] using publishes agree _ _
    · simpa [loads] using publishes agree _ _
  · simpa [loads] using publishes agree _ _

/-- The endpoint of a sensor's channel is its own. -/
theorem publisher?_endpoint (sensor : Sensor) {chan : SensorChannel} (reads : chan ∈ sensor.channels) :
    publisher? (sensor.endpoint chan) = some sensor := by
  cases sensor <;> cases chan <;> decide

theorem endpoint_sound {sensor : Sensor} (sound : faulty sensor = false) (chan : SensorChannel)
    (reads : chan ∈ sensor.channels) : (publisher? (sensor.endpoint chan)).any faulty = false := by
  rw [publisher?_endpoint sensor reads]
  exact sound

/-- Storing the same values keeps the agreement. -/
theorem AppVars.AgreesBut.store (agree : vars.AgreesBut faulty vars') (sensor : Sensor)
    (answers : Call → Response) :
    (sensor.store answers vars).AgreesBut faulty (sensor.store answers vars') := by
  refine ⟨?_, fun sensor' sound => ?_⟩
  · cases sensor <;> exact agree.mFunction
  · by_cases own : sensor' = sensor
    · subst own
      funext chan
      cases sensor' <;> cases chan <;> rfl
    · rw [stored_store_other sensor answers vars own, stored_store_other sensor answers vars' own]
      exact agree.stored sensor' sound

/-- The handler of a sound sensor runs in lockstep. -/
theorem reading_couples (sensor : Sensor) (sound : faulty sensor = false)
    (agree : vars.AgreesBut faulty vars') :
    CouplesBut faulty ((dispatchEvent sensor.event).run vars) ((dispatchEvent sensor.event).run vars') := by
  have stored (chan : SensorChannel) : sensor.stored vars chan = sensor.stored vars' chan :=
    congrFun (agree.stored sensor sound) chan
  have stores (t h : SensorValue) := agree.store sensor fun c =>
    ⟨0, if c = .sensorChannelGet sensor.device .ambientTemp then t else h⟩
  have endpoint (chan : SensorChannel) (reads : chan ∈ sensor.channels) :=
    endpoint_sound sound chan reads
  rw [dispatchEvent_event]
  cases sensor with
  | hot =>
      unfold Sensor.handler hotSensorMeasureHandler
      apply dhtMeasureHandler_couples
      · exact sound
      · exact endpoint .ambientTemp (by decide)
      · exact endpoint .humidity (by decide)
      · exact agree
      · exact Prod.ext (stored .ambientTemp) (stored .humidity)
      · exact stores
      · exact fun _ _ => rfl
  | cold =>
      unfold Sensor.handler coldSensorMeasureHandler
      apply dhtMeasureHandler_couples
      · exact sound
      · exact endpoint .ambientTemp (by decide)
      · exact endpoint .humidity (by decide)
      · exact agree
      · exact Prod.ext (stored .ambientTemp) (stored .humidity)
      · exact stores
      · exact fun _ _ => rfl
  | waterTemp =>
      have own : (publisher? 11).any faulty = false := endpoint .ambientTemp (by decide)
      have kept : vars.lastTemperature3 = vars'.lastTemperature3 := stored .ambientTemp
      have publishes {vars vars' : AppVars} (agree : vars.AgreesBut faulty vars') (t : Int16) :
          CouplesBut faulty (.call (.temperatureMeasuredValueSet 11 t) fun _ => .pure ((), vars))
            (.call (.temperatureMeasuredValueSet 11 t) fun _ => .pure ((), vars')) :=
        .call own fun _ => .pure agree
      unfold Sensor.handler waterTempSensorMeasureHandler
      rw [run_sdk_bind, run_sdk_bind]
      refine .call sound fun fetched => ?_
      split
      · rw [run_sdk_bind, run_sdk_bind]
        refine .call sound fun temperature => ?_
        split
        · have left : AppVars.AgreesBut faulty { vars with lastTemperature3 := temperature.value }
              { vars' with lastTemperature3 := temperature.value } := stores temperature.value default
          simpa using publishes left _
        · simpa [kept] using publishes agree _
      · simpa [kept] using publishes agree _

/-- `UpdateStatusLED` is set aside: what follows it is what counts. -/
theorem updateStatusLED_couples {f : Unit → Prog Call Response (Unit × AppVars)}
    {Q : Unit × AppVars → Unit × AppVars → Prop} {q : Prog Call Response (Unit × AppVars)}
    (follows : Prog.Couples (setAside faulty) Q (f ()) q) :
    Prog.Couples (setAside faulty) Q (updateStatusLED >>= f) q := by
  have blinks : Prog.Couples (setAside faulty) Q (blinkThen f) q := by
    refine .left rfl fun connected => ?_
    split <;> exact .left rfl fun _ => follows
  rw [updateStatusLED_bind]
  refine .left rfl fun provisioned => ?_
  split
  · refine .left rfl fun enabled => ?_
    split
    · exact .left rfl fun _ => follows
    · exact blinks
  · exact blinks

/-- An event that is no reading depends on `mFunction` alone. -/
theorem silent_couples {event : AppEvent} (other : event.sensor? = none)
    (agree : vars.AgreesBut faulty vars') :
    CouplesBut faulty ((dispatchEvent event).run vars) ((dispatchEvent event).run vars') := by
  have same := agree.mFunction
  have returns : CouplesBut faulty (.pure ((), vars)) (.pure ((), vars')) := .pure agree
  have left (mFunction : FunctionEvent) : AppVars.AgreesBut faulty
      { vars with mFunction := mFunction } { vars' with mFunction := mFunction } := by
    refine ⟨rfl, fun sensor sound => (?_ : sensor.stored vars = sensor.stored vars')⟩
    exact agree.stored sensor sound
  cases handler : event.handler with
  | none =>
      simp only [dispatchEvent, handler]
      exact .pure agree
  | some h =>
      rw [dispatchEvent_some handler]
      cases h with
      | hotSensorMeasureHandler => simp [AppEvent.sensor?, handler] at other
      | coldSensorMeasureHandler => simp [AppEvent.sensor?, handler] at other
      | waterTempSensorMeasureHandler => simp [AppEvent.sensor?, handler] at other
      | feederActivateHandler =>
          exact .call rfl fun _ => .call rfl fun _ => .pure agree
      | feederDeactivateHandler =>
          exact .call rfl fun _ => .call rfl fun _ => .pure agree
      | updateLedStateEventHandler =>
          simp only [EventHandler.invoke, updateLedStateEventHandler]
          split
          · cases event.payload with
            | updateLedStateEvent ledWidget => exact .call rfl fun _ => .pure agree
            | _ => exact .pure agree
          · exact .pure agree
      | functionTimerEventHandler =>
          rw [EventHandler.invoke]
          cases armed : vars.mFunction with
          | noneSelected => simpa [functionTimerEventHandler, armed, ← same] using returns
          | factoryReset =>
              rw [run_functionTimerEventHandler_armed vars armed,
                run_functionTimerEventHandler_armed vars' (same ▸ armed)]
              exact .left rfl fun _ => .right rfl fun _ => .call rfl fun _ => .call rfl fun _ =>
                .pure (left _)
      | functionHandler =>
          rw [EventHandler.invoke]
          cases payload : event.payload with
          | buttonEvent pinNo action =>
              by_cases foreign : pinNo = functionButton
              · by_cases push : action = AppEventType.buttonPushed.toUInt8
                · simp only [functionHandler, payload, foreign, push]
                  exact .call rfl fun _ => .pure (left _)
                · by_cases release : action = AppEventType.buttonReleased.toUInt8
                  · subst foreign release
                    cases armed : vars.mFunction with
                    | noneSelected =>
                        simpa [functionHandler, payload, push, armed, ← same] using returns
                    | factoryReset =>
                        rw [run_functionHandler_release vars payload armed,
                          run_functionHandler_release vars' payload (same ▸ armed)]
                        -- each side may take its own way through the status LED
                        refine .call rfl fun _ =>
                          updateStatusLED_couples (updateStatusLED_couples ?_).symm
                        exact .call rfl fun _ => .pure (left _)
                  · simpa [functionHandler, payload, foreign, push, release] using returns
              · simpa [functionHandler, payload, foreign] using returns
          | _ =>
              simp only [functionHandler, payload]
              exact .pure agree
      | _ => exact .call rfl fun _ => .pure agree

/-- Every event but a reading of a faulty sensor is handled in lockstep. -/
theorem dispatchEvent_couples {event : AppEvent} (sound : event.sensor?.any faulty = false)
    (agree : vars.AgreesBut faulty vars') :
    CouplesBut faulty ((dispatchEvent event).run vars) ((dispatchEvent event).run vars') := by
  cases own : event.sensor? with
  | none => exact silent_couples own agree
  | some sensor =>
      rw [own] at sound
      rw [dispatchEvent_of_sensor own]
      exact reading_couples sensor sound agree

/-! ### Readings of a faulty sensor -/

/-- A call concerns the same sensor as its site. -/
theorem sensor?_site (c : Call) : c.site.sensor? = c.sensor? := by
  cases c with
  | status access => cases access <;> rfl
  | _ => rfl

/-- Every call made for a reading concerns the sensor read. -/
theorem sensor?_of_reading {event : AppEvent} {sensor : Sensor} (own : event.sensor? = some sensor)
    (answers : Call → Response) :
    ∀ call ∈ ((dispatchEvent event).run vars).trace answers, call.1.sensor? = some sensor := by
  intro call made
  have sites : ∀ site ∈ sensor.event.sites, site.sensor? = some sensor := by
    cases sensor <;> decide
  rw [dispatchEvent_of_sensor own] at made
  have leads := (Prog.Leads.refl ((dispatchEvent sensor.event).run vars)).completed answers
  have sublist := (dispatchEvent_callsAmong vars sensor.event).sublist leads
  rw [← sensor?_site]
  exact sites _ (sublist.subset (List.mem_map_of_mem made))

theorem AppVars.AgreesBut.trans (first : vars.AgreesBut faulty vars')
    (second : vars'.AgreesBut faulty vars'') : vars.AgreesBut faulty vars'' :=
  ⟨first.mFunction.trans second.mFunction,
    fun sensor sound => (first.stored sensor sound).trans (second.stored sensor sound)⟩

theorem AppVars.AgreesBut.symm (agree : vars.AgreesBut faulty vars') : vars'.AgreesBut faulty vars :=
  ⟨agree.mFunction.symm, fun sensor sound => (agree.stored sensor sound).symm⟩

/-- A call that concerns a faulty sensor is set aside. -/
theorem setAside_of_sensor? {c : Call} {sensor : Sensor} (own : c.sensor? = some sensor)
    (bad : faulty sensor = true) : setAside faulty c = true := by
  unfold setAside
  split
  · rfl
  · rw [concerns, own]
    exact bad

/-- A reading of a faulty sensor makes no other call, and leaves the other variables as they were. -/
theorem exchanges_of_faulty {h : Handled} (isFaulty : h.event.sensor?.any faulty = true)
    (vars : AppVars) :
    foreign (setAside faulty) (h.exchanges vars) = [] ∧ (h.varsAfter vars).AgreesBut faulty vars := by
  obtain ⟨sensor, own, bad⟩ : ∃ sensor, h.event.sensor? = some sensor ∧ faulty sensor = true := by
    cases own : h.event.sensor? with
    | none => simp [own] at isFaulty
    | some sensor => exact ⟨sensor, rfl, by simpa [own] using isFaulty⟩
  refine ⟨foreign_eq_nil fun call made => ?_, ?_⟩
  · exact setAside_of_sensor? (sensor?_of_reading own h.answers call made) bad
  · have after : h.varsAfter vars = (Reading.handled (sensor, h.answers)).varsAfter vars := by
      simp only [Handled.varsAfter, Reading.handled, dispatchEvent_of_sensor own]
    rw [after, reading_varsAfter]
    split
    · refine ⟨by cases sensor <;> rfl, fun sensor' sound => ?_⟩
      have apart : sensor' ≠ sensor := by
        rintro rfl
        exact Bool.false_ne_true (sound.symm.trans bad)
      exact stored_store_other sensor h.answers vars apart
    · exact ⟨rfl, fun _ _ => rfl⟩

/-! ### Sequences of events -/

theorem SameBut.refl (h : Handled) : SameBut faulty h h := ⟨rfl, fun _ _ => rfl⟩

/-- Corresponding events of which neither is a reading of a faulty sensor are handled the same, but for
    what is set aside. -/
theorem SameBut.exchanges {h h' : Handled} (same : SameBut faulty h h')
    (sound : h.event.sensor?.any faulty = false) (agree : vars.AgreesBut faulty vars') :
    foreign (setAside faulty) (h.exchanges vars) = foreign (setAside faulty) (h'.exchanges vars') ∧
      (h.varsAfter vars).AgreesBut faulty (h'.varsAfter vars') := by
  rw [Handled.exchanges, Handled.exchanges, Handled.varsAfter, Handled.varsAfter, ← same.event]
  exact (dispatchEvent_couples sound agree).trace_result same.answers

/-- The readings of faulty sensors can be left out. -/
theorem exchangesOver_others (handled : List Handled) (agree : vars.AgreesBut faulty vars') :
    foreign (setAside faulty) (exchangesOver vars handled) =
        foreign (setAside faulty) (exchangesOver vars' (others faulty handled)) ∧
      (varsOver vars handled).AgreesBut faulty (varsOver vars' (others faulty handled)) := by
  induction handled generalizing vars vars' with
  | nil => exact ⟨rfl, agree⟩
  | cons h rest ih =>
      by_cases isFaulty : h.event.sensor?.any faulty
      · have skipped : others faulty (h :: rest) = others faulty rest := by simp [others, isFaulty]
        obtain ⟨silent, left⟩ := exchanges_of_faulty isFaulty vars
        obtain ⟨calls, agrees⟩ := ih (left.trans agree)
        rw [skipped, exchangesOver, foreign_append, silent, List.nil_append]
        exact ⟨calls, agrees⟩
      · rw [Bool.not_eq_true] at isFaulty
        have kept : others faulty (h :: rest) = h :: others faulty rest := by simp [others, isFaulty]
        obtain ⟨same, left⟩ := (SameBut.refl h).exchanges isFaulty agree
        obtain ⟨calls, agrees⟩ := ih left
        rw [kept, exchangesOver, exchangesOver, foreign_append, foreign_append, same, calls]
        exact ⟨rfl, agrees⟩

/-- Corresponding events, answered alike on what is not set aside, make the same calls there. -/
theorem exchangesOver_sameBut {hs hs' : List Handled} (same : List.Forall₂ (SameBut faulty) hs hs')
    (sound : ∀ h ∈ hs, h.event.sensor?.any faulty = false) (agree : vars.AgreesBut faulty vars') :
    foreign (setAside faulty) (exchangesOver vars hs) =
        foreign (setAside faulty) (exchangesOver vars' hs') ∧
      (varsOver vars hs).AgreesBut faulty (varsOver vars' hs') := by
  induction same generalizing vars vars' with
  | nil => exact ⟨rfl, agree⟩
  | @cons h h' rest rest' first _ ih =>
      obtain ⟨soundHere, soundLater⟩ := List.forall_mem_cons.mp sound
      obtain ⟨calls, left⟩ := first.exchanges soundHere agree
      obtain ⟨callsLater, agrees⟩ := ih soundLater left
      rw [exchangesOver, exchangesOver, foreign_append, foreign_append, calls, callsLater]
      exact ⟨rfl, agrees⟩

/-! ### Outputs -/

section Outputs

variable {d d' d'' : Device}

theorem Device.AgreesBut.trans (first : d.AgreesBut faulty d') (second : d'.AgreesBut faulty d'') :
    d.AgreesBut faulty d'' :=
  ⟨first.gpio.trans second.gpio, first.servo.trans second.servo,
    first.factoryResetLeds.trans second.factoryResetLeds,
    fun endpoint sound => (first.measured endpoint sound).trans (second.measured endpoint sound)⟩

theorem Device.AgreesBut.symm (agrees : d.AgreesBut faulty d') : d'.AgreesBut faulty d :=
  ⟨agrees.gpio.symm, agrees.servo.symm, agrees.factoryResetLeds.symm,
    fun endpoint sound => (agrees.measured endpoint sound).symm⟩

theorem SameOutputs.agreesBut (same : SameOutputs d d') : d.AgreesBut faulty d' :=
  ⟨same.gpio, same.servo, same.factoryResetLeds, fun endpoint _ => congrFun same.measured endpoint⟩

/-- The same call keeps the agreement. -/
theorem Device.AgreesBut.effect (agrees : d.AgreesBut faulty d') (now : Nat) (c : Call) (r : Response) :
    (DeviceWifi.effect now c r d).AgreesBut faulty (DeviceWifi.effect now c r d') where
  gpio := by
    funext spec
    rw [effect_gpio, effect_gpio, agrees.gpio]
  servo := by rw [effect_servo, effect_servo, agrees.servo]
  factoryResetLeds := by
    rw [effect_factoryResetLeds, effect_factoryResetLeds, agrees.factoryResetLeds]
  measured endpoint sound := by
    rw [effect_measured, effect_measured, agrees.measured endpoint sound]

/-- A call that is set aside changes at most what the faulty sensors are published on. -/
theorem effect_agreesBut {c : Call} (own : setAside faulty c = true) (now : Nat) (r : Response)
    (d : Device) : (effect now c r d).AgreesBut faulty d := by
  refine ⟨?_, ?_, ?_, fun endpoint sound => ?_⟩
  · funext spec
    rw [effect_gpio]
    cases c with
    | gpioPinSetDt => exact nomatch own
    | _ => rfl
  · rw [effect_servo]
    cases c with
    | pwmSetPulseDt => exact nomatch own
    | _ => rfl
  · rw [effect_factoryResetLeds]
    cases c with
    | factoryResetLedsSet => exact nomatch own
    | _ => rfl
  · rw [effect_measured]
    cases c with
    | temperatureMeasuredValueSet endpoint' value =>
        have apart : endpoint ≠ endpoint' := by
          rintro rfl
          exact Bool.false_ne_true (sound.symm.trans own)
        simp [publication?, apart]
    | humidityMeasuredValueSet endpoint' value =>
        have apart : endpoint ≠ endpoint' := by
          rintro rfl
          exact Bool.false_ne_true (sound.symm.trans own)
        simp [publication?, apart]
    | _ => rfl

/-- The outputs depend on the calls that are set aside only in what the faulty sensors are published on. -/
theorem deviceOver_foreign (faulty : Sensor → Bool) (made : List (Call × Response)) :
    (deviceOver made).AgreesBut faulty (deviceOver (foreign (setAside faulty) made)) := by
  induction made using List.reverseRecOn with
  | nil => exact ⟨rfl, rfl, rfl, fun _ _ => rfl⟩
  | append_singleton made call ih =>
      obtain ⟨c, r⟩ := call
      rw [deviceOver_concat, foreign_append]
      by_cases own : setAside faulty c
      · have dropped : foreign (setAside faulty) [(c, r)] = [] := by simp [foreign, own]
        rw [dropped, List.append_nil]
        exact (effect_agreesBut own 0 r _).trans ih
      · have kept : foreign (setAside faulty) [(c, r)] = [(c, r)] := by simp [foreign, own]
        rw [kept, deviceOver_concat]
        exact ih.effect 0 c r

end Outputs

end Isolation

/-- Faulty sensors are isolated. Take any two reachable states in which the main thread waits, of runs with
    any timing and interleaving, whose handled events correspond but for the readings of a set of
    sensors, and were answered alike but for the calls that concern these sensors and for the network flags
    that were read. The main thread's variables then agree but for the values stored for them, and the
    outputs but for the attributes they are published on. -/
theorem sensor_faults_isolated (faulty : Sensor → Bool) (s s' : State) (reached : Reachable s)
    (reached' : Reachable s') (vars vars' : AppVars) (rests : s.main = .waiting vars)
    (rests' : s'.main = .waiting vars') (handled handled' : List Handled)
    (runs : RunsSequentially s handled) (runs' : RunsSequentially s' handled')
    (same : List.Forall₂ (SameBut faulty) (others faulty handled) (others faulty handled')) :
    vars.AgreesBut faulty vars' ∧ s.device.AgreesBut faulty s'.device := by
  have thread := runs.thread
  have thread' := runs'.thread
  simp only [rests] at thread
  simp only [rests'] at thread'
  obtain ⟨rfl, exchanged⟩ := thread
  obtain ⟨rfl, exchanged'⟩ := thread'
  have start : AppVars.initial.AgreesBut faulty .initial := ⟨rfl, fun _ _ => rfl⟩
  obtain ⟨calls, agrees⟩ := exchangesOver_others handled start
  obtain ⟨calls', agrees'⟩ := exchangesOver_others handled' start
  have sound : ∀ h ∈ others faulty handled, h.event.sensor?.any faulty = false := by
    intro h member
    simpa [others] using (List.mem_filter.mp member).2
  obtain ⟨common, between⟩ := exchangesOver_sameBut same sound start
  refine ⟨(agrees.trans between).trans agrees'.symm, ?_⟩
  have sameCalls : foreign (setAside faulty) (exchanges s.log) =
      foreign (setAside faulty) (exchanges s'.log) := by
    rw [exchanged, exchanged', calls, calls', common]
  have outputs := deviceOver_foreign faulty (exchanges s.log)
  rw [sameCalls] at outputs
  exact ((sameOutputs_of_reachable reached).agreesBut.trans
    (outputs.trans (deviceOver_foreign faulty (exchanges s'.log)).symm)).trans
      (sameOutputs_of_reachable reached').agreesBut.symm

/-- The hot sensor is read, answering the fetch and the reads as given, and then the cold one. -/
def hotThenCold (fetched : Response) (reads : List Response) : List Action :=
  [.elapse 5000, .expiry .sSensorTimer, .get, .call fetched] ++ reads.map .call ++
    [.call ⟨0, default⟩, .call ⟨0, default⟩, .ret, .get, .call ⟨0, default⟩, .call ⟨0, ⟨20, 0⟩⟩,
     .call ⟨0, ⟨40, 0⟩⟩, .call ⟨0, default⟩, .call ⟨0, default⟩, .ret]

/-- The answers of a cold sensor at 20 degrees and 40 percent, and of a hot one whose fetch fails or which
    is at 30 degrees and 60 percent. -/
def hotColdAnswers (hotFails : Bool) : Call → Response
  | .sensorSampleFetch .dht22 => if hotFails then ⟨-5, default⟩ else ⟨0, default⟩
  | .sensorChannelGet .dht22 .ambientTemp => ⟨0, ⟨30, 0⟩⟩
  | .sensorChannelGet .dht22 .humidity => ⟨0, ⟨60, 0⟩⟩
  | .sensorChannelGet .dht11 .ambientTemp => ⟨0, ⟨20, 0⟩⟩
  | .sensorChannelGet .dht11 .humidity => ⟨0, ⟨40, 0⟩⟩
  | _ => ⟨0, default⟩

/-- The readings of the hot and the cold sensor. -/
def hotColdHandled (hotFails : Bool) : List Handled :=
  [⟨Sensor.hot.event, hotColdAnswers hotFails⟩, ⟨Sensor.cold.event, hotColdAnswers hotFails⟩]

/-- The state after the two readings. -/
def hotColdState : Bool → State
  | true => stateAfter (hotThenCold ⟨-5, default⟩ [])
  | false => stateAfter (hotThenCold ⟨0, default⟩ [⟨0, ⟨30, 0⟩⟩, ⟨0, ⟨60, 0⟩⟩])

theorem hotCold_runs (hotFails : Bool) :
    RunsSequentially (hotColdState hotFails) (hotColdHandled hotFails) := by
  cases hotFails <;> exact ⟨rfl, rfl, rfl⟩

/-- `sensor_faults_isolated` for a hot sensor that fails in one run and is read in the other: the cold
    sensor is published the same in both. -/
theorem sensor_faults_isolated_hotFails :
    (hotColdState true).device.AgreesBut (· = .hot) (hotColdState false).device ∧
      (hotColdState true).device.measured 9 = some 20 := by
  refine ⟨(sensor_faults_isolated (· = .hot) _ _ (reachable_stateAfter _) (reachable_stateAfter _) _ _ rfl
    rfl _ _ (hotCold_runs true) (hotCold_runs false) ?_).2, by decide +kernel⟩
  refine .cons ⟨rfl, ?_⟩ .nil
  intro c sound
  cases c with
  | sensorSampleFetch dev => cases dev <;> first | rfl | exact absurd sound (by decide)
  | sensorChannelGet dev chan => cases dev <;> cases chan <;> rfl
  | _ => rfl

end DeviceWifi
