/-
Module: DeviceWifi.Proofs.Confined
Layer: Proofs
Purpose: What the device is confined to, over every run. Whatever an occurrence leads to is an event made
  for its handler, so no handler reads a payload member that was not written and no guard of a handler
  fails; and every call an occurrence licenses keeps the outputs to what they are for.
Imports: DeviceWifi.Spec.Confined, DeviceWifi.Proofs.Provenance, DeviceWifi.Proofs.Sampling
Trusted boundary: none (fully proved)
Main exports: events_well_formed, device_confined
Open obligations: none
-/
import DeviceWifi.Spec.Confined
import DeviceWifi.Proofs.Provenance
import DeviceWifi.Proofs.Sampling

namespace DeviceWifi

open Reactive

/-! ### Events -/

theorem wellFormed_event (e : Actuator) (on : Bool) : (e.event on).WellFormed := by
  cases e <;> cases on <;> exact ⟨_, rfl, rfl, trivial⟩

theorem wellFormed_sensorEvent (sensor : Sensor) : sensor.event.WellFormed := by
  cases sensor <;> exact ⟨_, rfl, rfl, trivial⟩

theorem wellFormed_buttonEvent (pushed : Bool) : (buttonEvent pushed).WellFormed := by
  refine ⟨.functionHandler, rfl, rfl, rfl, ?_⟩
  cases pushed
  · exact Or.inr rfl
  · exact Or.inl rfl

/-- What an occurrence leads to is made for its handler. -/
theorem wellFormed_of_leads {obs : Obs} {event : AppEvent} (leads : event ∈ obs.events) :
    event.WellFormed := by
  cases obs with
  | written path value =>
      simp only [Obs.events] at leads
      by_cases load : ∃ e : Actuator, path = e.onOffPath
      · obtain ⟨e, rfl⟩ := load
        rw [attributePosts_onOffPath, List.mem_singleton] at leads
        exact leads ▸ wellFormed_event e (isOn value)
      · have other : ∀ e : Actuator, path ≠ e.onOffPath := fun e same => load ⟨e, same⟩
        simp [attributePosts_other value other] at leads
  | expired t =>
      cases t with
      | sSensorTimer =>
          simp only [Obs.events, sensorTimerHandler, List.mem_cons, List.not_mem_nil, or_false] at leads
          rcases leads with rfl | rfl | rfl
          · exact wellFormed_sensorEvent .hot
          · exact wellFormed_sensorEvent .cold
          · exact wellFormed_sensorEvent .waterTemp
      | sFunctionTimer =>
          obtain rfl := List.mem_singleton.mp leads
          exact ⟨_, rfl, rfl, trivial⟩
      | sFeederMonoTimer =>
          obtain rfl := List.mem_singleton.mp leads
          exact wellFormed_event .feeder false
  | edge pushed =>
      obtain rfl := List.mem_singleton.mp leads
      exact wellFormed_buttonEvent pushed
  | ledUpdate ledWidget =>
      obtain rfl := List.mem_singleton.mp leads
      exact ⟨_, rfl, rfl, trivial⟩
  | delivered path value => simp [Obs.events] at leads
  | posted producer event accepted => simp [Obs.events] at leads
  | called cause c r => simp [Obs.events] at leads

/-- No handler meets an event that was not made for it: in every reachable state each event in hand or
    waiting has a handler, carries the type of that handler's events, and holds the payload member the
    handler reads, with a value its guards let pass. -/
theorem events_well_formed (s : State) (reached : Reachable s) :
    ∀ posted ∈ s.main.inHandPosted ++ s.queue.items, posted.event.WellFormed := by
  have provenance := provenance_of_reachable reached
  have wellFormed {posted : Posted} (origin : posted.From s.log) : posted.event.WellFormed := by
    obtain ⟨entry, _, leads⟩ := origin
    exact wellFormed_of_leads leads
  intro posted member
  rcases List.mem_append.mp member with running | waiting
  · exact wellFormed (provenance.inHand posted running)
  · exact wellFormed (provenance.queued posted waiting)

/-- The sensor timer expires, the button is pushed, an LED widget asks for an update, and the hot sensor's
    event is taken. -/
def readingBeforePush : List Action :=
  [.elapse 5000, .expiry .sSensorTimer, .button 1 1, .ledUpdate 0, .get]

/-- `events_well_formed` while the hot sensor is read and four events wait. -/
theorem events_well_formed_readingBeforePush :
    (stateAfter readingBeforePush).queue.items.length = 4 ∧
      ∀ posted ∈ (stateAfter readingBeforePush).main.inHandPosted ++
        (stateAfter readingBeforePush).queue.items, posted.event.WellFormed :=
  ⟨rfl, events_well_formed _ (reachable_stateAfter readingBeforePush)⟩

/-! ### Outputs -/

section Outputs

variable {c : Call} {d : Device}

/-- What drives the feeder keeps within the servo's range and the timer's period. -/
theorem confined_feeder (on : Bool) (own : c = feederDrive on ∨ c = feederTimer on) : c.Confined := by
  rcases own with rfl | rfl
  · cases on
    · exact Or.inl rfl
    · exact Or.inr (by decide)
  · cases on
    · exact TimerId.noConfusion
    · exact Or.inr ⟨rfl, rfl⟩

/-- Every licensed call keeps its output to what it is for. -/
theorem confined_of_licenses {obs : Obs} (license : Licenses obs c) : c.Confined := by
  cases license with
  | relay e spec value switched =>
      refine ⟨?_, ?_⟩
      · rintro rfl
        cases e <;> simp [Actuator.relay?] at switched
      · cases isOn value
        · exact Or.inr rfl
        · exact Or.inl rfl
  | feeder value c own => exact confined_feeder _ own
  | feederOff c own => exact confined_feeder _ own
  | fetch sensor => exact trivial
  | read sensor chan reads => exact trivial
  | publishTemperature sensor value => exact ⟨sensor, rfl⟩
  | publishHumidity sensor value reads => exact ⟨sensor, reads, rfl⟩
  | push => exact Or.inl ⟨rfl, rfl⟩
  | release c own =>
      cases c with
      | kTimerStop t =>
          obtain rfl : t = .sFunctionTimer := by
            simpa [Call.site, FunctionInput.sites, updateStatusLEDSites] using own
          exact TimerId.noConfusion
      | status access => exact trivial
      | factoryResetLedsSet on => exact trivial
      | _ => simp [Call.site, FunctionInput.sites, updateStatusLEDSites] at own
  | reset c own =>
      simp only [FunctionInput.sites, List.mem_cons, List.not_mem_nil, or_false] at own
      rcases own with rfl | rfl | rfl <;> exact trivial
  | ledUpdate ledWidget => exact trivial

/-- A confined call keeps the device confined. -/
theorem Device.Confined.effect (confined : d.Confined) (now : Nat) (r : Response) (own : c.Confined) :
    (DeviceWifi.effect now c r d).Confined where
  levelShifter := by
    rw [effect_gpio]
    cases c with
    | gpioPinSetDt spec value => simpa only [if_neg own.1.symm] using confined.levelShifter
    | _ => exact confined.levelShifter
  levels spec := by
    rw [effect_gpio]
    cases c with
    | gpioPinSetDt spec' value =>
        by_cases same : spec = spec'
        · simpa only [if_pos same] using own.2
        · simpa only [if_neg same] using confined.levels spec
    | _ => exact confined.levels spec
  servo := by
    rw [effect_servo]
    cases c with
    | pwmSetPulseDt width =>
        by_cases succeeds : r.rc = 0
        · simp only [if_pos succeeds]
          exact own
        · simpa only [if_neg succeeds] using confined.servo
    | _ => exact confined.servo
  measured endpoint published := by
    rw [effect_measured] at published
    cases c with
    | temperatureMeasuredValueSet endpoint' value =>
        by_cases same : endpoint = endpoint'
        · obtain ⟨sensor, rfl⟩ := own
          exact ⟨sensor, .ambientTemp, by cases sensor <;> decide, same⟩
        · exact confined.measured endpoint (by simpa [publication?, same] using published)
    | humidityMeasuredValueSet endpoint' value =>
        by_cases same : endpoint = endpoint'
        · obtain ⟨sensor, reads, rfl⟩ := own
          exact ⟨sensor, .humidity, reads, same⟩
        · exact confined.measured endpoint (by simpa [publication?, same] using published)
    | _ => exact confined.measured endpoint published
  functionTimer := by
    rw [effect_timer]
    cases c with
    | kTimerStart t duration period =>
        rcases own with ⟨rfl, rfl⟩ | ⟨rfl, rfl⟩
        · rfl
        · exact confined.functionTimer
    | kTimerStop t => cases t <;> exact confined.functionTimer
    | _ => exact confined.functionTimer
  feederTimer := by
    rw [effect_timer]
    cases c with
    | kTimerStart t duration period =>
        rcases own with ⟨rfl, rfl⟩ | ⟨rfl, rfl⟩
        · exact confined.feederTimer
        · exact fun _ => rfl
    | kTimerStop t =>
        cases t with
        | sFeederMonoTimer => exact fun running => absurd running (SoftTimer.not_stop_running _)
        | _ => exact confined.feederTimer
    | _ => exact confined.feederTimer
  sensorTimer := by
    rw [effect_timer]
    cases c with
    | kTimerStart t duration period =>
        rcases own with ⟨rfl, rfl⟩ | ⟨rfl, rfl⟩ <;> exact confined.sensorTimer
    | kTimerStop t => simpa only [if_neg (Ne.symm own)] using confined.sensorTimer
    | _ => exact confined.sensorTimer

/-- An expiry keeps the device confined: a timer keeps its period, and a periodic one its running. -/
theorem Device.Confined.expiry (confined : d.Confined) (t : TimerId) :
    (d.setTimer t (d.timer t).expire).Confined := by
  refine ⟨confined.levelShifter, confined.levels, confined.servo, confined.measured, ?_, ?_, ?_⟩
  · rw [setTimer_timer]
    split
    next same => exact same ▸ confined.functionTimer
    next => exact confined.functionTimer
  · rw [setTimer_timer]
    split
    next same =>
      subst same
      intro running
      by_cases oneShot : (d.timer .sFeederMonoTimer).period = 0
      · simp [SoftTimer.Running, SoftTimer.expire, oneShot] at running
      · exact confined.feederTimer ((SoftTimer.expire_running_iff fun _ => oneShot).mp running)
    next => exact confined.feederTimer
  · rw [setTimer_timer]
    split
    next same =>
      subst same
      obtain ⟨running, period⟩ := confined.sensorTimer
      exact ⟨(SoftTimer.expire_running_iff fun _ => by simp [period]).mpr running, period⟩
    next => exact confined.sensorTimer

/-- What an access to the status touches is not confined. -/
theorem Device.Confined.status (confined : d.Confined) (access : StatusAccess) :
    (access.effect d).Confined := by
  obtain ⟨gpio, servo, timer, -⟩ := statusEffect_frame d access
  have measured := (statusEffect_sameOutputs access d).measured
  constructor
  all_goals simp only [gpio, servo, timer, measured]
  · exact confined.levelShifter
  · exact confined.levels
  · exact confined.servo
  · exact confined.measured
  · exact confined.functionTimer
  · exact confined.feederTimer
  · exact confined.sensorTimer

theorem confined_initial : Device.initial.Confined where
  levelShifter := rfl
  levels _ := Or.inr rfl
  servo := Or.inl rfl
  measured _ published := absurd rfl published
  functionTimer := rfl
  feederTimer running := absurd running Bool.false_ne_true
  sensorTimer := ⟨rfl, rfl⟩

/-- Every step keeps the device confined. -/
theorem confined_step {handled : List Handled} {s s' : State} {a : Action}
    (runs : RunsSequentially s handled) (provenance : Provenance s) (confined : s.device.Confined)
    (taken : step s a = some s') : s'.device.Confined := by
  have stored (d : Device) (path : ConcreteAttributePath) (value : UInt8) (kept : d.Confined) :
      (d.setAttribute path value).Confined :=
    ⟨kept.levelShifter, kept.levels, kept.servo, kept.measured, kept.functionTimer, kept.feederTimer,
      kept.sensorTimer⟩
  cases stepEffect taken with
  | elapse duration => exact confined
  | write path value idle => exact stored _ path value confined
  | loadCallback w e pending load => simpa using confined
  | otherCallback w pending other => exact confined
  | functionExpiry due => simpa using confined.expiry .sFunctionTimer
  | sensorExpiry due => simpa using confined.expiry .sSensorTimer
  | feederExpiry due => simpa using stored _ _ 0 (confined.expiry .sFeederMonoTimer)
  | edge buttonState hasChanged pushed changed level => simpa using confined
  | noEdge buttonState hasChanged unchanged => exact confined
  | ledUpdate ledWidget => simpa using confined
  | chip event => exact confined
  | chipCall access k chip => exact confined.status access
  | get vars posted queue main items => exact confined
  | call posted c k r rest main reports =>
      obtain ⟨origin, _, leads⟩ :=
        provenance.inHand posted (by simp [main, MainThread.inHandPosted])
      have license := licenses_of_mayCall leads (mayCall_of_handling runs main)
      exact confined.effect s.now r (confined_of_licenses license)
  | ret posted u vars main => exact confined

end Outputs

/-- The outputs keep to what they are for: in every reachable state the level shifter is enabled, the
    relays are at level 0 or 1, the servo rests or is driven with a pulse in its range, only the endpoints
    of the sensors' channels have been published, and the function timer is one-shot, the feeder's timer
    repeats after 200 seconds while it runs, and the sensor timer runs with a period of five seconds. -/
theorem device_confined (s : State) (reached : Reachable s) : s.device.Confined :=
  reached.invariant_with (J := fun s => (∃ handled, RunsSequentially s handled) ∧ Provenance s)
    (I := fun s => s.device.Confined)
    (fun reached => ⟨sequential_of_reachable reached, provenance_of_reachable reached⟩) confined_initial
    fun ⟨⟨_, runs⟩, provenance⟩ confined _ taken => confined_step runs provenance confined taken

/-- `device_confined` while the feeder is driven and its timer runs. -/
theorem device_confined_feeding :
    (stateAfter (feedAndStop.take 5)).device.servo = pulse ∧
      (stateAfter (feedAndStop.take 5)).device.Confined :=
  ⟨rfl, device_confined _ (reachable_stateAfter _)⟩

end DeviceWifi
