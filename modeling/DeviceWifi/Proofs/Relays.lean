/-
Module: DeviceWifi.Proofs.Relays
Layer: Proofs
Purpose: The relays against the OnOff attributes they follow. A relay always stands at the level of the
  last command executed on it, so in a resting state it stands at the last value the queue accepted.
  That is the last value delivered unless a full queue dropped it: agreement holds in every resting
  state of a run in which no dropped change would have changed the relay, and fails otherwise.
Imports: DeviceWifi.Proofs.Pipeline
Trusted boundary: none (fully proved)
Main exports: gpio_eq_level, relayAgrees_iff, RelayAgrees, LosesNothing, relay_agreement
Open obligations: none
-/
import DeviceWifi.Proofs.Pipeline

namespace DeviceWifi

open Reactive

/-! ### The level of a relay -/

/-- The relay handlers drive their pins to 0 or 1 only. -/
theorem gpio_value_of_mem {event : AppEvent} {mFunction : FunctionEvent} {spec : GpioSpec}
    {value : Nat} (made : .gpioPinSetDt spec value ∈ handlerOutputs event mFunction) :
    value = 0 ∨ value = 1 := by
  unfold handlerOutputs at made
  split at made
  next input _ => cases input <;> cases mFunction <;> simp [FunctionInput.outputs] at made
  next =>
    cases handler : event.handler with
    | none => simp [handler] at made
    | some h =>
        cases h <;> simp [handler, actuatorOutputs] at made <;> simp [made]

section Level

variable {e : Actuator} {spec : GpioSpec} {s s' : State} {a : Action}

/-- One step keeps the relay at the level of the last command executed on it. -/
theorem gpio_step (relay : e.relay? = some spec) (settled : HandlerSettled s.main)
    (taken : step s a = some s')
    (tracks : s.device.gpio spec = level (latest (executed e s.log))) :
    s'.device.gpio spec = level (latest (executed e s'.log)) := by
  rw [executed_step taken]
  cases stepEffect taken with
  | call posted c k r rest main reports response =>
      have drives : s.executes e (.call response) = e.driven c := by simp [State.executes, main]
      rw [drives]
      simp only [effect_gpio]
      cases c with
      | gpioPinSetDt spec' value =>
          by_cases own : spec = spec'
          · subst own
            obtain ⟨mFunction, made⟩ := settled_call_mem (main ▸ settled) rfl
            rcases gpio_value_of_mem made with rfl | rfl <;>
              simp [Actuator.driven, relay, level]
          · have foreign : e.relay? ≠ some spec' := by simp [relay, own]
            simp [Actuator.driven, foreign, own, tracks]
      | pwmSetPulseDt width =>
          have relayed : e ≠ .feeder := by rintro rfl; simp [Actuator.relay?] at relay
          simp [Actuator.driven, relayed, tracks]
      | _ => simp [Actuator.driven, tracks]
  | _ => simp [State.executes, tracks]

/-- In every reachable state a relay stands at the level of the last command executed on it. -/
theorem gpio_eq_level (relay : e.relay? = some spec) (reached : Reachable s) :
    s.device.gpio spec = level (latest (executed e s.log)) :=
  reached.invariant_with (I := fun s => s.device.gpio spec = level (latest (executed e s.log)))
    settled_of_reachable rfl fun settled tracks _ taken => gpio_step relay settled taken tracks

end Level

/-! ### Agreement with the attribute -/

/-- The relay is on (level 0) exactly when the last value delivered for the load was true, and off
    (level 1) when it was false or none was delivered. -/
def RelayAgrees (e : Actuator) (spec : GpioSpec) (s : State) : Prop :=
  (s.device.gpio spec = 0 ↔ latest (delivered e s.log) = true) ∧
    (latest (delivered e s.log) = false → s.device.gpio spec = 1)

instance (e : Actuator) (spec : GpioSpec) (s : State) : Decidable (RelayAgrees e spec s) :=
  inferInstanceAs (Decidable (_ ∧ _))

/-- The step drops no change that would switch the load: a change of the load's attribute that meets
    a full queue repeats the value accepted last. -/
def LosesNothing (e : Actuator) (s : State) (a : Action) : Prop :=
  ∀ on ∈ s.offered e a, s.queue.Full → on = latest (accepted e s.log)

instance (e : Actuator) (s : State) (a : Action) : Decidable (LosesNothing e s a) :=
  inferInstanceAs (Decidable (∀ on ∈ s.offered e a, _ → _))

section Agreement

variable {e : Actuator} {spec : GpioSpec} {s s' : State} {a : Action}

/-- Of a step that loses nothing, the last accepted value is the last delivered one. -/
theorem latest_step (lossless : LosesNothing e s a) (taken : step s a = some s')
    (same : latest (delivered e s.log) = latest (accepted e s.log)) :
    latest (delivered e s'.log) = latest (accepted e s'.log) := by
  rw [delivered_step taken, accepted_step taken, State.admitted]
  cases offers : s.offered e a with
  | none => simpa using same
  | some on =>
      by_cases full : s.queue.Full
      · have repeated := lossless on offers full
        simp [full, repeated]
      · simp [full]

/-- A level read off a value agrees with another value exactly when the two are the same. -/
theorem agrees_iff_of_level {on last : Bool} {gpio : Nat} (stands : gpio = level on) :
    ((gpio = 0 ↔ last = true) ∧ (last = false → gpio = 1)) ↔ last = on := by
  subst stands
  cases on <;> cases last <;> decide

/-- In a resting state the relay agrees with its attribute exactly when the last value delivered is
    the last one the queue accepted. -/
theorem relayAgrees_iff (relay : e.relay? = some spec) (reached : Reachable s) (idle : Idle s) :
    RelayAgrees e spec s ↔ latest (delivered e s.log) = latest (accepted e s.log) := by
  have stands := gpio_eq_level relay reached
  rw [executed_of_idle reached idle] at stands
  exact agrees_iff_of_level stands

end Agreement

/-- Relay and attribute agree in every resting state of a run that loses no change; in any run they
    agree exactly when the last value delivered is the last one accepted. -/
theorem relay_agreement (e : Actuator) (spec : GpioSpec) (relay : e.relay? = some spec) :
    (∀ s, ReachableWhen (LosesNothing e) s → Quiescent s → RelayAgrees e spec s) ∧
      ∀ s, Reachable s → Quiescent s →
        (RelayAgrees e spec s ↔ latest (delivered e s.log) = latest (accepted e s.log)) := by
  refine ⟨fun s reached rests => ?_, fun s reached rests => relayAgrees_iff relay reached rests.1⟩
  rw [relayAgrees_iff relay reached.reachable rests.1]
  exact reached.invariant (I := fun s => latest (delivered e s.log) = latest (accepted e s.log))
    rfl fun same lossless taken => latest_step lossless taken same

/-- The heater is switched on, and its event is handled. -/
def heaterOn : List Action :=
  [.write Actuator.heater.onOffPath 1, .callback, .get, .call default, .ret]

/-- The hypotheses of `relay_agreement` are met by a run that switches the heater on. -/
theorem relay_agreement_heaterOn :
    RelayAgrees .heater .rel3 (stateAfter heaterOn) ∧
      (stateAfter heaterOn).device.gpio .rel3 = 0 := by
  have lossless : Along step (LosesNothing .heater) State.initial heaterOn := by decide
  have rests : Quiescent (stateAfter heaterOn) := ⟨⟨by decide, _, rfl⟩, by decide⟩
  exact ⟨(relay_agreement .heater .rel3 rfl).1 _ (reachableWhen_stateAfter lossless) rests,
    by decide⟩

/-- After `heaterOn` ten LED updates fill the queue; the heater is switched off while it is full, and
    all that was queued is handled. -/
def heaterOffDropped : List Action :=
  heaterOn ++ List.replicate 10 (.ledUpdate 0) ++
    [.write Actuator.heater.onOffPath 0, .callback] ++
    (List.replicate 10 [.get, .call default, .ret]).flatten

/-- The relays do not agree with their attributes in every resting state: the dropped off command
    leaves the heater on. -/
theorem relay_agreement_fails :
    ¬ ∀ s, Reachable s → Quiescent s → ∀ e spec, e.relay? = some spec → RelayAgrees e spec s := by
  intro agree
  have rests : Quiescent (stateAfter heaterOffDropped) :=
    ⟨⟨by decide +kernel, _, rfl⟩, by decide +kernel⟩
  have agrees := agree _ (reachable_stateAfter _) rests .heater .rel3 rfl
  exact absurd agrees (by decide +kernel)

end DeviceWifi
