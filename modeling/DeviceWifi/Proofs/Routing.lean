/-
Module: DeviceWifi.Proofs.Routing
Layer: Proofs
Purpose: Which pin a command does reach. Dispatching a load's event drives the pin that the overlay gives
  the load's relay or servo, and nothing else. For the heater and the filter pump the overlay and the
  wiring table name each other's pin.
Imports: DeviceWifi.Spec.Routing, DeviceWifi.Proofs.Handlers
Trusted boundary: none (fully proved)
Main exports: output_effect, drives_event, attribute_routing_iff, attribute_routing_fails
Open obligations: none
-/
import DeviceWifi.Spec.Routing
import DeviceWifi.Proofs.Handlers

namespace DeviceWifi

open Reactive

/-! ### Outputs and calls -/

/-- Different outputs have different pins. -/
theorem GpioSpec.pin_injective {spec spec' : GpioSpec} (same : spec.pin = spec'.pin) :
    spec = spec' := by
  cases spec <;> cases spec' <;> first | rfl | exact absurd same (by decide)

theorem servoPin?_ne (spec : GpioSpec) : servoPin? ≠ some spec.pin := by
  cases spec <;> decide

section Output

variable (d : Device)

/-- The pin of a GPIO spec is driven with the spec's level. -/
theorem output_gpio (spec : GpioSpec) :
    d.output spec.pin = some (.level (spec.dtSpec.physical (d.gpio spec))) := by
  cases spec <;> rfl

/-- Of the other pins only the servo's is driven. -/
theorem output_other {pin : Pin} (other : ∀ spec : GpioSpec, pin ≠ spec.pin) :
    d.output pin = if servoPin? = some pin then some (.pulse d.servo) else none := by
  have noSpec : gpioSpecs.find? (fun spec => spec.pin = pin) = none := by
    rw [List.find?_eq_none]
    intro spec _ same
    exact other spec (of_decide_eq_true same).symm
  rw [Device.output, noSpec]

/-- What the pins are driven with depends on the GPIO levels and the servo only. -/
theorem output_congr {d d' : Device} (gpio : d'.gpio = d.gpio) (servo : d'.servo = d.servo) :
    d'.output = d.output := by
  unfold Device.output
  rw [gpio, servo]

/-- A pin's signal, replaced where a call drives it. -/
def driveOutput (output : Pin → Option Signal) (drive : Pin × Signal) : Pin → Option Signal :=
  Function.update output drive.1 (some drive.2)

/-- Setting a GPIO output drives its pin. -/
theorem output_setGpio (spec : GpioSpec) (value : Nat) :
    (d.setGpio spec value).output =
      driveOutput d.output (spec.pin, .level (spec.dtSpec.physical value)) := by
  funext pin
  by_cases gpio : ∃ spec' : GpioSpec, pin = spec'.pin
  · obtain ⟨spec', rfl⟩ := gpio
    rw [output_gpio]
    by_cases own : spec' = spec
    · subst own
      simp [driveOutput, Device.setGpio]
    · have apart : spec'.pin ≠ spec.pin := fun same => own (GpioSpec.pin_injective same)
      simp [driveOutput, Device.setGpio, own, apart, output_gpio]
  · have other : ∀ spec' : GpioSpec, pin ≠ spec'.pin := fun spec' same => gpio ⟨spec', same⟩
    simp [driveOutput, other, output_other _ other, Device.setGpio]

/-- Setting the servo's pulse width drives its pin. -/
theorem output_setServo {pin : Pin} (wired : servoPin? = some pin) (width : Nat) :
    ({ d with servo := width } : Device).output = driveOutput d.output (pin, .pulse width) := by
  funext pin'
  by_cases gpio : ∃ spec : GpioSpec, pin' = spec.pin
  · obtain ⟨spec, rfl⟩ := gpio
    have apart : spec.pin ≠ pin := fun same => servoPin?_ne spec (same ▸ wired)
    simp [driveOutput, apart, output_gpio]
  · have other : ∀ spec : GpioSpec, pin' ≠ spec.pin := fun spec same => gpio ⟨spec, same⟩
    rw [output_other _ other, wired]
    by_cases own : pin' = pin
    · simp [driveOutput, own]
    · have apart : pin ≠ pin' := fun same => own same.symm
      simp [driveOutput, own, apart, output_other d other, wired]

/-- A call that succeeds changes the pin it drives and no other. -/
theorem output_effect (now : Nat) (c : Call) {r : Response} (success : r.rc = 0) :
    (effect now c r d).output = c.drive?.elim d.output (driveOutput d.output) := by
  cases c with
  | gpioPinSetDt spec value => exact output_setGpio d spec value
  | pwmSetPulseDt width =>
      rw [effect, if_pos success]
      exact output_setServo d rfl width
  | status access => exact output_congr (statusEffect_gpio d access) (statusEffect_servo d access)
  | _ => exact output_congr rfl rfl

/-- After calls that all succeed, the pins they drove hold what they were driven with last. -/
theorem output_after (now : Nat) {made : List (Call × Response)}
    (success : ∀ call ∈ made, call.2.rc = 0) :
    (d.after now made).output =
      (made.filterMap fun call => call.1.drive?).foldl driveOutput d.output := by
  induction made generalizing d with
  | nil => rfl
  | cons call rest ih =>
      obtain ⟨c, r⟩ := call
      obtain ⟨here, later⟩ := List.forall_mem_cons.mp success
      have step := output_effect d now c here
      have rest := ih (effect now c r d) later
      rw [step] at rest
      cases drives : c.drive? with
      | none => simpa [Device.after, drives] using rest
      | some drive => simpa [Device.after, drives] using rest

end Output

/-! ### Dispatching an event -/

/-- Only output calls drive a pin. -/
theorem drive?_eq_bind (c : Call) : c.drive? = (outputCall? c).bind Call.drive? := by
  cases c <;> rfl

/-- The pins that dispatching an event drives are those of its output calls, whatever the SDK answers. -/
theorem drives_dispatchEvent (event : AppEvent) (vars : AppVars) (answers : Call → Response) :
    (((dispatchEvent event).run vars).trace answers).filterMap (fun call => call.1.drive?) =
      (handlerOutputs event vars.mFunction).filterMap Call.drive? := by
  rw [← (dispatchEvent_performs vars event).filterMap_trace answers, List.filterMap_filterMap]
  congr 1
  funext call
  exact drive?_eq_bind call.1

/-- Dispatching a load's event drives the pin that the overlay gives the load, and no other. -/
theorem drives_event (e : Actuator) (on : Bool) (vars : AppVars) (answers : Call → Response) :
    (((dispatchEvent (e.event on)).run vars).trace answers).filterMap (fun call => call.1.drive?) =
      e.wiredPin?.toList.map fun pin => (pin, e.signal on) := by
  rw [drives_dispatchEvent]
  cases e <;> cases on <;> rfl

/-- The overlay and the wiring table agree on every load but the heater and the filter pump. -/
theorem wiredPin?_eq_documentedPin_iff (e : Actuator) :
    e.wiredPin? = some e.documentedPin ↔ e ≠ .heater ∧ e ≠ .filter := by
  cases e <;> decide

/-! ### Changes of attributes -/

/-- The event that the callback for a load's attribute puts into the queue is the load's. -/
theorem event_of_accepted {e : Actuator} {value : UInt8} {s : State} {cause : Nat} {posted : Posted}
    (accepted : (deliver cause e.onOffPath value s).queue.items = s.queue.items ++ [posted]) :
    posted.event = e.event (isOn value) := by
  rw [deliver_onOffPath] at accepted
  rcases postEvent_cases (.attributeChange e.onOffPath value) cause (e.event (isOn value))
    (s.note (.delivered e.onOffPath value)) with ⟨_, items, _⟩ | ⟨_, queue, _⟩
  · rw [items, note_queue] at accepted
    obtain rfl := List.singleton_inj.mp (List.append_cancel_left accepted)
    rfl
  · rw [queue, note_queue] at accepted
    simp at accepted

/-- A change of a load's attribute reaches the load when the overlay wires it as documented. -/
theorem routed_of_wired {e : Actuator} (value : UInt8)
    (wired : e.wiredPin? = some e.documentedPin) : RoutedAsDocumented e.onOffPath value := by
  intro s cause
  constructor
  case right => exact fun other => absurd rfl (other e)
  intro e' path
  obtain rfl := Actuator.onOffPath_injective path
  constructor
  case left =>
    rw [deliver_onOffPath, postEvent_device]
    rfl
  intro posted accepted vars answers made
  have drives : made.filterMap (fun call => call.1.drive?) =
      [(e.documentedPin, e.signal (isOn value))] := by
    have own := drives_event e (isOn value) vars answers
    rwa [← event_of_accepted accepted, wired] at own
  refine ⟨drives, fun success now d => ?_⟩
  rw [output_after d now success, drives]
  rfl

/-- A change of a load's attribute never reaches a load that the overlay wires elsewhere. -/
theorem not_routed_of_miswired {e : Actuator} (value : UInt8)
    (miswired : e.wiredPin? ≠ some e.documentedPin) : ¬ RoutedAsDocumented e.onOffPath value := by
  intro routed
  have accepted : (deliver 0 e.onOffPath value .initial).queue.items =
      State.initial.queue.items ++ [⟨e.event (isOn value), 0⟩] := by
    rw [deliver_onOffPath]
    rfl
  obtain ⟨drives, _⟩ := ((routed .initial 0).1 e rfl).2 _ accepted .initial fun _ => default
  rw [drives_event] at drives
  cases wired : e.wiredPin? with
  | none => simp [wired] at drives
  | some pin =>
      rw [wired] at miswired drives
      simp only [Option.toList_some, List.map_cons, List.map_nil, List.cons.injEq, Prod.mk.injEq,
        and_true] at drives
      exact miswired (congrArg some drives)

/-- A change of any other attribute is only recorded. -/
theorem routed_other {path : ConcreteAttributePath} (value : UInt8)
    (other : ∀ e : Actuator, path ≠ e.onOffPath) : RoutedAsDocumented path value :=
  fun s cause => ⟨fun e own => absurd own (other e), fun _ => deliver_other cause value s other⟩

/-- Every attribute change reaches the load that `pins.md` documents for its endpoint, and nothing else,
    exactly for the attributes other than those of the heater and the filter pump: the pins of these two
    are exchanged. -/
theorem attribute_routing_iff (path : ConcreteAttributePath) (value : UInt8) :
    RoutedAsDocumented path value ↔
      path ≠ Actuator.heater.onOffPath ∧ path ≠ Actuator.filter.onOffPath := by
  by_cases load : ∃ e : Actuator, path = e.onOffPath
  · obtain ⟨e, rfl⟩ := load
    have apart (e' : Actuator) : e.onOffPath ≠ e'.onOffPath ↔ e ≠ e' :=
      not_congr ⟨Actuator.onOffPath_injective, congrArg _⟩
    rw [apart, apart, ← wiredPin?_eq_documentedPin_iff]
    exact ⟨fun routed => not_not.mp fun miswired => not_routed_of_miswired value miswired routed,
      routed_of_wired value⟩
  · have other : ∀ e : Actuator, path ≠ e.onOffPath := fun e same => load ⟨e, same⟩
    exact iff_of_true (routed_other value other) ⟨other .heater, other .filter⟩

/-- Not every attribute change reaches the documented load: switching the heater on drives the pin of
    the filter pump. -/
theorem attribute_routing_fails :
    ¬ ∀ (path : ConcreteAttributePath) (value : UInt8), RoutedAsDocumented path value := by
  intro every
  have accepted : (deliver 0 Actuator.heater.onOffPath 1 .initial).queue.items =
      State.initial.queue.items ++ [⟨Actuator.heater.event true, 0⟩] := rfl
  obtain ⟨drives, _⟩ := ((every Actuator.heater.onOffPath 1 .initial 0).1 .heater rfl).2 _ accepted
    .initial fun _ => default
  exact absurd drives (by decide)

end DeviceWifi
