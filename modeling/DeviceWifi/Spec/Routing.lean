/-
Module: DeviceWifi.Spec.Routing
Layer: Spec
Purpose: Which pin a command should reach. The wiring table of `pins.md` gives each load a pin, and a
  relay is on while its pin is low. A change of a load's OnOff attribute should drive that pin and no
  other; a change of any other attribute should post nothing and drive nothing.
Imports: Mathlib.Logic.Function.Basic, DeviceWifi.Firmware.Board, DeviceWifi.Spec.History
Trusted boundary: human-reviewed spec
Main exports: Actuator.documentedPin, Actuator.signal, Device.output, Device.after, RoutedAsDocumented
Open obligations: none
-/
import Mathlib.Logic.Function.Basic
import DeviceWifi.Firmware.Board
import DeviceWifi.Spec.History

namespace DeviceWifi

open Reactive

/-- The wiring of `pins.md`. -/
def Actuator.documentedPin : Actuator → Pin
  | .hotLamp => ⟨1, 14⟩
  | .uvbLamp => ⟨1, 13⟩
  | .heater => ⟨1, 11⟩
  | .filter => ⟨1, 12⟩
  | .feeder => ⟨0, 27⟩

/-- What drives a load on or off: a relay is on at low level, the servo feeds while it has pulses. -/
def Actuator.signal : Actuator → Bool → Signal
  | .feeder, on => .pulse (if on then pulse else 0)
  | _, on => .level (level on)

/-- The pin the overlay gives a load: that of its relay, or of the servo. -/
def Actuator.wiredPin? (e : Actuator) : Option Pin :=
  match e.relay? with
  | some spec => some spec.pin
  | none => servoPin?

/-- The GPIO specs. -/
def gpioSpecs : List GpioSpec := [.ls1, .rel1, .rel2, .rel3, .rel4]

/-- What a pin of the board is driven with, if it is the pin of an output. -/
def Device.output (d : Device) (pin : Pin) : Option Signal :=
  match gpioSpecs.find? fun spec => spec.pin = pin with
  | some spec => some (.level (spec.dtSpec.physical (d.gpio spec)))
  | none => if servoPin? = some pin then some (.pulse d.servo) else none

/-- The device after a sequence of calls. -/
def Device.after (now : Nat) (d : Device) (made : List (Call × Response)) : Device :=
  made.foldl (fun d call => effect now call.1 call.2 d) d

/-- From every state, the callback for a change of an attribute does what `pins.md` says. The change of a
    load's OnOff attribute touches no output by itself; and when its event is accepted and dispatched,
    the load's pin is the only one driven, on for a non-zero value and off for zero, so that with calls
    that succeed every other pin stays as it was. The change of any other attribute is only recorded. -/
def RoutedAsDocumented (path : ConcreteAttributePath) (value : UInt8) : Prop :=
  ∀ (s : State) (cause : Nat),
    (∀ e : Actuator, path = e.onOffPath →
      (deliver cause path value s).device = s.device ∧
      ∀ posted, (deliver cause path value s).queue.items = s.queue.items ++ [posted] →
        ∀ (vars : AppVars) (answers : Call → Response),
          let made := ((dispatchEvent posted.event).run vars).trace answers
          made.filterMap (fun call => call.1.drive?) = [(e.documentedPin, e.signal (isOn value))] ∧
          ((∀ call ∈ made, call.2.rc = 0) → ∀ (now : Nat) (d : Device),
            (d.after now made).output =
              Function.update d.output e.documentedPin (some (e.signal (isOn value))))) ∧
    ((∀ e : Actuator, path ≠ e.onOffPath) →
      deliver cause path value s = s.note (.delivered path value))

end DeviceWifi
