/-
Module: DeviceWifi.Firmware.Board
Layer: Firmware
Purpose: The pins behind the outputs. The GPIO specs of `app_task.cpp` name device-tree aliases, the board
  overlay resolves the aliases to nodes and gives each node its pin, and the servo's node names a PWM
  channel whose pin is set by pin control. A call on an output drives the pin at the end of that chain.
Imports: DeviceWifi.Firmware.AppTask
Trusted boundary: human-reviewed spec
Main exports: Pin, GpioSpec.pin, servoPin?, minPulse, maxPulse, Signal, Call.drive?
Open obligations: none
-/
import DeviceWifi.Firmware.AppTask

namespace DeviceWifi

/-- A pin of the board, `P1.14` being pin 14 of port 1. -/
structure Pin where
  port : Nat
  number : Nat
deriving DecidableEq, Repr

/-! ### The overlay -/

/-- The overlay's aliases of nodes with a `gpios` property. -/
inductive GpioAlias where
  | levelShifter1 | relay1 | relay2 | relay3 | relay4
deriving DecidableEq, Repr

/-- The overlay's nodes with a `gpios` property, by their labels. -/
inductive GpioNode where
  | levelShifter1 | relay4 | relay3 | relay2 | relay1
deriving DecidableEq, Repr

/-- The `aliases` block. -/
def GpioAlias.node : GpioAlias → GpioNode
  | .levelShifter1 => .levelShifter1
  | .relay1 => .relay1
  | .relay2 => .relay2
  | .relay3 => .relay3
  | .relay4 => .relay4

/-- A `gpios` property: the pin, and whether it is `GPIO_ACTIVE_LOW`. -/
structure GpioDtSpec where
  pin : Pin
  activeLow : Bool
deriving DecidableEq, Repr

/-- The `gpios` properties of `level_shifters` and `relays`. -/
def GpioNode.gpios : GpioNode → GpioDtSpec
  | .levelShifter1 => ⟨⟨1, 15⟩, false⟩
  | .relay4 => ⟨⟨1, 11⟩, false⟩
  | .relay3 => ⟨⟨1, 12⟩, false⟩
  | .relay2 => ⟨⟨1, 13⟩, false⟩
  | .relay1 => ⟨⟨1, 14⟩, false⟩

/-- The channel of `pwm1` in the `pwms` property of `servo0`. -/
def servo0Channel : Nat := 0

/-- `min_pulse`, in nanoseconds: `DT_PROP(DT_ALIAS(servo), min_pulse)` is the `min-pulse` of `servo0`. -/
def minPulse : Nat := 1000000

/-- `max_pulse`, in nanoseconds: the `max-pulse` of `servo0`. -/
def maxPulse : Nat := 1390000

/-- The pins `pwm1_default_alt` selects for the channels of `pwm1`. -/
def pwm1DefaultAlt : Nat → Option Pin
  | 0 => some ⟨0, 27⟩
  | _ => none

/-! ### The outputs of the application -/

/-- The `GPIO_DT_SPEC_GET(DT_ALIAS(..), gpios)` of `app_task.cpp`. -/
def GpioSpec.alias : GpioSpec → GpioAlias
  | .ls1 => .levelShifter1
  | .rel1 => .relay1
  | .rel2 => .relay2
  | .rel3 => .relay3
  | .rel4 => .relay4

/-- The `gpio_dt_spec` the build makes of a spec. -/
def GpioSpec.dtSpec (spec : GpioSpec) : GpioDtSpec := spec.alias.node.gpios

/-- The pin of a spec. -/
def GpioSpec.pin (spec : GpioSpec) : Pin := spec.dtSpec.pin

/-- The pin of `servo`, that is of `PWM_DT_SPEC_GET(DT_ALIAS(servo))`. -/
def servoPin? : Option Pin := pwm1DefaultAlt servo0Channel

/-- What a pin is driven with: a physical level, or pulses of a width in nanoseconds. -/
inductive Signal where
  | level (value : Nat)
  | pulse (width : Nat)
deriving DecidableEq, Repr

/-- The physical level of a logical value: `gpio_pin_set_dt` inverts it for an active-low pin. -/
def GpioDtSpec.physical (spec : GpioDtSpec) (value : Nat) : Nat :=
  if (value != 0) != spec.activeLow then 1 else 0

/-- The pin a call drives, and with what. -/
def Call.drive? : Call → Option (Pin × Signal)
  | .gpioPinSetDt spec value => some (spec.pin, .level (spec.dtSpec.physical value))
  | .pwmSetPulseDt pulse => servoPin?.map fun pin => (pin, .pulse pulse)
  | _ => none

end DeviceWifi
