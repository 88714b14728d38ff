/-
Module: DeviceWifi.Spec.Initialised
Layer: Spec
Purpose: What `Init` is for: the loop is entered only on a device on which every required call was made
  and succeeded, with the relays driven off and the timers initialised. And while it runs no relay is
  exposed: the level shifter connects the relays to the board, so it should be enabled only once every
  relay's pin is driven high, which is off. The level a pin is driven to at a point of the execution is
  read off the calls made and answered so far.
Imports: DeviceWifi.Firmware.Board, DeviceWifi.Firmware.Init
Trusted boundary: human-reviewed spec
Main exports: requiredCalls, InitCall.Succeeds, drivenLevel, EntersOnlyInitialised, InitialisedWhen,
  Unexposed, UnexposedWhen
Open obligations: none
-/
import DeviceWifi.Firmware.Board
import DeviceWifi.Firmware.Init

namespace DeviceWifi

open Reactive

/-- The call asks whether a device is ready. -/
def InitCall.isReadinessCheck : InitCall → Bool
  | .gpioIsReadyDt _ => true
  | .deviceIsReady _ => true
  | _ => false

/-- A readiness check succeeds with a non-zero answer, every other call with zero. -/
def InitCall.Succeeds (c : InitCall) (r : Int) : Prop :=
  if c.isReadinessCheck then r ≠ 0 else r = 0

instance (c : InitCall) (r : Int) : Decidable (c.Succeeds r) :=
  inferInstanceAs (Decidable (if c.isReadinessCheck then r ≠ 0 else r = 0))

/-- The readiness checks of the level shifter, the servo, the sensors and the relays. -/
def readinessChecks : List InitCall :=
  [.gpioIsReadyDt .ls1, .deviceIsReady .servo, .deviceIsReady .dht11, .deviceIsReady .dht22,
   .deviceIsReady .ds18b20, .gpioIsReadyDt .rel1, .gpioIsReadyDt .rel2, .gpioIsReadyDt .rel3,
   .gpioIsReadyDt .rel4]

/-- The configurations of the level shifter's and the relays' pins. -/
def pinConfigurations : List InitCall :=
  [.gpioPinConfigureDt .ls1 .outputActive, .gpioPinConfigureDt .rel1 .outputHigh,
   .gpioPinConfigureDt .rel2 .outputHigh, .gpioPinConfigureDt .rel3 .outputHigh,
   .gpioPinConfigureDt .rel4 .outputHigh]

/-- The calls that bring up the stack, the network and the buttons. -/
def stackCalls (config : BuildConfig) : List InitCall :=
  [.memoryInit, .initChipStack] ++
    (match config.network with
      | .openThread deviceType => [.initThreadStack, .setThreadDeviceType deviceType]
      | _ => []) ++
    [.dkButtonsInit]

/-- The calls that bring up the Matter server. -/
def serverCalls (config : BuildConfig) : List InitCall :=
  (if config.factoryData then [.factoryDataProviderInit] else []) ++
    [.serverInit, .startEventLoopTask]

/-- The calls that must all succeed before the loop is entered. -/
def requiredCalls (config : BuildConfig) : List InitCall :=
  stackCalls config ++ readinessChecks ++ pinConfigurations ++ serverCalls config

/-! ### The level of a pin -/

/-- The physical level a configuration starts an output with: `GPIO_OUTPUT_ACTIVE` the level of a logical
    one, `GPIO_OUTPUT_HIGH` the high level. -/
def GpioFlags.physical (spec : GpioDtSpec) : GpioFlags → Nat
  | .outputActive => spec.physical 1
  | .outputHigh => 1

/-- The physical level a successful call drives a pin to. -/
def InitCall.level? (spec : GpioSpec) : InitCall → Option Nat
  | .gpioPinConfigureDt spec' flags =>
      if spec' = spec then some (flags.physical spec.dtSpec) else none
  | .gpioPinSetDt spec' value => if spec' = spec then some (spec.dtSpec.physical value) else none
  | _ => none

/-- The level a pin is driven to at a point of the execution, if a call has driven it. A call that fails
    leaves the pin as it was. -/
def drivenLevel (spec : GpioSpec) (made : List (InitCall × Int)) : Option Nat :=
  (made.filterMap fun call => if call.2 = 0 then call.1.level? spec else none).getLast?

/-- The relays' specs. -/
def relays : List GpioSpec := [.rel1, .rel2, .rel3, .rel4]

/-! ### The requirement -/

section Requirement

variable (mapErrorZephyr : Int → Int) (config : BuildConfig) (answers : InitCall → Int)

/-- The loop is entered only on a fully initialised device: when it is entered, every required call was
    made and succeeded, the relays are driven high, and the three timers were initialised; and when a
    required call fails, an error is returned instead. -/
def EntersOnlyInitialised : Prop :=
  let made := (startApp mapErrorZephyr config).trace answers
  let outcome := (startApp mapErrorZephyr config).result answers
  (outcome = .enteredLoop →
    (∀ c ∈ requiredCalls config, ∃ r, (c, r) ∈ made ∧ c.Succeeds r) ∧
    (∀ relay ∈ relays, drivenLevel relay made = some 1) ∧
    ∀ t : TimerId, ∃ r, (.kTimerInit t, r) ∈ made) ∧
  ∀ c ∈ requiredCalls config, ∀ r, (c, r) ∈ made → ¬ c.Succeeds r →
    ∃ err ≠ chipNoError, outcome = .returned err

/-- A call before the readiness checks fails, or the build has no network to bring up. -/
def StackFails : Prop :=
  config.network = .none ∨ ∃ c ∈ stackCalls config, ¬ c.Succeeds (answers c)

/-- The condition under which `Init` keeps the requirement: a call before the readiness checks fails; or
    every readiness check succeeds, and a call of the server fails or every pin is configured. -/
def InitialisedWhen : Prop :=
  StackFails config answers ∨
    ((∀ c ∈ readinessChecks, c.Succeeds (answers c)) ∧
      ((∃ c ∈ serverCalls config, ¬ c.Succeeds (answers c)) ∨
        ∀ c ∈ pinConfigurations, c.Succeeds (answers c)))

end Requirement

/-! ### Exposed relays -/

/-- At a point of the execution, if the level shifter's output enable is active, every relay's pin is
    driven high. -/
def Unexposed (made : List (InitCall × Int)) : Prop :=
  drivenLevel .ls1 made = some (GpioSpec.ls1.dtSpec.physical 1) →
    ∀ relay ∈ relays, drivenLevel relay made = some 1

instance (made : List (InitCall × Int)) : Decidable (Unexposed made) :=
  inferInstanceAs (Decidable (_ → ∀ relay ∈ relays, _))

/-- The condition under which no relay is ever exposed: `Init` does not get past the readiness of the
    level shifter; or the configuration of the level shifter fails, and so does another readiness check
    or the call that enables the level shifter, or else every relay is configured. -/
def UnexposedWhen (config : BuildConfig) (answers : InitCall → Int) : Prop :=
  StackFails config answers ∨ answers (.gpioIsReadyDt .ls1) = 0 ∨
    answers (.gpioPinConfigureDt .ls1 .outputActive) ≠ 0 ∧
      ((∃ c ∈ readinessChecks, answers c = 0) ∨ answers (.gpioPinSetDt .ls1 1) ≠ 0 ∨
        ∀ relay ∈ relays, answers (.gpioPinConfigureDt relay .outputHigh) = 0)

end DeviceWifi
