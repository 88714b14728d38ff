/-
Module: DeviceWifi.Spec.Boot
Layer: Spec
Purpose: From power-on to the loop. A call of `Init` acts on the device as the SDK call it is; run over the
  calls made, these effects lead from a device at power-on to the one the loop is entered on. Time is
  counted from there, as in the running device.
Imports: DeviceWifi.Firmware.System, DeviceWifi.Spec.Initialised
Trusted boundary: human-reviewed spec
Main exports: InitCall.effect, booted, PoweredOn, Ready, BootFails, Boots
Open obligations: none
-/
import DeviceWifi.Firmware.System
import DeviceWifi.Spec.Initialised

namespace DeviceWifi

open Reactive

/-- The device after code that no other context comes between. -/
def runAlone {α : Type} (now : Nat) : Prog Call Response α → Device → Device
  | .pure _, d => d
  | .call c k, d =>
      let reply := d.reply c default
      runAlone now (k reply) (effect now c reply d)

/-- What a call of `Init` does to the device. A pin whose configuration or setting fails stays as it is.
    `ChipEventHandler` is not registered yet when the status LED is updated. -/
def InitCall.effect : InitCall → Int → Device → Device
  | .updateStatusLED, _, d => runAlone 0 DeviceWifi.updateStatusLED d
  | .gpioPinConfigureDt spec flags, r, d =>
      if r = 0 then d.setGpio spec (flags.physical spec.dtSpec) else d
  | .gpioPinSetDt spec value, r, d => if r = 0 then d.setGpio spec value else d
  | .kTimerInit t, _, d => d.setTimer t .idle
  | .kTimerStart t duration period, _, d => d.setTimer t (.start 0 duration period)
  | _, _, d => d

/-- The device after the calls made so far. -/
def booted (made : List (InitCall × Int)) (d : Device) : Device :=
  made.foldl (fun d call => call.1.effect call.2 d) d

/-- A device at power-on: the servo is not driven, no timer runs, the network flags have their initial
    values and the factory-reset LEDs are out. The attributes are those of the attribute store, and the
    pins and the status LED may be in any state. -/
structure PoweredOn (d : Device) : Prop where
  servo : d.servo = 0
  timers : ∀ t, ¬ (d.timer t).Running
  flags : d.flags = ⟨false, false, false⟩
  factoryResetLeds : d.factoryResetLeds = false

section Outcomes

variable (config : BuildConfig) (answers : InitCall → Int)

/-- Every readiness check succeeds. -/
def Ready : Prop := ∀ c ∈ readinessChecks, c.Succeeds (answers c)

/-- `Init` meets a failure that it returns: one of the stack's calls, or past the readiness checks one of
    the server's. -/
def BootFails : Prop :=
  StackFails config answers ∨
    Ready answers ∧ ∃ c ∈ serverCalls config, ¬ c.Succeeds (answers c)

/-- Every pin of the level shifter and the relays is configured. -/
def PinsConfigured : Prop := ∀ c ∈ pinConfigurations, c.Succeeds (answers c)

end Outcomes

/-- No kernel timer runs. -/
def Device.Timeless (d : Device) : Prop := ∀ t, ¬ (d.timer t).Running

/-- What `main` comes to on a device at power-on. -/
structure Boots (mapErrorZephyr : Int → Int) (config : BuildConfig) (answers : InitCall → Int)
    (d : Device) : Prop where
  /-- It returns the failing exit code exactly when the start fails, and else never returns. -/
  returns : BootFails config answers →
    (main mapErrorZephyr config).result answers = .returned exitFailure
  runs : ¬ BootFails config answers → (main mapErrorZephyr config).result answers = .runs
  /-- The loop is entered with the timers every run starts with when every readiness check succeeds. -/
  timers : ¬ BootFails config answers → Ready answers →
    (booted ((main mapErrorZephyr config).trace answers) d).timer = Device.initial.timer
  /-- If the pins are configured too, the whole device is the one every run starts with. -/
  initial : ¬ BootFails config answers → Ready answers → PinsConfigured answers →
    booted ((main mapErrorZephyr config).trace answers) d =
      { Device.initial with attributes := d.attributes, measured := d.measured }
  /-- In every other case no timer runs. -/
  timeless : BootFails config answers ∨ ¬ Ready answers →
    (booted ((main mapErrorZephyr config).trace answers) d).Timeless
  /-- A device that is not ready does not get to start the Matter thread. -/
  unserved : ¬ Ready answers →
    ∀ r, (.startEventLoopTask, r) ∉ (main mapErrorZephyr config).trace answers

end DeviceWifi
