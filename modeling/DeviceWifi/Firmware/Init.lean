/-
Module: DeviceWifi.Firmware.Init
Layer: Firmware
Purpose: `AppTask::Init`, the entry of `AppTask::StartApp` and `main` as programs over the SDK calls they
  make, in the order of the source and with its early returns. The build options that select code in `Init` are a
  parameter, and so is `MapErrorZephyr`, which is not part of the repository. A `CHIP_ERROR` is its
  integer code, `CHIP_NO_ERROR` being zero.
Imports: DeviceWifi.Lib.Program, DeviceWifi.Firmware.AppTask
Trusted boundary: human-reviewed spec
Main exports: InitCall, BuildConfig, init, startApp, main
Open obligations: none
-/
import DeviceWifi.Lib.Program
import DeviceWifi.Firmware.AppTask

namespace DeviceWifi

open Reactive

/-- The devices checked by `device_is_ready`. -/
inductive ReadyDevice where
  | servo | dht11 | dht22 | ds18b20
deriving DecidableEq, Repr

/-- The flags of `gpio_pin_configure_dt`. -/
inductive GpioFlags where
  | outputActive | outputHigh
deriving DecidableEq, Repr

/-- The Thread device types. -/
inductive ThreadDeviceType where
  | sleepyEndDevice | minimalEndDevice | router
deriving DecidableEq, Repr

/-- The calls `Init` makes. -/
inductive InitCall where
  | memoryInit
  | initChipStack
  | initThreadStack
  | setThreadDeviceType (deviceType : ThreadDeviceType)
  | wiFiCommissioningInit
  | ledWidgetInitGpio
  | setStateUpdateCallback
  | statusLedInit
  | updateStatusLED
  | dkButtonsInit
  | gpioIsReadyDt (spec : GpioSpec)
  | deviceIsReady (dev : ReadyDevice)
  | gpioPinConfigureDt (spec : GpioSpec) (flags : GpioFlags)
  | gpioPinSetDt (spec : GpioSpec) (value : Nat)
  | kTimerInit (timer : TimerId)
  | kTimerUserDataSet (timer : TimerId)
  | kTimerStart (timer : TimerId) (duration period : Nat)
  | factoryDataProviderInit
  | setDeviceInstanceInfoProvider
  | setDeviceAttestationCredentialsProvider
  | setCommissionableDataProvider
  | initializeStaticResourcesBeforeServerInit
  | serverInit
  | logDeviceConfig
  | printOnboardingCodes
  | addEventHandler
  | startEventLoopTask
  | zeroLastMeasures
deriving DecidableEq, Repr

/-- The network the firmware is built for: `CONFIG_NET_L2_OPENTHREAD`, `CONFIG_CHIP_WIFI` or neither. -/
inductive Network where
  | openThread (deviceType : ThreadDeviceType)
  | wiFi
  | none
deriving DecidableEq, Repr

/-- The build options that select code in `Init`. -/
structure BuildConfig where
  network : Network
  /-- `CONFIG_CHIP_FACTORY_DATA`. -/
  factoryData : Bool
deriving DecidableEq, Repr

/-- `CHIP_NO_ERROR`. -/
def chipNoError : Int := 0

/-- `CHIP_ERROR_INTERNAL`. -/
def chipErrorInternal : Int := 0xac

/-- Code that runs in `Init`: a program over its calls, each answered by an integer. -/
abbrev InitM := Prog InitCall Int

/-- Make one call. -/
def initCall (c : InitCall) : InitM Int := Prog.perform c

section Init

variable (mapErrorZephyr : Int → Int) (config : BuildConfig)

/-- `AppTask::Init`. -/
def init : InitM Int := do
  -- Initialize CHIP stack
  let err ← initCall .memoryInit
  if err != chipNoError then
    return err
  let err ← initCall .initChipStack
  if err != chipNoError then
    return err
  match config.network with
  | .openThread deviceType =>
      let err ← initCall .initThreadStack
      if err != chipNoError then
        return err
      let err ← initCall (.setThreadDeviceType deviceType)
      if err != chipNoError then
        return err
      initDevices
  | .wiFi =>
      let _ ← initCall .wiFiCommissioningInit
      initDevices
  | .none => return chipErrorInternal
where
  /-- From the LEDs and buttons to the function timer. -/
  initDevices : InitM Int := do
    -- Initialize LEDs
    let _ ← initCall .ledWidgetInitGpio
    let _ ← initCall .setStateUpdateCallback
    let _ ← initCall .statusLedInit
    let _ ← initCall .updateStatusLED
    -- Initialize buttons
    let ret ← initCall .dkButtonsInit
    if ret != 0 then
      return mapErrorZephyr ret
    -- Initialize level_shifter output enable
    let ret ← initCall (.gpioIsReadyDt .ls1)
    if ret == 0 then
      return mapErrorZephyr ret
    let _ ← initCall (.gpioPinConfigureDt .ls1 .outputActive)
    -- Initialize SERVO
    let ret ← initCall (.deviceIsReady .servo)
    if ret == 0 then
      return mapErrorZephyr ret
    -- Initialize DHT11
    let ret ← initCall (.deviceIsReady .dht11)
    if ret == 0 then
      return mapErrorZephyr ret
    -- Initialize DHT22
    let ret ← initCall (.deviceIsReady .dht22)
    if ret == 0 then
      return mapErrorZephyr ret
    -- Initialize DS18B20
    let ret ← initCall (.deviceIsReady .ds18b20)
    if ret == 0 then
      return mapErrorZephyr ret
    -- Initialize RELAYs
    let ret ← initCall (.gpioIsReadyDt .rel1)
    if ret == 0 then
      return mapErrorZephyr ret
    let _ ← initCall (.gpioPinConfigureDt .rel1 .outputHigh)
    let ret ← initCall (.gpioIsReadyDt .rel2)
    if ret == 0 then
      return mapErrorZephyr ret
    let _ ← initCall (.gpioPinConfigureDt .rel2 .outputHigh)
    let ret ← initCall (.gpioIsReadyDt .rel3)
    if ret == 0 then
      return mapErrorZephyr ret
    let _ ← initCall (.gpioPinConfigureDt .rel3 .outputHigh)
    let ret ← initCall (.gpioIsReadyDt .rel4)
    if ret == 0 then
      return mapErrorZephyr ret
    let _ ← initCall (.gpioPinConfigureDt .rel4 .outputHigh)
    -- Enable Level Shifter
    let _ ← initCall (.gpioPinSetDt .ls1 1)
    -- Initialize function timer
    let _ ← initCall (.kTimerInit .sFunctionTimer)
    let _ ← initCall (.kTimerUserDataSet .sFunctionTimer)
    -- Initialize CHIP server
    if config.factoryData then
      let err ← initCall .factoryDataProviderInit
      if err != chipNoError then
        return err
      let _ ← initCall .setDeviceInstanceInfoProvider
      let _ ← initCall .setDeviceAttestationCredentialsProvider
      let _ ← initCall .setCommissionableDataProvider
      initServer
    else
      let _ ← initCall .setDeviceInstanceInfoProvider
      let _ ← initCall .setDeviceAttestationCredentialsProvider
      initServer
  /-- From the server to the sensor and feeder timers. -/
  initServer : InitM Int := do
    let _ ← initCall .initializeStaticResourcesBeforeServerInit
    let err ← initCall .serverInit
    if err != chipNoError then
      return err
    let _ ← initCall .logDeviceConfig
    let _ ← initCall .printOnboardingCodes
    -- Add CHIP event handler and start CHIP thread
    let _ ← initCall .addEventHandler
    let err ← initCall .startEventLoopTask
    if err != chipNoError then
      return err
    -- Init to 0 global sensors values
    let _ ← initCall .zeroLastMeasures
    -- Init the Sensors Timer
    let _ ← initCall (.kTimerInit .sSensorTimer)
    let _ ← initCall (.kTimerUserDataSet .sSensorTimer)
    let _ ← initCall (.kTimerStart .sSensorTimer 5000 5000)
    -- Init the Feeder Timer
    let _ ← initCall (.kTimerInit .sFeederMonoTimer)
    let _ ← initCall (.kTimerUserDataSet .sFeederMonoTimer)
    return chipNoError

/-- How `StartApp` gets past `Init`: it returns the error, or enters its loop. -/
inductive StartOutcome where
  | returned (err : Int)
  | enteredLoop
deriving DecidableEq, Repr

/-- `AppTask::StartApp` up to its loop. -/
def startApp : InitM StartOutcome := do
  let err ← init mapErrorZephyr config
  if err != chipNoError then
    return .returned err
  return .enteredLoop

/-- `EXIT_SUCCESS` and `EXIT_FAILURE`. -/
def exitSuccess : Int := 0
def exitFailure : Int := 1

/-- How `main` ends: it returns an exit code, or does not return because the loop never ends. -/
inductive MainOutcome where
  | returned (code : Int)
  | runs
deriving DecidableEq, Repr

/-- `main` of `main.cpp`. -/
def main : InitM MainOutcome := do
  match ← startApp mapErrorZephyr config with
  | .returned err => return .returned (if err == chipNoError then exitSuccess else exitFailure)
  | .enteredLoop => return .runs

end Init

end DeviceWifi
