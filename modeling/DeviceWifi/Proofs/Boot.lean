/-
Module: DeviceWifi.Proofs.Boot
Layer: Proofs
Purpose: What `main` comes to. It returns exactly when `Init` meets a failure it returns, always with the
  failing exit code. Otherwise it runs for ever: with the outputs and timers every run is taken to start
  with when all readiness checks succeed and the pins are configured, and else, when a check has failed,
  without a running timer and without the Matter thread.
Imports: DeviceWifi.Spec.Boot, DeviceWifi.Spec.Outputs, DeviceWifi.Proofs.Init
Trusted boundary: none (fully proved)
Main exports: passes_of_timerStart, timeless_of_stopped, booted_allCalls, main_boots
Open obligations: none
-/
import DeviceWifi.Spec.Boot
import DeviceWifi.Spec.Outputs
import DeviceWifi.Proofs.Init

namespace DeviceWifi

open Reactive

section Boot

variable {mapErrorZephyr : Int → Int} {config : BuildConfig} {answers : InitCall → Int} {d : Device}

/-! ### `main` and `Init` -/

theorem trace_main :
    (main mapErrorZephyr config).trace answers = (init mapErrorZephyr config).trace answers := by
  unfold main
  rw [Prog.trace_bind, trace_startApp]
  split <;> simp

/-- `main` returns the failing exit code when `Init` stops with an error, and runs otherwise. -/
theorem result_main :
    (main mapErrorZephyr config).result answers =
      match Checklist.firstStop answers (initSteps mapErrorZephyr config) with
      | some err => if err = chipNoError then .runs else .returned exitFailure
      | none => .runs := by
  unfold main
  rw [Prog.result_bind, result_startApp]
  cases Checklist.firstStop answers (initSteps mapErrorZephyr config) with
  | none => rfl
  | some err => by_cases noError : err = chipNoError <;> simp [noError]

/-! ### Where `Init` stops no timer runs -/

/-- The server's steps up to the last check of `Init`. -/
def checkedServerSteps (config : BuildConfig) : List InitStep :=
  [.call (.kTimerInit .sFunctionTimer), .call (.kTimerUserDataSet .sFunctionTimer)] ++
    (if config.factoryData then
      [returnOnFailure .factoryDataProviderInit, .call .setDeviceInstanceInfoProvider,
       .call .setDeviceAttestationCredentialsProvider, .call .setCommissionableDataProvider]
    else
      [.call .setDeviceInstanceInfoProvider, .call .setDeviceAttestationCredentialsProvider]) ++
    [.call .initializeStaticResourcesBeforeServerInit, returnOnFailure .serverInit,
     .call .logDeviceConfig, .call .printOnboardingCodes, .call .addEventHandler,
     returnOnFailure .startEventLoopTask]

/-- The steps behind the last check of `Init`. -/
def finalSteps : List InitStep :=
  [.call .zeroLastMeasures, .call (.kTimerInit .sSensorTimer),
   .call (.kTimerUserDataSet .sSensorTimer), .call (.kTimerStart .sSensorTimer 5000 5000),
   .call (.kTimerInit .sFeederMonoTimer), .call (.kTimerUserDataSet .sFeederMonoTimer)]

theorem initSteps_eq_final (mapErrorZephyr : Int → Int) (config : BuildConfig) :
    initSteps mapErrorZephyr config =
      (stackSteps mapErrorZephyr config ++ deviceSteps mapErrorZephyr ++ checkedServerSteps config) ++
        finalSteps := by
  obtain ⟨network, factoryData⟩ := config
  cases network <;> cases factoryData <;> rfl

/-- A call starts a timer. -/
def InitCall.isTimerStart : InitCall → Bool
  | .kTimerStart _ _ _ => true
  | _ => false

theorem isTimerStart_stack (mapErrorZephyr : Int → Int) (config : BuildConfig) :
    ∀ c ∈ (stackSteps mapErrorZephyr config).filterMap CheckStep.call?, c.isTimerStart = false := by
  obtain ⟨network, factoryData⟩ := config
  cases network <;>
    simp [stackSteps, returnOnFailure, CheckStep.call?, InitCall.isTimerStart, List.filterMap_cons]

theorem isTimerStart_devices (mapErrorZephyr : Int → Int) :
    ∀ c ∈ (deviceSteps mapErrorZephyr).filterMap CheckStep.call?, c.isTimerStart = false := by
  simp [deviceSteps, requireReady, CheckStep.call?, InitCall.isTimerStart]

theorem isTimerStart_checkedServer (config : BuildConfig) :
    ∀ c ∈ (checkedServerSteps config).filterMap CheckStep.call?, c.isTimerStart = false := by
  obtain ⟨network, factoryData⟩ := config
  cases factoryData <;>
    simp [checkedServerSteps, returnOnFailure, CheckStep.call?, InitCall.isTimerStart]

/-- No timer is started before the last check has passed. -/
theorem passes_of_timerStart {c : InitCall} {r : Int} (starts : c.isTimerStart = true)
    (made : (c, r) ∈ (main mapErrorZephyr config).trace answers) :
    Checklist.firstStop answers (initSteps mapErrorZephyr config) = none := by
  rw [trace_main, init_eq_run, initSteps_eq_final] at made
  have late : c ∉ (stackSteps mapErrorZephyr config ++ deviceSteps mapErrorZephyr ++
      checkedServerSteps config).filterMap CheckStep.call? := by
    simp only [List.filterMap_append, List.mem_append]
    rintro ((stack | device) | server)
    · exact Bool.false_ne_true ((isTimerStart_stack _ _ c stack).symm.trans starts)
    · exact Bool.false_ne_true ((isTimerStart_devices _ c device).symm.trans starts)
    · exact Bool.false_ne_true ((isTimerStart_checkedServer _ c server).symm.trans starts)
  obtain ⟨passes, _⟩ := Checklist.calls_prefix_of_mem (List.prefix_refl _) made late
  rw [initSteps_eq_final, Checklist.firstStop_append, passes]
  rfl

/-- With nothing in between, the status LED comes to show the network. -/
theorem runAlone_updateStatusLED (now : Nat) (d : Device) :
    runAlone now updateStatusLED d = { d with statusLed := d.flags.statusLed } := by
  obtain ⟨attributes, measured, gpio, servo, timer, ⟨provisioned, enabled, connected⟩, led, leds⟩ := d
  cases provisioned <;> cases enabled <;> cases connected <;> rfl

/-- A call that starts no timer keeps a device without running timers. -/
theorem timeless_effect {c : InitCall} (silent : c.isTimerStart = false) (r : Int)
    (timeless : d.Timeless) : (c.effect r d).Timeless := by
  cases c with
  | kTimerStart t duration period => cases silent
  | kTimerInit t =>
      intro t'
      simp only [InitCall.effect, Device.setTimer]
      split
      · decide
      · exact timeless t'
  | updateStatusLED =>
      rw [InitCall.effect, runAlone_updateStatusLED]
      exact timeless
  | gpioPinConfigureDt spec flags =>
      simp only [InitCall.effect]
      split <;> exact timeless
  | gpioPinSetDt spec value =>
      simp only [InitCall.effect]
      split <;> exact timeless
  | _ => exact timeless

theorem timeless_booted {made : List (InitCall × Int)}
    (silent : ∀ call ∈ made, call.1.isTimerStart = false) (timeless : d.Timeless) :
    (booted made d).Timeless := by
  induction made generalizing d with
  | nil => exact timeless
  | cons call rest ih =>
      obtain ⟨here, later⟩ := List.forall_mem_cons.mp silent
      exact ih later (timeless_effect here call.2 timeless)

/-- When `Init` stops early no timer runs. -/
theorem timeless_of_stopped (powered : PoweredOn d)
    (stopped : Checklist.firstStop answers (initSteps mapErrorZephyr config) ≠ none) :
    (booted ((main mapErrorZephyr config).trace answers) d).Timeless := by
  apply timeless_booted _ powered.timers
  intro call made
  cases starts : call.1.isTimerStart with
  | false => rfl
  | true => exact absurd (passes_of_timerStart starts made) stopped

/-! ### The complete run -/

@[simp] theorem booted_nil : booted [] d = d := rfl

@[simp] theorem booted_cons (call : InitCall × Int) (rest : List (InitCall × Int)) :
    booted (call :: rest) d = booted rest (call.1.effect call.2 d) := rfl

theorem booted_append (first second : List (InitCall × Int)) :
    booted (first ++ second) d = booted second (booted first d) :=
  List.foldl_append

/-- The answers given to a list of calls. -/
def answered (answers : InitCall → Int) (calls : List InitCall) : List (InitCall × Int) :=
  calls.map fun c => (c, answers c)

/-- The calls of a complete run, part by part. -/
theorem answered_allCalls :
    answered answers (allCalls mapErrorZephyr config) =
      answered answers ((stackSteps mapErrorZephyr config).filterMap CheckStep.call?) ++
        answered answers ((deviceSteps mapErrorZephyr).filterMap CheckStep.call?) ++
        answered answers ((serverSteps config).filterMap CheckStep.call?) := by
  simp only [answered, allCalls, initSteps, List.filterMap_append, List.map_append]

/-- The stack's calls show the network flags. -/
theorem booted_stack (network : config.network ≠ .none) :
    booted (answered answers ((stackSteps mapErrorZephyr config).filterMap CheckStep.call?)) d =
      { d with statusLed := d.flags.statusLed } := by
  rw [← runAlone_updateStatusLED 0 d]
  obtain ⟨network', factoryData⟩ := config
  cases network' with
  | none => exact absurd rfl network
  | openThread deviceType => rfl
  | wiFi => rfl

/-- The devices' calls drive every pin high when all of them are configured. -/
theorem booted_devices (mapErrorZephyr : Int → Int)
    (configured : ∀ c ∈ pinConfigurations, c.Succeeds (answers c)) :
    booted (answered answers ((deviceSteps mapErrorZephyr).filterMap CheckStep.call?)) d =
      { d with gpio := fun _ => 1 } := by
  have zero : ∀ c ∈ pinConfigurations, answers c = 0 := by
    simpa [pinConfigurations, InitCall.Succeeds, InitCall.isReadinessCheck] using configured
  simp only [pinConfigurations, List.forall_mem_cons, List.not_mem_nil, false_implies,
    implies_true, and_true] at zero
  obtain ⟨ls1, rel1, rel2, rel3, rel4⟩ := zero
  simp only [deviceSteps, requireReady, CheckStep.call?, List.filterMap_cons, List.filterMap_nil,
    answered, List.map_cons, List.map_nil, booted_cons, booted_nil, InitCall.effect, ls1, rel1, rel2,
    rel3, rel4, if_true, Device.setGpio]
  split <;>
  · congr 1
    funext spec
    cases spec <;> rfl

/-- The server's calls leave the timers as every run starts with them. -/
theorem booted_server (config : BuildConfig) (answers : InitCall → Int) (d : Device) :
    booted (answered answers ((serverSteps config).filterMap CheckStep.call?)) d =
      { d with timer := Device.initial.timer } := by
  have timers : booted (answered answers ((serverSteps config).filterMap CheckStep.call?)) d =
      (((d.setTimer .sFunctionTimer .idle).setTimer .sSensorTimer .idle).setTimer .sSensorTimer
        (.start 0 5000 5000)).setTimer .sFeederMonoTimer .idle := by
    obtain ⟨network, factoryData⟩ := config
    cases factoryData <;> rfl
  rw [timers]
  simp only [Device.setTimer]
  congr 1
  funext t
  cases t <;> rfl

/-- A device on which `Init` is run to its end starts as every run does, except that the attributes
    keep what is stored. -/
theorem booted_allCalls (powered : PoweredOn d) (network : config.network ≠ .none)
    (configured : ∀ c ∈ pinConfigurations, c.Succeeds (answers c)) :
    booted (answered answers (allCalls mapErrorZephyr config)) d =
      { Device.initial with attributes := d.attributes, measured := d.measured } := by
  rw [answered_allCalls, booted_append, booted_append, booted_stack network, booted_devices _ configured,
    booted_server]
  obtain ⟨attributes, measured, gpio, servo, timer, flags, statusLed, factoryResetLeds⟩ := d
  obtain ⟨rfl, -, rfl, rfl⟩ := powered
  rfl

/-! ### What becomes of the checks -/

/-- A failure that `Init` returns is an error. -/
theorem firstStop_of_bootFails (map_error : ∀ ret ≠ 0, mapErrorZephyr ret ≠ chipNoError)
    (fails : BootFails config answers) :
    ∃ err ≠ chipNoError, Checklist.firstStop answers (initSteps mapErrorZephyr config) = some err := by
  by_cases stackFails : StackFails config answers
  · obtain ⟨err, stopped⟩ := Option.ne_none_iff_exists'.mp
      fun passes => (stack_passes_iff mapErrorZephyr).mp passes stackFails
    obtain ⟨step, member, stopsHere⟩ := Checklist.exists_of_firstStop stopped
    refine ⟨err, returnsError_stack map_error step member err stopsHere, ?_⟩
    rw [firstStop_initSteps, stopped, Option.some_or, Option.some_or]
  · obtain ⟨ready, c, call, failed⟩ := fails.resolve_left stackFails
    obtain ⟨err, stopped⟩ := Option.ne_none_iff_exists'.mp
      fun passes => failed (server_passes_iff.mp passes c call)
    obtain ⟨step, member, stopsHere⟩ := Checklist.exists_of_firstStop stopped
    refine ⟨err, returnsError_server step member err stopsHere, ?_⟩
    rw [firstStop_initSteps, (stack_passes_iff _).mpr stackFails, (devices_pass_iff _).mpr ready,
      stopped, Option.none_or, Option.none_or]

/-- Without such a failure `Init` stops at a readiness check, with no error, or not at all. -/
theorem firstStop_of_notReady (map_zero : mapErrorZephyr 0 = chipNoError)
    (runs : ¬ BootFails config answers) (notReady : ¬ Ready answers) :
    Checklist.firstStop answers (initSteps mapErrorZephyr config) = some chipNoError := by
  obtain ⟨err, stopped⟩ := Option.ne_none_iff_exists'.mp
    fun passes => notReady ((devices_pass_iff mapErrorZephyr).mp passes)
  have passes := (stack_passes_iff mapErrorZephyr).mpr fun fails => runs (Or.inl fails)
  rw [firstStop_initSteps, passes, stopped, Option.none_or, Option.some_or,
    devices_error map_zero stopped]

theorem firstStop_of_ready (mapErrorZephyr : Int → Int) (runs : ¬ BootFails config answers)
    (ready : Ready answers) :
    Checklist.firstStop answers (initSteps mapErrorZephyr config) = none := by
  have serves : ∀ c ∈ serverCalls config, c.Succeeds (answers c) :=
    fun c call => not_not.mp fun failed => runs (Or.inr ⟨ready, c, call, failed⟩)
  rw [firstStop_initSteps, (stack_passes_iff _).mpr fun fails => runs (Or.inl fails),
    (devices_pass_iff _).mpr ready, server_passes_iff.mpr serves]
  rfl

/-- When nothing stops `Init` it makes all its calls. -/
theorem trace_of_passes
    (passes : Checklist.firstStop answers (initSteps mapErrorZephyr config) = none) :
    (main mapErrorZephyr config).trace answers = answered answers (allCalls mapErrorZephyr config) := by
  rw [trace_main, init_eq_run, Checklist.trace_run passes]
  rfl

/-- The Matter thread is started only behind the readiness checks. -/
theorem ready_of_started {r : Int}
    (made : (.startEventLoopTask, r) ∈ (main mapErrorZephyr config).trace answers) :
    Ready answers := by
  rw [trace_main, init_eq_run, initSteps] at made
  have late : InitCall.startEventLoopTask ∉
      (stackSteps mapErrorZephyr config ++ deviceSteps mapErrorZephyr).filterMap
        CheckStep.call? := by
    obtain ⟨network, factoryData⟩ := config
    cases network <;>
      simp [stackSteps, deviceSteps, requireReady, returnOnFailure, CheckStep.call?,
        List.filterMap_cons]
  obtain ⟨passes, _⟩ := Checklist.calls_prefix_of_mem (List.prefix_refl _) made late
  rw [Checklist.firstStop_append, Option.or_eq_none_iff] at passes
  exact (devices_pass_iff mapErrorZephyr).mp passes.2

end Boot

/-- `main` returns, with the failing exit code, exactly when the start fails. Otherwise it runs for ever:
    on the device every run starts from when all devices are ready and all pins configured, and when a
    device is not ready on one that enters the loop with no timer running and no Matter thread. -/
theorem main_boots (mapErrorZephyr : Int → Int) (map_zero : mapErrorZephyr 0 = chipNoError)
    (map_error : ∀ ret ≠ 0, mapErrorZephyr ret ≠ chipNoError) (config : BuildConfig)
    (answers : InitCall → Int) (d : Device) (powered : PoweredOn d) :
    Boots mapErrorZephyr config answers d where
  returns fails := by
    obtain ⟨err, isError, stopped⟩ := firstStop_of_bootFails map_error fails
    rw [result_main, stopped]
    exact if_neg isError
  runs runs := by
    rw [result_main]
    by_cases ready : Ready answers
    · rw [firstStop_of_ready _ runs ready]
    · rw [firstStop_of_notReady map_zero runs ready]
      exact if_pos rfl
  timers runs ready := by
    have passes := firstStop_of_ready mapErrorZephyr runs ready
    rw [trace_of_passes passes]
    rw [answered_allCalls, booted_append, booted_server]
  initial runs ready configured := by
    have passes := firstStop_of_ready mapErrorZephyr runs ready
    rw [trace_of_passes passes]
    exact booted_allCalls powered (fun isNone => runs (Or.inl (Or.inl isNone))) configured
  timeless failed := by
    apply timeless_of_stopped powered
    by_cases fails : BootFails config answers
    · obtain ⟨err, -, stopped⟩ := firstStop_of_bootFails map_error fails
      exact stopped ▸ Option.some_ne_none err
    · rw [firstStop_of_notReady map_zero fails (failed.resolve_left fails)]
      exact Option.some_ne_none _
  unserved notReady _ made := notReady (ready_of_started made)

/-- `main_boots` on a Wi-Fi build on which every call succeeds: the device is the one every run starts
    from. -/
theorem main_boots_allSucceed :
    (main osError ⟨.wiFi, true⟩).result allSucceed = .runs ∧
      booted ((main osError ⟨.wiFi, true⟩).trace allSucceed)
        { Device.initial with timer := fun _ => .idle, gpio := fun _ => 0 } = Device.initial := by
  have boots := main_boots osError rfl (fun _ => osError_ne_chipNoError) ⟨.wiFi, true⟩ allSucceed
    { Device.initial with timer := fun _ => .idle, gpio := fun _ => 0 }
    ⟨rfl, fun _ => (by decide : ¬ SoftTimer.idle.Running), rfl, rfl⟩
  have starts : ¬ BootFails ⟨.wiFi, true⟩ allSucceed := by
    unfold BootFails StackFails Ready
    decide
  exact ⟨boots.runs starts, boots.initial starts (by unfold Ready; decide)
    (by unfold PinsConfigured; decide)⟩

end DeviceWifi
