/-
Module: DeviceWifi.Proofs.Init
Layer: Proofs
Purpose: `Init` as a checklist, and when it keeps its requirement. The checklist falls into the stack, the
  devices and the server. A failing check of the stack or the server returns an error; a failing
  readiness check returns what `MapErrorZephyr` makes of zero, which is no error.
Imports: DeviceWifi.Lib.Checklist, DeviceWifi.Spec.Initialised
Trusted boundary: none (fully proved)
Main exports: init_eq_run, driver_of_mem, drivenLevel_eq_one_iff, enters_only_initialised_iff
Open obligations: none
-/
import DeviceWifi.Lib.Checklist
import DeviceWifi.Spec.Initialised

namespace DeviceWifi

open Reactive

/-- A step of `Init`. -/
abbrev InitStep := CheckStep InitCall Int Int

section Steps

variable (mapErrorZephyr : Int → Int) (config : BuildConfig)

/-- A call whose error is returned as it is. -/
def returnOnFailure (c : InitCall) : InitStep := .check c (fun err => err != chipNoError) id

/-- A readiness check. -/
def requireReady (c : InitCall) : InitStep := .check c (fun ret => ret == 0) mapErrorZephyr

/-- The checks up to the buttons. -/
def stackSteps : List InitStep :=
  [returnOnFailure .memoryInit, returnOnFailure .initChipStack] ++
    (match config.network with
      | .openThread deviceType =>
          [returnOnFailure .initThreadStack, returnOnFailure (.setThreadDeviceType deviceType)]
      | .wiFi => [.call .wiFiCommissioningInit]
      | .none => [.exit chipErrorInternal]) ++
    [.call .ledWidgetInitGpio, .call .setStateUpdateCallback, .call .statusLedInit,
     .call .updateStatusLED, .check .dkButtonsInit (fun ret => ret != 0) mapErrorZephyr]

/-- The checks of the level shifter, the servo, the sensors and the relays. -/
def deviceSteps : List InitStep :=
  [requireReady mapErrorZephyr (.gpioIsReadyDt .ls1),
   .call (.gpioPinConfigureDt .ls1 .outputActive),
   requireReady mapErrorZephyr (.deviceIsReady .servo),
   requireReady mapErrorZephyr (.deviceIsReady .dht11),
   requireReady mapErrorZephyr (.deviceIsReady .dht22),
   requireReady mapErrorZephyr (.deviceIsReady .ds18b20),
   requireReady mapErrorZephyr (.gpioIsReadyDt .rel1),
   .call (.gpioPinConfigureDt .rel1 .outputHigh),
   requireReady mapErrorZephyr (.gpioIsReadyDt .rel2),
   .call (.gpioPinConfigureDt .rel2 .outputHigh),
   requireReady mapErrorZephyr (.gpioIsReadyDt .rel3),
   .call (.gpioPinConfigureDt .rel3 .outputHigh),
   requireReady mapErrorZephyr (.gpioIsReadyDt .rel4),
   .call (.gpioPinConfigureDt .rel4 .outputHigh),
   .call (.gpioPinSetDt .ls1 1)]

/-- The checks from the function timer on. -/
def serverSteps : List InitStep :=
  [.call (.kTimerInit .sFunctionTimer), .call (.kTimerUserDataSet .sFunctionTimer)] ++
    (if config.factoryData then
      [returnOnFailure .factoryDataProviderInit, .call .setDeviceInstanceInfoProvider,
       .call .setDeviceAttestationCredentialsProvider, .call .setCommissionableDataProvider]
    else
      [.call .setDeviceInstanceInfoProvider, .call .setDeviceAttestationCredentialsProvider]) ++
    [.call .initializeStaticResourcesBeforeServerInit, returnOnFailure .serverInit,
     .call .logDeviceConfig, .call .printOnboardingCodes, .call .addEventHandler,
     returnOnFailure .startEventLoopTask, .call .zeroLastMeasures,
     .call (.kTimerInit .sSensorTimer), .call (.kTimerUserDataSet .sSensorTimer),
     .call (.kTimerStart .sSensorTimer 5000 5000),
     .call (.kTimerInit .sFeederMonoTimer), .call (.kTimerUserDataSet .sFeederMonoTimer)]

/-- The steps of `Init` in order. -/
def initSteps : List InitStep :=
  stackSteps mapErrorZephyr config ++ deviceSteps mapErrorZephyr ++ serverSteps config

/-- `Init` is its checklist. -/
theorem init_eq_run :
    init mapErrorZephyr config = Checklist.run chipNoError (initSteps mapErrorZephyr config) := by
  obtain ⟨network, factoryData⟩ := config
  cases network <;> cases factoryData <;> rfl

end Steps

/-! ### Where `Init` stops -/

section Stops

variable {mapErrorZephyr : Int → Int} {config : BuildConfig} {answers : InitCall → Int}

/-- A step that returns an error when it stops. -/
def ReturnsError (answers : InitCall → Int) (step : InitStep) : Prop :=
  ∀ err ∈ step.stops answers, err ≠ chipNoError

theorem returnsError_call (c : InitCall) : ReturnsError answers (.call c) := nofun

theorem returnsError_exit : ReturnsError answers (.exit chipErrorInternal) := by
  rintro err stopped
  obtain rfl := Option.some.inj stopped
  decide

theorem returnsError_returnOnFailure (c : InitCall) :
    ReturnsError answers (returnOnFailure c) := by
  intro err stopped
  simp only [returnOnFailure, CheckStep.stops, bne_iff_ne, ne_eq, Option.mem_def,
    Option.ite_none_right_eq_some, Option.some.injEq, id_eq] at stopped
  exact stopped.2 ▸ stopped.1

/-- A check of the stack stops with an error. -/
theorem returnsError_stack (map_error : ∀ ret ≠ 0, mapErrorZephyr ret ≠ chipNoError) :
    ∀ step ∈ stackSteps mapErrorZephyr config, ReturnsError answers step := by
  have buttons : ReturnsError answers
      (.check .dkButtonsInit (fun ret => ret != 0) mapErrorZephyr) := by
    intro err stopped
    simp only [CheckStep.stops, bne_iff_ne, ne_eq, Option.mem_def,
      Option.ite_none_right_eq_some, Option.some.injEq] at stopped
    exact stopped.2 ▸ map_error _ stopped.1
  obtain ⟨network, factoryData⟩ := config
  cases network <;>
    simp [stackSteps, returnsError_call, returnsError_returnOnFailure, returnsError_exit, buttons]

/-- A check of the server stops with an error. -/
theorem returnsError_server : ∀ step ∈ serverSteps config, ReturnsError answers step := by
  obtain ⟨network, factoryData⟩ := config
  cases factoryData <;>
    simp [serverSteps, returnsError_call, returnsError_returnOnFailure]

/-- A readiness check that stops returns no error: the source maps the failing answer zero. -/
theorem devices_error (map_zero : mapErrorZephyr 0 = chipNoError) {err : Int}
    (stopped : Checklist.firstStop answers (deviceSteps mapErrorZephyr) = some err) :
    err = chipNoError := by
  obtain ⟨step, member, stops⟩ := Checklist.exists_of_firstStop stopped
  have noError : ∀ step ∈ deviceSteps mapErrorZephyr, ∀ err ∈ step.stops answers,
      err = chipNoError := by
    have ready (c : InitCall) : ∀ err ∈ (requireReady mapErrorZephyr c).stops answers,
        err = chipNoError := by
      intro err stopped
      simp only [requireReady, CheckStep.stops, beq_iff_eq, Option.mem_def,
        Option.ite_none_right_eq_some, Option.some.injEq] at stopped
      obtain ⟨zero, rfl⟩ := stopped
      rw [zero, map_zero]
    have ignored (c : InitCall) : ∀ err ∈ (CheckStep.call c : InitStep).stops answers,
        err = chipNoError := by
      intro err stopped
      simp [CheckStep.stops] at stopped
    simpa only [deviceSteps, List.forall_mem_cons, List.not_mem_nil, false_implies, implies_true,
      and_true] using ⟨ready _, ignored _, ready _, ready _, ready _, ready _, ready _, ignored _,
        ready _, ignored _, ready _, ignored _, ready _, ignored _, ignored _⟩
  exact noError step member err stops

/-- The stack does not stop exactly when it does not fail. -/
theorem stack_passes_iff (mapErrorZephyr : Int → Int) :
    Checklist.firstStop answers (stackSteps mapErrorZephyr config) = none ↔
      ¬ StackFails config answers := by
  obtain ⟨network, factoryData⟩ := config
  cases network <;>
    simp [Checklist.firstStop_eq_none_iff, stackSteps, returnOnFailure, CheckStep.stops,
      StackFails, stackCalls, InitCall.Succeeds, InitCall.isReadinessCheck, chipNoError]

/-- The devices do not stop exactly when every readiness check succeeds. -/
theorem devices_pass_iff (mapErrorZephyr : Int → Int) :
    Checklist.firstStop answers (deviceSteps mapErrorZephyr) = none ↔
      ∀ c ∈ readinessChecks, c.Succeeds (answers c) := by
  simp [Checklist.firstStop_eq_none_iff, deviceSteps, requireReady, CheckStep.stops,
    readinessChecks, InitCall.Succeeds, InitCall.isReadinessCheck]

/-- The server does not stop exactly when each of its calls succeeds. -/
theorem server_passes_iff :
    Checklist.firstStop answers (serverSteps config) = none ↔
      ∀ c ∈ serverCalls config, c.Succeeds (answers c) := by
  obtain ⟨network, factoryData⟩ := config
  cases factoryData <;>
    simp [Checklist.firstStop_eq_none_iff, serverSteps, returnOnFailure, CheckStep.stops,
      serverCalls, InitCall.Succeeds, InitCall.isReadinessCheck, chipNoError]

/-! ### How `StartApp` gets past `Init` -/

/-- `StartApp` makes the calls of `Init` and no others before its loop. -/
theorem trace_startApp :
    (startApp mapErrorZephyr config).trace answers =
      (init mapErrorZephyr config).trace answers := by
  unfold startApp
  rw [Prog.trace_bind]
  split <;> simp

/-- `StartApp` enters its loop unless `Init` stops with an error. -/
theorem result_startApp :
    (startApp mapErrorZephyr config).result answers =
      match Checklist.firstStop answers (initSteps mapErrorZephyr config) with
      | some err => if err = chipNoError then .enteredLoop else .returned err
      | none => .enteredLoop := by
  unfold startApp
  rw [Prog.result_bind, init_eq_run, Checklist.result_run]
  cases Checklist.firstStop answers (initSteps mapErrorZephyr config) with
  | none => rfl
  | some err => by_cases noError : err = chipNoError <;> simp [noError]

/-- When `Init` stops with an error the requirement is kept. -/
theorem enters_of_error {err : Int} (isError : err ≠ chipNoError)
    (stopped : Checklist.firstStop answers (initSteps mapErrorZephyr config) = some err) :
    EntersOnlyInitialised mapErrorZephyr config answers := by
  have returned : (startApp mapErrorZephyr config).result answers = .returned err := by
    rw [result_startApp, stopped]
    exact if_neg isError
  refine ⟨fun entered => ?_, fun c _ r _ _ => ⟨err, isError, returned⟩⟩
  exact nomatch entered.symm.trans returned

/-- When the loop is entered the requirement needs every required call to have succeeded. -/
theorem succeeds_of_enters {c : InitCall} (required : c ∈ requiredCalls config)
    (entered : (startApp mapErrorZephyr config).result answers = .enteredLoop)
    (kept : EntersOnlyInitialised mapErrorZephyr config answers) : c.Succeeds (answers c) := by
  obtain ⟨r, made, succeeds⟩ := (kept.1 entered).1 c required
  exact Prog.answer_of_mem_trace made ▸ succeeds

/-- The calls of a complete run of `Init`. -/
def allCalls (mapErrorZephyr : Int → Int) (config : BuildConfig) : List InitCall :=
  (initSteps mapErrorZephyr config).filterMap CheckStep.call?

/-- A complete run makes every required call. -/
theorem requiredCalls_subset (network : config.network ≠ .none) :
    ∀ c ∈ requiredCalls config, c ∈ allCalls mapErrorZephyr config := by
  obtain ⟨network', factoryData⟩ := config
  cases network' with
  | none => exact absurd rfl network
  | openThread deviceType =>
      cases factoryData <;>
        simp [requiredCalls, stackCalls, readinessChecks, pinConfigurations, serverCalls, allCalls,
          initSteps, stackSteps, deviceSteps, serverSteps, returnOnFailure, requireReady,
          CheckStep.call?]
  | wiFi =>
      cases factoryData <;>
        simp [requiredCalls, stackCalls, readinessChecks, pinConfigurations, serverCalls, allCalls,
          initSteps, stackSteps, deviceSteps, serverSteps, returnOnFailure, requireReady,
          CheckStep.call?]

/-- A complete run initialises the three timers. -/
theorem timers_initialised (t : TimerId) :
    .kTimerInit t ∈ allCalls mapErrorZephyr config := by
  obtain ⟨network, factoryData⟩ := config
  cases t <;> cases factoryData <;>
    simp [allCalls, initSteps, serverSteps, returnOnFailure, CheckStep.call?]

/-- Whether a call may drive a pin. -/
def InitCall.isPinCall : InitCall → Bool
  | .gpioPinConfigureDt _ _ | .gpioPinSetDt _ _ => true
  | _ => false

/-- The stack makes no call that drives a pin. -/
theorem not_isPinCall_stack :
    ∀ c ∈ (stackSteps mapErrorZephyr config).filterMap CheckStep.call?, c.isPinCall = false := by
  obtain ⟨network, factoryData⟩ := config
  cases network <;>
    simp [stackSteps, returnOnFailure, CheckStep.call?, InitCall.isPinCall, List.filterMap_cons]

/-- The server makes no call that drives a pin. -/
theorem not_isPinCall_server :
    ∀ c ∈ (serverSteps config).filterMap CheckStep.call?, c.isPinCall = false := by
  obtain ⟨network, factoryData⟩ := config
  cases factoryData <;>
    simp [serverSteps, returnOnFailure, CheckStep.call?, InitCall.isPinCall]

section Drivers

variable {spec : GpioSpec} {c : InitCall}

/-- A call that drives no pin sets no level. -/
theorem level?_eq_none (silent : c.isPinCall = false) : c.level? spec = none := by
  cases c with
  | gpioPinConfigureDt | gpioPinSetDt => cases silent
  | _ => rfl

/-- The flags `Init` configures a pin with. -/
def configFlags (spec : GpioSpec) : GpioFlags := if spec = .ls1 then .outputActive else .outputHigh

/-- Of the calls of `Init`, only its configuration drives a pin, and for the level shifter also the call
    that enables it. -/
theorem driver_of_mem (made : c ∈ allCalls mapErrorZephyr config) (drives : c.level? spec ≠ none) :
    c = .gpioPinConfigureDt spec (configFlags spec) ∨ spec = .ls1 ∧ c = .gpioPinSetDt .ls1 1 := by
  rw [allCalls, initSteps, List.filterMap_append, List.filterMap_append, List.mem_append,
    List.mem_append] at made
  rcases made with (stack | device) | server
  · exact absurd (level?_eq_none (not_isPinCall_stack c stack)) drives
  · have ofDevice : ∀ c ∈ (deviceSteps mapErrorZephyr).filterMap CheckStep.call?,
        c.level? spec ≠ none →
          c = .gpioPinConfigureDt spec (configFlags spec) ∨ spec = .ls1 ∧ c = .gpioPinSetDt .ls1 1 := by
      cases spec <;>
        simp [deviceSteps, requireReady, CheckStep.call?, InitCall.level?, configFlags]
    exact ofDevice c device drives
  · exact absurd (level?_eq_none (not_isPinCall_server c server)) drives

/-- Every call of `Init` that drives a pin drives it high. -/
theorem level?_eq_one (made : c ∈ allCalls mapErrorZephyr config) {level : Nat}
    (drives : c.level? spec = some level) : level = 1 := by
  have some : c.level? spec ≠ none := by simp [drives]
  rcases driver_of_mem made some with rfl | ⟨rfl, rfl⟩
  · have high : (configFlags spec).physical spec.dtSpec = 1 := by cases spec <;> rfl
    simpa [InitCall.level?, high] using drives.symm
  · have high : GpioSpec.ls1.dtSpec.physical 1 = 1 := rfl
    simpa [InitCall.level?, high] using drives.symm

/-- A call made at a point of the execution of `Init` is one of its calls, with its answer. -/
theorem call_of_point {made : List (InitCall × Int)} {call : InitCall × Int}
    (point : made <+: (init mapErrorZephyr config).trace answers) (member : call ∈ made) :
    call.1 ∈ allCalls mapErrorZephyr config ∧ call.2 = answers call.1 := by
  rw [init_eq_run] at point
  obtain ⟨c, own, rfl⟩ := List.mem_map.mp
    ((point.trans Checklist.trace_run_prefix).subset member)
  exact ⟨own, rfl⟩

/-- At a point of the execution of `Init` a pin is driven high exactly when a call that drives it has
    been made and has succeeded. -/
theorem drivenLevel_eq_one_iff {made : List (InitCall × Int)}
    (point : made <+: (init mapErrorZephyr config).trace answers) :
    drivenLevel spec made = some 1 ↔ ∃ c, (c, 0) ∈ made ∧ c.level? spec ≠ none := by
  unfold drivenLevel
  constructor
  · intro high
    obtain ⟨⟨c, r⟩, member, drives⟩ := List.mem_filterMap.mp (List.mem_of_getLast? high)
    obtain ⟨rfl, level⟩ := Option.ite_none_right_eq_some.mp drives
    exact ⟨c, member, by simp [level]⟩
  · rintro ⟨c, member, drives⟩
    obtain ⟨level, found⟩ := Option.ne_none_iff_exists'.mp drives
    have driven : level ∈ made.filterMap fun call =>
        if call.2 = 0 then call.1.level? spec else none :=
      List.mem_filterMap.mpr ⟨(c, 0), member, by simpa using found⟩
    have isLast := List.getLast?_eq_some_getLast (List.ne_nil_of_mem driven)
    obtain ⟨⟨c', r⟩, member', drives'⟩ := List.mem_filterMap.mp (List.mem_of_getLast? isLast)
    obtain ⟨_, level'⟩ := Option.ite_none_right_eq_some.mp drives'
    rw [isLast, level?_eq_one (call_of_point point member').1 level']

end Drivers

/-- After a complete run with every pin configured the relays are driven high. -/
theorem relays_off (network : config.network ≠ .none)
    (passes : Checklist.firstStop answers (initSteps mapErrorZephyr config) = none)
    (configured : ∀ c ∈ pinConfigurations, c.Succeeds (answers c)) :
    ∀ relay ∈ relays, drivenLevel relay ((init mapErrorZephyr config).trace answers) = some 1 := by
  intro relay member
  have own : .gpioPinConfigureDt relay .outputHigh ∈ pinConfigurations := by
    simp only [relays, List.mem_cons, List.not_mem_nil, or_false] at member
    rcases member with rfl | rfl | rfl | rfl <;> decide
  have zero : answers (.gpioPinConfigureDt relay .outputHigh) = 0 := configured _ own
  refine (drivenLevel_eq_one_iff (List.prefix_refl _)).mpr
    ⟨.gpioPinConfigureDt relay .outputHigh, ?_, by simp [InitCall.level?]⟩
  have required : .gpioPinConfigureDt relay .outputHigh ∈ requiredCalls config := by
    simp [requiredCalls, own]
  rw [init_eq_run, Checklist.trace_run passes, List.mem_map]
  exact ⟨_, requiredCalls_subset network _ required, by rw [zero]⟩

/-- When nothing stops `Init` the requirement is kept exactly when every pin was configured. -/
theorem enters_of_passes (mapErrorZephyr : Int → Int) (runs : ¬ StackFails config answers)
    (ready : ∀ c ∈ readinessChecks, c.Succeeds (answers c))
    (serves : ∀ c ∈ serverCalls config, c.Succeeds (answers c)) :
    EntersOnlyInitialised mapErrorZephyr config answers ↔
      ∀ c ∈ pinConfigurations, c.Succeeds (answers c) := by
  have passes : Checklist.firstStop answers (initSteps mapErrorZephyr config) = none := by
    simp only [initSteps, Checklist.firstStop_append, (stack_passes_iff _).mpr runs,
      (devices_pass_iff _).mpr ready, server_passes_iff.mpr serves, Option.or_none]
  have entered : (startApp mapErrorZephyr config).result answers = .enteredLoop := by
    rw [result_startApp, passes]
  have made : (startApp mapErrorZephyr config).trace answers =
      (allCalls mapErrorZephyr config).map fun c => (c, answers c) := by
    rw [trace_startApp, init_eq_run, Checklist.trace_run passes]
    rfl
  constructor
  · intro kept c configuration
    exact succeeds_of_enters (by simp [requiredCalls, configuration]) entered kept
  · intro configured
    have succeeds : ∀ c ∈ requiredCalls config, c.Succeeds (answers c) := by
      intro c required
      simp only [requiredCalls, List.mem_append] at required
      rcases required with ((stack | device) | pin) | server
      · exact not_not.mp fun fails => runs (Or.inr ⟨c, stack, fails⟩)
      · exact ready c device
      · exact configured c pin
      · exact serves c server
    have network : config.network ≠ .none := fun isNone => runs (Or.inl isNone)
    refine ⟨fun _ => ⟨fun c required => ?_, ?_, fun t => ?_⟩, fun c required r wasMade fails => ?_⟩
    · refine ⟨answers c, ?_, succeeds c required⟩
      rw [made]
      exact List.mem_map_of_mem (requiredCalls_subset network c required)
    · rw [trace_startApp]
      exact relays_off network passes configured
    · refine ⟨answers (.kTimerInit t), ?_⟩
      rw [made]
      exact List.mem_map_of_mem (timers_initialised t)
    · rw [Prog.answer_of_mem_trace wasMade] at fails
      exact absurd (succeeds c required) fails

/-- Where `Init` stops, part by part. -/
theorem firstStop_initSteps :
    Checklist.firstStop answers (initSteps mapErrorZephyr config) =
      ((Checklist.firstStop answers (stackSteps mapErrorZephyr config)).or
        (Checklist.firstStop answers (deviceSteps mapErrorZephyr))).or
        (Checklist.firstStop answers (serverSteps config)) := by
  simp only [initSteps, Checklist.firstStop_append]

/-- A failure of the stack is returned as an error. -/
theorem enters_of_stackFails (map_error : ∀ ret ≠ 0, mapErrorZephyr ret ≠ chipNoError)
    (fails : StackFails config answers) :
    EntersOnlyInitialised mapErrorZephyr config answers := by
  obtain ⟨err, stopped⟩ := Option.ne_none_iff_exists'.mp
    fun passes => (stack_passes_iff mapErrorZephyr).mp passes fails
  obtain ⟨step, member, stopsHere⟩ := Checklist.exists_of_firstStop stopped
  apply enters_of_error (returnsError_stack map_error step member err stopsHere)
  rw [firstStop_initSteps, stopped, Option.some_or, Option.some_or]

/-- After the stack and the devices, a failure of the server is returned as an error. -/
theorem enters_of_serverFails (runs : ¬ StackFails config answers)
    (ready : ∀ c ∈ readinessChecks, c.Succeeds (answers c))
    (fails : ∃ c ∈ serverCalls config, ¬ c.Succeeds (answers c)) :
    EntersOnlyInitialised mapErrorZephyr config answers := by
  obtain ⟨c, call, failed⟩ := fails
  obtain ⟨err, stopped⟩ := Option.ne_none_iff_exists'.mp
    fun passes => failed (server_passes_iff.mp passes c call)
  obtain ⟨step, member, stopsHere⟩ := Checklist.exists_of_firstStop stopped
  apply enters_of_error (returnsError_server step member err stopsHere)
  rw [firstStop_initSteps, (stack_passes_iff _).mpr runs, (devices_pass_iff _).mpr ready, stopped,
    Option.none_or, Option.none_or]

/-- A readiness check that fails stops `Init` without an error, so the loop is entered. -/
theorem not_enters_of_notReady (map_zero : mapErrorZephyr 0 = chipNoError)
    (runs : ¬ StackFails config answers)
    (notReady : ¬ ∀ c ∈ readinessChecks, c.Succeeds (answers c)) :
    ¬ EntersOnlyInitialised mapErrorZephyr config answers := by
  obtain ⟨err, stopped⟩ := Option.ne_none_iff_exists'.mp
    fun passes => notReady ((devices_pass_iff mapErrorZephyr).mp passes)
  have noError := devices_error map_zero stopped
  have entered : (startApp mapErrorZephyr config).result answers = .enteredLoop := by
    rw [result_startApp, firstStop_initSteps, (stack_passes_iff _).mpr runs, stopped, Option.none_or,
      Option.some_or]
    exact if_pos noError
  intro kept
  apply notReady
  intro c check
  exact succeeds_of_enters (by simp [requiredCalls, check]) entered kept

end Stops

/-- The loop is entered only on a fully initialised device exactly when a call of the stack fails, or
    every readiness check succeeds and either a call of the server fails or every pin is configured.
    The other cases reach the loop: a readiness check that fails makes `Init` return no error, and the
    answers of the pin configurations are not looked at. -/
theorem enters_only_initialised_iff (mapErrorZephyr : Int → Int)
    (map_zero : mapErrorZephyr 0 = chipNoError)
    (map_error : ∀ ret ≠ 0, mapErrorZephyr ret ≠ chipNoError) (config : BuildConfig)
    (answers : InitCall → Int) :
    EntersOnlyInitialised mapErrorZephyr config answers ↔ InitialisedWhen config answers := by
  unfold InitialisedWhen
  by_cases fails : StackFails config answers
  · exact iff_of_true (enters_of_stackFails map_error fails) (Or.inl fails)
  by_cases ready : ∀ c ∈ readinessChecks, c.Succeeds (answers c)
  · by_cases serverFails : ∃ c ∈ serverCalls config, ¬ c.Succeeds (answers c)
    · exact iff_of_true (enters_of_serverFails fails ready serverFails)
        (Or.inr ⟨ready, Or.inl serverFails⟩)
    · have serves : ∀ c ∈ serverCalls config, c.Succeeds (answers c) :=
        fun c call => not_not.mp fun failed => serverFails ⟨c, call, failed⟩
      have configured := enters_of_passes mapErrorZephyr fails ready serves
      exact ⟨fun kept => Or.inr ⟨ready, Or.inr (configured.mp kept)⟩,
        fun holds => configured.mpr ((holds.resolve_left fails).2.resolve_left serverFails)⟩
  · apply iff_of_false (not_enters_of_notReady map_zero fails ready)
    intro holds
    exact ready (holds.resolve_left fails).1

/-- A `MapErrorZephyr`: zero is no error, and any other code is an error of the OS range. -/
def osError (ret : Int) : Int := if ret = 0 then chipNoError else 0x1000000 + ret.natAbs

theorem osError_ne_chipNoError {ret : Int} (nonzero : ret ≠ 0) : osError ret ≠ chipNoError := by
  unfold osError chipNoError
  rw [if_neg nonzero]
  omega

/-- Every call of `Init` succeeds. -/
def allSucceed (c : InitCall) : Int := if c.isReadinessCheck then 1 else 0

/-- `enters_only_initialised_iff` on a Wi-Fi build on which every call succeeds. -/
theorem enters_only_initialised_allSucceed :
    EntersOnlyInitialised osError ⟨.wiFi, true⟩ allSucceed :=
  (enters_only_initialised_iff osError rfl (fun _ => osError_ne_chipNoError) ⟨.wiFi, true⟩
    allSucceed).mpr (Or.inr ⟨by decide, Or.inr (by decide)⟩)

/-- Every call succeeds except that the DHT22 is not ready. -/
def dht22NotReady (c : InitCall) : Int := if c = .deviceIsReady .dht22 then 0 else allSucceed c

/-- The loop can be entered on a device that is not initialised: when the DHT22 is not ready `Init`
    returns no error, before the relays are configured and the server is started. -/
theorem enters_only_initialised_fails :
    ¬ ∀ (mapErrorZephyr : Int → Int), mapErrorZephyr 0 = chipNoError →
      (∀ ret ≠ 0, mapErrorZephyr ret ≠ chipNoError) →
      ∀ (config : BuildConfig) (answers : InitCall → Int),
        EntersOnlyInitialised mapErrorZephyr config answers := by
  intro every
  have kept := every osError rfl (fun _ => osError_ne_chipNoError) ⟨.wiFi, true⟩ dht22NotReady
  obtain ⟨r, made, _⟩ := (kept.1 (by decide)).1 .serverInit (by decide)
  have called : .serverInit ∈
      ((startApp osError ⟨.wiFi, true⟩).trace dht22NotReady).map Prod.fst :=
    List.mem_map_of_mem made
  exact absurd called (by decide)

end DeviceWifi
