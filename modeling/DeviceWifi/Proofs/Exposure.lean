/-
Module: DeviceWifi.Proofs.Exposure
Layer: Proofs
Purpose: When a relay is exposed. The configuration of the level shifter already enables it, before any
  relay is configured; the later call that is meant to enable it is reached after all of them. The calls
  made at any point are the first ones of `Init`'s checklist, so a point at which one of the two calls
  has been made decides which calls come before it.
Imports: DeviceWifi.Proofs.Init
Trusted boundary: none (fully proved)
Main exports: unexposed_of_when, relays_unexposed_iff, relays_unexposed_fails
Open obligations: none
-/
import DeviceWifi.Proofs.Init

namespace DeviceWifi

open Reactive

/-! ### The two calls that enable the level shifter -/

section Points

variable (mapErrorZephyr : Int → Int) (config : BuildConfig)

/-- The steps between the configuration of the level shifter and the call that enables it. -/
def relaySteps : List InitStep :=
  [requireReady mapErrorZephyr (.deviceIsReady .servo),
   requireReady mapErrorZephyr (.deviceIsReady .dht11),
   requireReady mapErrorZephyr (.deviceIsReady .dht22),
   requireReady mapErrorZephyr (.deviceIsReady .ds18b20),
   requireReady mapErrorZephyr (.gpioIsReadyDt .rel1),
   .call (.gpioPinConfigureDt .rel1 .outputHigh),
   requireReady mapErrorZephyr (.gpioIsReadyDt .rel2),
   .call (.gpioPinConfigureDt .rel2 .outputHigh),
   requireReady mapErrorZephyr (.gpioIsReadyDt .rel3),
   .call (.gpioPinConfigureDt .rel3 .outputHigh),
   requireReady mapErrorZephyr (.gpioIsReadyDt .rel4),
   .call (.gpioPinConfigureDt .rel4 .outputHigh)]

/-- The steps before the configuration of the level shifter. -/
def stepsBeforeConfigure : List InitStep :=
  stackSteps mapErrorZephyr config ++ [requireReady mapErrorZephyr (.gpioIsReadyDt .ls1)]

/-- The steps before the call that enables the level shifter. -/
def stepsBeforeEnable : List InitStep :=
  stepsBeforeConfigure mapErrorZephyr config ++
    .call (.gpioPinConfigureDt .ls1 .outputActive) :: relaySteps mapErrorZephyr

theorem initSteps_eq_enable :
    initSteps mapErrorZephyr config =
      stepsBeforeEnable mapErrorZephyr config ++
        .call (.gpioPinSetDt .ls1 1) :: serverSteps config := by
  simp [initSteps, stepsBeforeEnable, stepsBeforeConfigure, deviceSteps, relaySteps]

theorem initSteps_eq_configure :
    initSteps mapErrorZephyr config =
      stepsBeforeConfigure mapErrorZephyr config ++
        (.call (.gpioPinConfigureDt .ls1 .outputActive) :: relaySteps mapErrorZephyr ++
          .call (.gpioPinSetDt .ls1 1) :: serverSteps config) := by
  simp [initSteps_eq_enable, stepsBeforeEnable]

variable {mapErrorZephyr : Int → Int} {config : BuildConfig} {answers : InitCall → Int}

/-- `Init` reaches the configuration of the level shifter when the stack is up and the level shifter is
    ready. -/
theorem beforeConfigure_passes_iff :
    Checklist.firstStop answers (stepsBeforeConfigure mapErrorZephyr config) = none ↔
      ¬ StackFails config answers ∧ answers (.gpioIsReadyDt .ls1) ≠ 0 := by
  rw [stepsBeforeConfigure, Checklist.firstStop_append, Option.or_eq_none_iff, stack_passes_iff]
  simp [Checklist.firstStop_eq_none_iff, requireReady, CheckStep.stops]

/-- `Init` reaches the call that enables the level shifter when the stack is up and every readiness
    check succeeds. -/
theorem beforeEnable_passes_iff :
    Checklist.firstStop answers (stepsBeforeEnable mapErrorZephyr config) = none ↔
      ¬ StackFails config answers ∧ ∀ c ∈ readinessChecks, answers c ≠ 0 := by
  rw [stepsBeforeEnable, Checklist.firstStop_append, Option.or_eq_none_iff,
    beforeConfigure_passes_iff, and_assoc]
  simp [Checklist.firstStop_eq_none_iff, relaySteps, requireReady, CheckStep.stops, readinessChecks]

/-- A point at which the level shifter has been configured is past its readiness check. -/
theorem reached_configure {made : List (InitCall × Int)} {r : Int}
    (point : made <+: (init mapErrorZephyr config).trace answers)
    (called : (.gpioPinConfigureDt .ls1 .outputActive, r) ∈ made) :
    ¬ StackFails config answers ∧ answers (.gpioIsReadyDt .ls1) ≠ 0 := by
  rw [init_eq_run, initSteps_eq_configure] at point
  have later : .gpioPinConfigureDt .ls1 .outputActive ∉
      (stepsBeforeConfigure mapErrorZephyr config).filterMap CheckStep.call? := by
    rw [stepsBeforeConfigure, List.filterMap_append, List.mem_append]
    rintro (stack | check)
    · exact absurd (not_isPinCall_stack _ stack) (by decide)
    · simp [requireReady, CheckStep.call?] at check
  exact beforeConfigure_passes_iff.mp (Checklist.calls_prefix_of_mem point called later).1

/-- A point at which the level shifter has been enabled is past every readiness check, and past the
    configuration of every relay. -/
theorem reached_enable {made : List (InitCall × Int)} {r : Int}
    (point : made <+: (init mapErrorZephyr config).trace answers)
    (called : (.gpioPinSetDt .ls1 1, r) ∈ made) :
    (¬ StackFails config answers ∧ ∀ c ∈ readinessChecks, answers c ≠ 0) ∧
      ∀ relay ∈ relays, (.gpioPinConfigureDt relay .outputHigh,
        answers (.gpioPinConfigureDt relay .outputHigh)) ∈ made := by
  rw [init_eq_run, initSteps_eq_enable] at point
  have later : .gpioPinSetDt .ls1 1 ∉
      (stepsBeforeEnable mapErrorZephyr config).filterMap CheckStep.call? := by
    rw [stepsBeforeEnable, stepsBeforeConfigure, List.filterMap_append, List.filterMap_append,
      List.mem_append, List.mem_append]
    rintro ((stack | check) | relay)
    · exact absurd (not_isPinCall_stack _ stack) (by decide)
    · simp [requireReady, CheckStep.call?] at check
    · simp [relaySteps, requireReady, CheckStep.call?] at relay
  obtain ⟨passes, before⟩ := Checklist.calls_prefix_of_mem point called later
  refine ⟨beforeEnable_passes_iff.mp passes, fun relay member => before.subset ?_⟩
  have step : .gpioPinConfigureDt relay .outputHigh ∈
      (relaySteps mapErrorZephyr).filterMap CheckStep.call? := by
    simp only [relays, List.mem_cons, List.not_mem_nil, or_false] at member
    rcases member with rfl | rfl | rfl | rfl <;> simp [relaySteps, requireReady, CheckStep.call?]
  apply List.mem_map_of_mem (f := fun c => (c, answers c))
  rw [stepsBeforeEnable, List.filterMap_append, List.mem_append]
  exact Or.inr (List.mem_cons_of_mem _ step)

/-- Under the condition no point exposes a relay. -/
theorem unexposed_of_when (holds : UnexposedWhen config answers) {made : List (InitCall × Int)}
    (point : made <+: (init mapErrorZephyr config).trace answers) : Unexposed made := by
  intro active relay member
  obtain ⟨c, called, drives⟩ := (drivenLevel_eq_one_iff point).mp active
  obtain ⟨known, answered⟩ := call_of_point point called
  rcases driver_of_mem known drives with rfl | ⟨_, rfl⟩
  · obtain ⟨runs, ready⟩ := reached_configure point called
    rcases holds with fails | notReady | ⟨failed, _⟩
    · exact absurd fails runs
    · exact absurd notReady ready
    · exact absurd answered.symm failed
  · obtain ⟨⟨runs, ready⟩, configurations⟩ := reached_enable point called
    rcases holds with fails | notReady | ⟨_, ⟨check, own, notReady⟩ | failed | configured⟩
    · exact absurd fails runs
    · exact absurd notReady (ready _ (List.mem_cons_self ..))
    · exact absurd notReady (ready check own)
    · exact absurd answered.symm failed
    · have high := configurations relay member
      rw [configured relay member] at high
      exact (drivenLevel_eq_one_iff point).mpr ⟨_, high, by simp [InitCall.level?]⟩

/-- Where no point exposes a relay, the configuration of the level shifter fails if it is reached: right
    after it no relay has been configured. -/
theorem configure_fails_of_unexposed
    (unexposed : ∀ made, made <+: (init mapErrorZephyr config).trace answers → Unexposed made)
    (runs : ¬ StackFails config answers) (ready : answers (.gpioIsReadyDt .ls1) ≠ 0) :
    answers (.gpioPinConfigureDt .ls1 .outputActive) ≠ 0 := by
  intro configured
  have passes : Checklist.firstStop answers (stepsBeforeConfigure mapErrorZephyr config) = none :=
    beforeConfigure_passes_iff.mpr ⟨runs, ready⟩
  have point : ((stepsBeforeConfigure mapErrorZephyr config).filterMap CheckStep.call?).map
      (fun c => (c, answers c)) ++ [(.gpioPinConfigureDt .ls1 .outputActive, 0)] <+:
        (init mapErrorZephyr config).trace answers := by
    rw [init_eq_run, initSteps_eq_configure, Checklist.trace_run_append, passes,
      Checklist.trace_run passes, List.prefix_append_right_inj]
    simp [Checklist.run, configured]
  have active : drivenLevel .ls1 _ = some 1 := (drivenLevel_eq_one_iff point).mpr
    ⟨_, List.mem_append_right _ (List.mem_singleton_self _), by simp [InitCall.level?]⟩
  have high := unexposed _ point active .rel1 (by decide)
  obtain ⟨c, called, drives⟩ := (drivenLevel_eq_one_iff point).mp high
  rw [List.mem_append, List.mem_singleton] at called
  rcases called with before | configure
  · obtain ⟨c', own, same⟩ := List.mem_map.mp before
    obtain ⟨rfl, _⟩ := Prod.mk.inj same
    rw [stepsBeforeConfigure, List.filterMap_append, List.mem_append] at own
    rcases own with stack | check
    · exact drives (level?_eq_none (not_isPinCall_stack _ stack))
    · obtain rfl : c' = .gpioIsReadyDt .ls1 := by simpa [requireReady, CheckStep.call?] using check
      exact drives rfl
  · obtain ⟨rfl, _⟩ := Prod.mk.inj configure
    exact drives rfl

/-- Where no point exposes a relay, every relay is configured once the level shifter is enabled. -/
theorem relays_configured_of_unexposed
    (unexposed : ∀ made, made <+: (init mapErrorZephyr config).trace answers → Unexposed made)
    (runs : ¬ StackFails config answers) (ready : ∀ c ∈ readinessChecks, answers c ≠ 0)
    (enabled : answers (.gpioPinSetDt .ls1 1) = 0) :
    ∀ relay ∈ relays, answers (.gpioPinConfigureDt relay .outputHigh) = 0 := by
  intro relay member
  have passes : Checklist.firstStop answers (stepsBeforeEnable mapErrorZephyr config) = none :=
    beforeEnable_passes_iff.mpr ⟨runs, ready⟩
  have called : (.gpioPinSetDt .ls1 1, 0) ∈ (init mapErrorZephyr config).trace answers := by
    rw [init_eq_run, initSteps_eq_enable, Checklist.trace_run_append, passes]
    apply List.mem_append_right
    simp [Checklist.run, enabled]
  have point := List.prefix_refl ((init mapErrorZephyr config).trace answers)
  have active : drivenLevel .ls1 _ = some 1 := (drivenLevel_eq_one_iff point).mpr
    ⟨_, called, by simp [InitCall.level?]⟩
  obtain ⟨c, made, drives⟩ := (drivenLevel_eq_one_iff point).mp (unexposed _ point active relay member)
  obtain ⟨known, answered⟩ := call_of_point point made
  have notShifter : relay ≠ .ls1 := by
    rintro rfl
    exact absurd member (by decide)
  rcases driver_of_mem known drives with rfl | ⟨shifter, _⟩
  · rw [configFlags, if_neg notShifter] at answered
    exact answered.symm
  · exact absurd shifter notShifter

end Points

/-- Relays are never exposed before they are driven off, at any point of any execution of `Init`, exactly
    when the level shifter is not reached, or its configuration fails and the call that enables it is
    not reached, fails too or finds every relay configured. -/
theorem relays_unexposed_iff (mapErrorZephyr : Int → Int) (config : BuildConfig)
    (answers : InitCall → Int) :
    (∀ n, Unexposed (((init mapErrorZephyr config).trace answers).take n)) ↔
      UnexposedWhen config answers := by
  constructor
  · intro throughout
    have unexposed : ∀ made, made <+: (init mapErrorZephyr config).trace answers →
        Unexposed made := by
      intro made point
      rw [List.prefix_iff_eq_take.mp point]
      exact throughout _
    by_cases runs : StackFails config answers
    · exact Or.inl runs
    by_cases ready : answers (.gpioIsReadyDt .ls1) = 0
    · exact Or.inr (Or.inl ready)
    refine Or.inr (Or.inr ⟨configure_fails_of_unexposed unexposed runs ready, ?_⟩)
    by_cases allReady : ∃ c ∈ readinessChecks, answers c = 0
    · exact Or.inl allReady
    by_cases enabled : answers (.gpioPinSetDt .ls1 1) = 0
    · have checks : ∀ c ∈ readinessChecks, answers c ≠ 0 := fun c own notReady =>
        allReady ⟨c, own, notReady⟩
      exact Or.inr (Or.inr (relays_configured_of_unexposed unexposed runs checks enabled))
    · exact Or.inr (Or.inl enabled)
  · intro holds n
    exact unexposed_of_when holds (List.take_prefix n _)

/-- The relays are exposed in an execution in which every call succeeds: right after the configuration
    of the level shifter no relay has been configured. -/
theorem relays_unexposed_fails :
    ¬ ∀ (mapErrorZephyr : Int → Int) (config : BuildConfig) (answers : InitCall → Int) (n : Nat),
      Unexposed (((init mapErrorZephyr config).trace answers).take n) := by
  intro every
  exact absurd (every osError ⟨.wiFi, true⟩ allSucceed 10) (by decide)

end DeviceWifi
