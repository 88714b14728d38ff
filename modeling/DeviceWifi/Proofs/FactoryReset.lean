/-
Module: DeviceWifi.Proofs.FactoryReset
Layer: Proofs
Purpose: Which handled events schedule a factory reset. `mFunction` is a latch: a button push sets it, a
  button release clears it and a timer event triggers it, and the trigger that finds it set is the one
  whose handler calls `ScheduleFactoryReset`. The law of the latch is then the trace law of the resets.
Imports: DeviceWifi.Lib.Latch, DeviceWifi.Spec.Handled, DeviceWifi.Proofs.Handlers
Trusted boundary: none (fully proved)
Main exports: ResetAt, resetAt_iff_firesAt, factory_reset_trace
Open obligations: none
-/
import DeviceWifi.Lib.Latch
import DeviceWifi.Spec.Handled
import DeviceWifi.Proofs.Handlers

namespace DeviceWifi

open Reactive

/-! ### `mFunction` as a latch -/

/-- The event posted for an input of the function button. -/
def FunctionInput.event : FunctionInput → AppEvent
  | .push => buttonEvent true
  | .release => buttonEvent false
  | .timer => timerEvent

/-- The latch input of an input of the function button. -/
def FunctionInput.latch : FunctionInput → LatchInput
  | .push => .set
  | .release => .clear
  | .timer => .trigger

@[simp] theorem functionInput?_event (input : FunctionInput) :
    input.event.functionInput? = some input := by
  cases input <;> rfl

/-- An input moves `mFunction` as it moves the latch. -/
theorem next_eq_latch (input : FunctionInput) (isArmed : Bool) :
    decide (input.next = .factoryReset) = Latch.next isArmed input.latch := by
  cases input <;> rfl

/-- The n-th handled event calls `ScheduleFactoryReset`. -/
def ResetAt (handled : List Handled) (n : Nat) : Prop := .scheduleFactoryReset ∈ callsAt handled n

instance (handled : List Handled) (n : Nat) : Decidable (ResetAt handled n) :=
  inferInstanceAs (Decidable (_ ∈ _))

section Handle

variable (h : Handled) (vars : AppVars)

/-- Handling an event leaves in `mFunction` what its specification says. -/
theorem mFunction_varsAfter :
    (h.varsAfter vars).mFunction = functionAfter vars.mFunction h.event :=
  (dispatchEvent_performs vars h.event).result h.answers

/-- Handling an event makes the output calls its specification says. -/
theorem filterMap_calls :
    (h.calls vars).filterMap outputCall? = handlerOutputs h.event vars.mFunction := by
  rw [← (dispatchEvent_performs vars h.event).filterMap_trace h.answers, Handled.calls,
    List.filterMap_map]
  rfl

/-- A reset is called exactly when it is among the specified output calls. -/
theorem reset_mem_calls :
    .scheduleFactoryReset ∈ h.calls vars ↔
      .scheduleFactoryReset ∈ handlerOutputs h.event vars.mFunction := by
  rw [← filterMap_calls, List.mem_filterMap]
  refine ⟨fun made => ⟨_, made, rfl⟩, ?_⟩
  rintro ⟨c, made, visible⟩
  exact eq_of_outputCall? visible ▸ made

end Handle

/-- A sequence of handled inputs of the function button. -/
def handledInputs (inputs : List (FunctionInput × (Call → Response))) : List Handled :=
  inputs.map fun input => ⟨input.1.event, input.2⟩

section Inputs

variable (inputs : List (FunctionInput × (Call → Response)))

/-- The latch inputs of a sequence. -/
def latchInputs : List LatchInput := inputs.map fun input => input.1.latch

@[simp] theorem getElem?_handledInputs (n : Nat) :
    (handledInputs inputs)[n]? = inputs[n]?.map fun input => ⟨input.1.event, input.2⟩ := by
  simp [handledInputs]

@[simp] theorem getElem?_latchInputs (n : Nat) :
    (latchInputs inputs)[n]? = inputs[n]?.map fun input => input.1.latch := by
  simp [latchInputs]

/-- After each input `mFunction` is `FactoryReset` exactly when the latch is armed. -/
theorem mFunction_eq_armed (n : Nat) :
    decide ((varsAfter ((handledInputs inputs).take n)).mFunction = .factoryReset) =
      Latch.armed ((latchInputs inputs).take n) := by
  induction n with
  | zero => rfl
  | succ n ih =>
      rw [varsAfter_take_succ, Latch.armed_take_succ]
      cases input : inputs[n]? with
      | none => simpa [input] using ih
      | some i =>
          simp only [getElem?_handledInputs, getElem?_latchInputs, input, Option.map_some,
            mFunction_varsAfter, functionAfter, functionInput?_event]
          exact next_eq_latch i.1 _

/-- Resets are the firings of the latch. -/
theorem resetAt_iff_firesAt (n : Nat) :
    ResetAt (handledInputs inputs) n ↔ Latch.FiresAt (latchInputs inputs) n := by
  unfold ResetAt callsAt Latch.FiresAt
  rw [← mFunction_eq_armed, decide_eq_true_eq]
  cases input : inputs[n]? with
  | none => simp [input]
  | some i =>
      simp only [getElem?_handledInputs, getElem?_latchInputs, input, Option.map_some,
        reset_mem_calls, handlerOutputs, functionInput?_event, Option.some.injEq]
      cases i.1 <;>
        cases (varsAfter ((handledInputs inputs).take n)).mFunction <;>
          simp [FunctionInput.outputs, FunctionInput.latch]

end Inputs

/-! ### The trace law -/

/-- The n-th input of a sequence. -/
def inputAt (inputs : List (FunctionInput × (Call → Response))) (n : Nat) : Option FunctionInput :=
  inputs[n]?.map Prod.fst

section TraceLaw

variable {inputs : List (FunctionInput × (Call → Response))}

/-- Reading the latch inputs back as inputs of the function button. -/
theorem latchInputs_eq_iff (inputs : List (FunctionInput × (Call → Response))) (n : Nat)
    (input : FunctionInput) :
    (latchInputs inputs)[n]? = some input.latch ↔ inputAt inputs n = some input := by
  unfold inputAt
  rw [getElem?_latchInputs]
  cases inputs[n]? with
  | none => simp
  | some i => cases h : i.1 <;> cases input <;> simp [FunctionInput.latch, h]

/-- Between `m` and `n` no button event is handled. -/
def NoButtonBetween (inputs : List (FunctionInput × (Call → Response))) (m n : Nat) : Prop :=
  ∀ k, m < k → k < n → inputAt inputs k ≠ some .push ∧ inputAt inputs k ≠ some .release

theorem untouched_iff {m n : Nat} :
    Latch.Untouched (latchInputs inputs) m n ↔ NoButtonBetween inputs m n := by
  have push := fun k => latchInputs_eq_iff inputs k .push
  have release := fun k => latchInputs_eq_iff inputs k .release
  simp only [FunctionInput.latch] at push release
  simp only [Latch.Untouched, NoButtonBetween, ne_eq, push, release]

end TraceLaw

/-- The trace law of the factory reset, over handled button and timer events in any order.
    `ScheduleFactoryReset` is called at exactly the timer events for which the last handled button
    event is a push with no reset since. So none is called between a release and the next push, a push
    leads to at most one, and a push whose timer event is handled before any other button event leads
    to exactly one. -/
theorem factory_reset_trace (inputs : List (FunctionInput × (Call → Response))) :
    (∀ n, ResetAt (handledInputs inputs) n ↔
      inputAt inputs n = some .timer ∧ ∃ m < n, inputAt inputs m = some .push ∧
        NoButtonBetween inputs m n ∧ ∀ k, m < k → k < n → ¬ ResetAt (handledInputs inputs) k) ∧
    (∀ m n, inputAt inputs m = some .release → m < n →
      (∀ k, m < k → k < n → inputAt inputs k ≠ some .push) →
        ¬ ResetAt (handledInputs inputs) n) ∧
    (∀ m n n', inputAt inputs m = some .push → m < n → m < n' →
      (∀ k, m < k → (k < n ∨ k < n') → inputAt inputs k ≠ some .push) →
        ResetAt (handledInputs inputs) n → ResetAt (handledInputs inputs) n' → n = n') ∧
    ∀ m n, inputAt inputs m = some .push → m < n → inputAt inputs n = some .timer →
      NoButtonBetween inputs m n →
        ∃ k, m < k ∧ k ≤ n ∧ ResetAt (handledInputs inputs) k ∧
          ∀ k', m < k' → (∀ j, m < j → j < k' → inputAt inputs j ≠ some .push) →
            ResetAt (handledInputs inputs) k' → k' = k := by
  have push := fun k => latchInputs_eq_iff inputs k .push
  have release := fun k => latchInputs_eq_iff inputs k .release
  have timer := fun k => latchInputs_eq_iff inputs k .timer
  simp only [FunctionInput.latch] at push release timer
  simp only [resetAt_iff_firesAt, ← untouched_iff, ne_eq, ← push, ← release, ← timer]
  refine ⟨fun n => Latch.firesAt_iff, ?_, ?_, ?_⟩
  · intro m n cleared after noSet
    exact Latch.not_firesAt_of_clear cleared after noSet
  · intro m n n' _ after after' noSet fires fires'
    exact Latch.firesAt_unique fires fires' after after' noSet
  · intro m n isSet after triggers untouched
    obtain ⟨k, late, below, fires⟩ := Latch.exists_firesAt isSet after triggers untouched
    refine ⟨k, late, below, fires, fun k' late' noSet fires' => ?_⟩
    apply Latch.firesAt_unique fires' fires late' late
    intro j after before
    rcases before with before | before
    · exact noSet j after before
    · exact (untouched j after (by omega)).1

/-- A push, its own timer event, and a stale one. -/
def pushThenTwoTimers : List (FunctionInput × (Call → Response)) :=
  [(.push, fun _ => default), (.timer, fun _ => default), (.timer, fun _ => default)]

/-- `factory_reset_trace` on a push followed by two timer events: the first resets, the second does
    not. -/
theorem factory_reset_trace_push :
    ResetAt (handledInputs pushThenTwoTimers) 1 ∧ ¬ ResetAt (handledInputs pushThenTwoTimers) 2 := by
  obtain ⟨law, _, once, exactly⟩ := factory_reset_trace pushThenTwoTimers
  have first : ResetAt (handledInputs pushThenTwoTimers) 1 := by
    obtain ⟨k, late, early, fires, _⟩ := exactly 0 1 rfl (by decide) rfl fun k _ _ => by omega
    have same : k = 1 := by omega
    exact same ▸ fires
  refine ⟨first, fun second => ?_⟩
  have noPush : ∀ k, 0 < k → (k < 1 ∨ k < 2) → inputAt pushThenTwoTimers k ≠ some .push := by
    intro k late early
    have same : k = 1 := by omega
    exact same ▸ by decide
  exact absurd (once 0 1 2 rfl (by decide) (by decide) noPush first second) (by decide)

end DeviceWifi
