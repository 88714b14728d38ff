/-
Module: DeviceWifi.Lib.Checklist
Layer: Lib
Purpose: Straight-line programs of calls with early returns. A step makes a call and ignores its answer,
  or makes a call and returns an error when the answer is bad, or returns at once. The program returns
  what the first stopping step returns, and when none stops it has made every call. At any point the
  calls made are the first ones of the list: a call is made only after every call before it.
Imports: DeviceWifi.Lib.Program
Trusted boundary: none (fully proved)
Main exports: CheckStep, Checklist.run, Checklist.firstStop, Checklist.result_run, Checklist.trace_run,
  Checklist.trace_run_append, Checklist.trace_run_prefix, Checklist.calls_prefix_of_mem
Open obligations: none
-/
import DeviceWifi.Lib.Program

namespace Reactive

variable {C R E : Type}

/-- A step of a straight-line program. -/
inductive CheckStep (C R E : Type) where
  | call (c : C)
  | check (c : C) (fails : R → Bool) (error : R → E)
  | exit (error : E)

/-- What a step returns, if it ends the program. -/
def CheckStep.stops (o : C → R) : CheckStep C R E → Option E
  | .call _ => none
  | .check c fails error => if fails (o c) then some (error (o c)) else none
  | .exit error => some error

/-- The call a step makes. -/
def CheckStep.call? : CheckStep C R E → Option C
  | .call c => some c
  | .check c _ _ => some c
  | .exit _ => none

namespace Checklist

/-- The program of a list of steps; `done` is returned at its end. -/
def run (done : E) : List (CheckStep C R E) → Prog C R E
  | [] => .pure done
  | .call c :: rest => .call c fun _ => run done rest
  | .check c fails error :: rest =>
      .call c fun r => if fails r then .pure (error r) else run done rest
  | .exit error :: _ => .pure error

/-- What the first stopping step returns. -/
def firstStop (o : C → R) (steps : List (CheckStep C R E)) : Option E :=
  steps.findSome? (CheckStep.stops o)

variable {o : C → R} {done : E} {steps : List (CheckStep C R E)}

@[simp] theorem firstStop_append (first second : List (CheckStep C R E)) :
    firstStop o (first ++ second) = (firstStop o first).or (firstStop o second) :=
  List.findSome?_append

@[simp] theorem firstStop_cons (step : CheckStep C R E) (rest : List (CheckStep C R E)) :
    firstStop o (step :: rest) = (step.stops o).or (firstStop o rest) := by
  unfold firstStop
  rw [List.findSome?_cons]
  cases step.stops o <;> rfl

/-- The program returns what the first stopping step returns. -/
theorem result_run : (run done steps).result o = (firstStop o steps).getD done := by
  induction steps with
  | nil => rfl
  | cons step rest ih =>
      rw [firstStop_cons]
      cases step with
      | call c => exact ih
      | check c fails error =>
          by_cases bad : fails (o c)
          · simp [run, CheckStep.stops, bad]
          · simpa [run, CheckStep.stops, bad] using ih
      | exit error => rfl

/-- When no step stops the program it makes every call. -/
theorem trace_run (passes : firstStop o steps = none) :
    (run done steps).trace o =
      (steps.filterMap CheckStep.call?).map fun c => (c, o c) := by
  induction steps with
  | nil => rfl
  | cons step rest ih =>
      obtain ⟨here, later⟩ : step.stops o = none ∧ firstStop o rest = none := by
        simpa [Option.or_eq_none_iff] using passes
      cases step with
      | call c => simp [run, CheckStep.call?, ih later]
      | check c fails error =>
          have good : fails (o c) = false := by simpa [CheckStep.stops] using here
          simp [run, CheckStep.call?, good, ih later]
      | exit error => exact nomatch here

/-- The calls made are the first of all calls. -/
theorem trace_run_prefix :
    (run done steps).trace o <+: (steps.filterMap CheckStep.call?).map fun c => (c, o c) := by
  induction steps with
  | nil => exact List.nil_prefix
  | cons step rest ih =>
      cases step with
      | call c => exact List.cons_prefix_cons.mpr ⟨rfl, ih⟩
      | check c fails error =>
          refine List.cons_prefix_cons.mpr ⟨rfl, ?_⟩
          by_cases bad : fails (o c)
          · simp [bad]
          · simpa [bad] using ih
      | exit error => exact List.nil_prefix

/-- The second part of a list of steps is run when no step of the first part stops. -/
theorem trace_run_append (first second : List (CheckStep C R E)) :
    (run done (first ++ second)).trace o =
      (run done first).trace o ++
        if (firstStop o first).isNone then (run done second).trace o else [] := by
  induction first with
  | nil => rfl
  | cons step rest ih =>
      rw [firstStop_cons, List.cons_append]
      cases step with
      | call c => simpa [run, CheckStep.stops] using ih
      | check c fails error =>
          by_cases bad : fails (o c)
          · simp [run, CheckStep.stops, bad]
          · simpa [run, CheckStep.stops, bad] using ih
      | exit error => simp [run, CheckStep.stops]

/-- At a point where a call of the second part has been made, no step of the first part has stopped and
    every call of it has been made. -/
theorem calls_prefix_of_mem {first second : List (CheckStep C R E)} {made : List (C × R)} {c : C}
    {r : R} (point : made <+: (run done (first ++ second)).trace o) (called : (c, r) ∈ made)
    (later : c ∉ first.filterMap CheckStep.call?) :
    firstStop o first = none ∧
      (first.filterMap CheckStep.call?).map (fun c => (c, o c)) <+: made := by
  have notFirst : ¬ made <+: (run done first).trace o := by
    intro before
    have member := (before.trans trace_run_prefix).subset called
    obtain ⟨c', own, same⟩ := List.mem_map.mp member
    exact later ((Prod.mk.inj same).1 ▸ own)
  rw [trace_run_append] at point
  have passes : firstStop o first = none := by
    cases stopped : firstStop o first with
    | none => rfl
    | some error =>
        rw [stopped, Option.isNone_some, if_neg Bool.false_ne_true, List.append_nil] at point
        exact absurd point notFirst
  rw [trace_run passes] at point notFirst
  refine ⟨passes, ?_⟩
  rcases List.prefix_or_prefix_of_prefix point (List.prefix_append _ _) with before | after
  · exact absurd before notFirst
  · exact after

/-- No step stops exactly when every check passes and there is no exit. -/
theorem firstStop_eq_none_iff :
    firstStop o steps = none ↔ ∀ step ∈ steps, step.stops o = none :=
  List.findSome?_eq_none_iff

/-- The first stopping step is one of the steps. -/
theorem exists_of_firstStop {error : E} (stopped : firstStop o steps = some error) :
    ∃ step ∈ steps, step.stops o = some error :=
  List.exists_of_findSome?_eq_some stopped

end Checklist

end Reactive
