/-
Module: DeviceWifi.Lib.Transition
Layer: Lib
Purpose: Partial step functions read as transition systems. `Reaches step ok start s` says that `s` is
  reached from `start` by steps that are all allowed by `ok`; with `ok` trivial this is plain
  reachability. The induction over a run is packaged once as `Reaches.invariant`. An executable run
  over an explicit action list (`runAll`) and the check that every step of it is allowed (`Along`)
  produce concrete reachable states.
Imports: Mathlib.Logic.Basic
Trusted boundary: none (fully proved)
Main exports: Reaches, Reaches.invariant, Reaches.weaken, runAll, Along, Reaches.of_runAll,
  after, Reaches.after
Open obligations: none
-/
import Mathlib.Logic.Basic

namespace Reactive

variable {σ α : Type}

/-- The states reached from `start` by steps that each satisfy `ok` in the state they are taken from. -/
inductive Reaches (step : σ → α → Option σ) (ok : σ → α → Prop) (start : σ) : σ → Prop where
  | refl : Reaches step ok start start
  | tail {s s' : σ} {a : α} (run : Reaches step ok start s) (allowed : ok s a)
      (taken : step s a = some s') : Reaches step ok start s'

/-- Invariant rule: what holds at the start and is kept by every allowed step holds in every
    reached state. -/
theorem Reaches.invariant {step : σ → α → Option σ} {ok : σ → α → Prop} {start s : σ}
    (reached : Reaches step ok start s) {I : σ → Prop} (base : I start)
    (keeps : ∀ {s s' : σ} {a : α}, I s → ok s a → step s a = some s' → I s') : I s := by
  induction reached with
  | refl => exact base
  | tail _ allowed taken ih => exact keeps ih allowed taken

/-- Invariant rule that may use a second property already known of every reached state. -/
theorem Reaches.invariant_with {step : σ → α → Option σ} {ok : σ → α → Prop} {start s : σ}
    (reached : Reaches step ok start s) {J I : σ → Prop}
    (known : ∀ {t : σ}, Reaches step ok start t → J t) (base : I start)
    (keeps : ∀ {s s' : σ} {a : α}, J s → I s → ok s a → step s a = some s' → I s') : I s := by
  induction reached with
  | refl => exact base
  | tail run allowed taken ih => exact keeps (known run) ih allowed taken

/-- Allowing more steps reaches at least the same states. -/
theorem Reaches.weaken {step : σ → α → Option σ} {ok ok' : σ → α → Prop} {start s : σ}
    (reached : Reaches step ok start s) (more : ∀ s a, ok s a → ok' s a) :
    Reaches step ok' start s := by
  induction reached with
  | refl => exact .refl
  | tail _ allowed taken ih => exact ih.tail (more _ _ allowed) taken

/-- Take the steps of an action list in order; `none` when one of them is not enabled. -/
def runAll (step : σ → α → Option σ) : σ → List α → Option σ
  | s, [] => some s
  | s, a :: as => (step s a).bind fun s' => runAll step s' as

/-- Every step of the run along an action list is allowed by `ok`. -/
def Along (step : σ → α → Option σ) (ok : σ → α → Prop) : σ → List α → Prop
  | _, [] => True
  | s, a :: as => ok s a ∧ ∀ s' ∈ step s a, Along step ok s' as

instance decidableAlong (step : σ → α → Option σ) (ok : σ → α → Prop)
    [decidableOk : ∀ s a, Decidable (ok s a)] : ∀ s as, Decidable (Along step ok s as)
  | _, [] => inferInstanceAs (Decidable True)
  | s, a :: as =>
      match enabled : step s a with
      | none => decidable_of_iff (ok s a) (by simp [Along, enabled])
      | some s' =>
          haveI := decidableAlong step ok s' as
          decidable_of_iff (ok s a ∧ Along step ok s' as) (by simp [Along, enabled])

/-- A run that succeeds and whose steps are all allowed ends in a reached state. -/
theorem Reaches.of_runAll {step : σ → α → Option σ} {ok : σ → α → Prop} {start s s' : σ}
    {as : List α} (reached : Reaches step ok start s) (along : Along step ok s as)
    (ran : runAll step s as = some s') : Reaches step ok start s' := by
  induction as generalizing s with
  | nil =>
      simp only [runAll, Option.some.injEq] at ran
      exact ran ▸ reached
  | cons a as ih =>
      obtain ⟨allowed, rest⟩ := along
      obtain ⟨next, taken, ranRest⟩ := Option.bind_eq_some_iff.mp ran
      exact ih (reached.tail allowed taken) (rest next taken) ranRest

/-- The state a run ends in; the start when one of its actions is not enabled. -/
def after (step : σ → α → Option σ) (start : σ) (as : List α) : σ := (runAll step start as).getD start

/-- The end of a run whose steps are all allowed is reached. -/
theorem Reaches.after {step : σ → α → Option σ} {ok : σ → α → Prop} {start : σ} {as : List α}
    (along : Along step ok start as) : Reaches step ok start (after step start as) := by
  unfold Reactive.after
  cases ran : runAll step start as with
  | none => exact .refl
  | some s => exact Reaches.refl.of_runAll along ran

/-- Where everything is allowed, every run is. -/
theorem along_of_forall {step : σ → α → Option σ} {ok : σ → α → Prop} (free : ∀ s a, ok s a)
    (start : σ) (as : List α) : Along step ok start as := by
  induction as generalizing start with
  | nil => exact trivial
  | cons a as ih => exact ⟨free start a, fun next _ => ih next⟩

end Reactive
