/-
Module: DeviceWifi.Lib.SoftTimer
Layer: Lib
Purpose: Software timers with an initial duration and an optional period. A running timer carries the
  time of its next expiry. After an expiry a timer of period zero stops and a periodic one is due again
  one period later. Starting re-arms, stopping disarms; neither touches what earlier expiries did.
Imports: Mathlib.Logic.Basic
Trusted boundary: none (fully proved)
Main exports: SoftTimer, SoftTimer.start, SoftTimer.stop, SoftTimer.expire, SoftTimer.Due,
  SoftTimer.Running, SoftTimer.expire_running_iff, SoftTimer.NoSooner, SoftTimer.expire_noSooner
Open obligations: none
-/
import Mathlib.Logic.Basic

namespace Reactive

/-- A timer: the time of its next expiry while it runs, and its period (zero for one-shot). -/
structure SoftTimer where
  next : Option Nat
  period : Nat
deriving DecidableEq, Repr, Inhabited

namespace SoftTimer

/-- A timer that is initialised and not running. -/
def idle : SoftTimer := ⟨none, 0⟩

/-- Start (or re-arm) at time `now` with the given duration and period. -/
def start (now duration period : Nat) : SoftTimer := ⟨some (now + duration), period⟩

/-- Stop: no further expiry is scheduled. -/
def stop (t : SoftTimer) : SoftTimer := { t with next := none }

/-- The scheduled expiry has been reached. -/
def Due (t : SoftTimer) (now : Nat) : Prop := ∃ d ∈ t.next, d ≤ now

instance (t : SoftTimer) (now : Nat) : Decidable (t.Due now) :=
  match scheduled : t.next with
  | none => isFalse (by simp [Due, scheduled])
  | some d => decidable_of_iff (d ≤ now) (by simp [Due, scheduled])

/-- The timer after one expiry: stopped when one-shot, due one period later otherwise. -/
def expire (t : SoftTimer) : SoftTimer :=
  { t with next := if t.period = 0 then none else t.next.map (· + t.period) }

@[simp] theorem next_start (now duration period : Nat) :
    (start now duration period).next = some (now + duration) := rfl

@[simp] theorem next_stop (t : SoftTimer) : t.stop.next = none := rfl

/-- The timer runs: its next expiry is scheduled. -/
def Running (t : SoftTimer) : Prop := t.next.isSome = true

instance (t : SoftTimer) : Decidable t.Running := inferInstanceAs (Decidable (_ = true))

@[simp] theorem start_running (now duration period : Nat) : (start now duration period).Running := rfl

@[simp] theorem not_stop_running (t : SoftTimer) : ¬ t.stop.Running := Bool.false_ne_true

/-- A periodic timer keeps running through its expiries. -/
theorem expire_running_iff {t : SoftTimer} (periodic : t.Running → t.period ≠ 0) :
    t.expire.Running ↔ t.Running := by
  unfold Running expire
  by_cases running : t.Running
  · rw [if_neg (periodic running), Option.isSome_map]
  · have idle : t.next = none := Option.not_isSome_iff_eq_none.mp running
    simp [idle]

/-- The first timer is due no sooner than the second: a scheduled expiry of the first is preceded by
    one of the second. -/
def NoSooner (t' t : SoftTimer) : Prop := ∀ d' ∈ t'.next, ∃ d ∈ t.next, d ≤ d'

@[refl] theorem NoSooner.refl (t : SoftTimer) : t.NoSooner t :=
  fun d scheduled => ⟨d, scheduled, Nat.le_refl d⟩

theorem NoSooner.of_eq {t t' : SoftTimer} (same : t' = t) : t'.NoSooner t := same ▸ .refl t

/-- A bound on the next expiry stays one when the timer is due no sooner. -/
theorem NoSooner.le {t t' : SoftTimer} (noSooner : t'.NoSooner t) {bound : Nat}
    (bounded : ∀ d ∈ t.next, bound ≤ d) : ∀ d' ∈ t'.next, bound ≤ d' := by
  intro d' scheduled
  obtain ⟨d, before, earlier⟩ := noSooner d' scheduled
  exact Nat.le_trans (bounded d before) earlier

/-- An expiry never brings the next one forward. -/
theorem expire_noSooner (t : SoftTimer) : t.expire.NoSooner t := by
  intro d' scheduled
  unfold expire at scheduled
  split at scheduled
  · simp at scheduled
  · obtain ⟨d, member, rfl⟩ := Option.map_eq_some_iff.mp scheduled
    exact ⟨d, member, Nat.le_add_right _ _⟩

end SoftTimer

end Reactive
