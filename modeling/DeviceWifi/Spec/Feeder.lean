/-
Module: DeviceWifi.Spec.Feeder
Layer: Spec
Purpose: What the monostable feeder promises. A feed ends by itself: the servo does not run longer than two
  seconds after the last activation. No feed is cut short: a stop comes from an off command issued after
  the feed's own on command, or two seconds after the activation. And the servo runs exactly while the
  OnOff attribute of endpoint 6 is true. For each promise, the condition on steps under which it is kept.
  That a running servo has its timer running needs no condition on steps.
Imports: DeviceWifi.Lib.Backlog, DeviceWifi.Spec.History
Trusted boundary: human-reviewed spec
Main exports: MainThread.feederCalls, FeederShutOff, ShutOffGuard, FeedNotCut, CutGuard, FeederAgrees,
  WritersGuard, FeederArmed
Open obligations: none
-/
import DeviceWifi.Lib.Backlog
import DeviceWifi.Spec.History

namespace DeviceWifi

open Reactive

/-! ### The calls of the feeder handlers -/

/-- The PWM call of a feeder handler: the feeding pulse to activate, none to deactivate. -/
def feederDrive (on : Bool) : Call := .pwmSetPulseDt (if on then pulse else 0)

/-- The timer call of a feeder handler: start the monostable timer to activate, stop it to deactivate. -/
def feederTimer (on : Bool) : Call :=
  if on then .kTimerStart .sFeederMonoTimer 2000 200000 else .kTimerStop .sFeederMonoTimer

/-- A call on the servo or on the feeder's timer. -/
def isFeederCall : Call → Bool
  | .pwmSetPulseDt _ => true
  | .kTimerStart .sFeederMonoTimer _ _ => true
  | .kTimerStop .sFeederMonoTimer => true
  | _ => false

/-- The feeder calls the running handler still has to make. -/
def MainThread.feederCalls (main : MainThread) : List Call := main.outputs.filter isFeederCall

/-- An occurrence is a failed `pwm_set_pulse_dt`. -/
def Obs.pwmFailed : Obs → Bool
  | .called _ (.pwmSetPulseDt _) response => response.rc != 0
  | _ => false

/-- An occurrence is a failed `k_msgq_put`. -/
def Obs.putFailed : Obs → Bool
  | .posted _ _ accepted => !accepted
  | _ => false

/-- Every `pwm_set_pulse_dt` so far succeeded. -/
def PwmSucceeds (log : List Entry) : Prop := ∀ entry ∈ log, entry.obs.pwmFailed = false

/-- Every `k_msgq_put` so far succeeded. -/
def NoPutFails (log : List Entry) : Prop := ∀ entry ∈ log, entry.obs.putFailed = false

instance (log : List Entry) : Decidable (PwmSucceeds log) :=
  inferInstanceAs (Decidable (∀ entry ∈ log, _))

instance (log : List Entry) : Decidable (NoPutFails log) :=
  inferInstanceAs (Decidable (∀ entry ∈ log, _))

/-! ### Automatic shut-off -/

/-- When a `FeederActivateHandler` run ended, if an occurrence ends one: its last call starts the
    monostable timer, which no other handler starts. -/
def Entry.feedTime? (entry : Entry) : Option Nat :=
  match entry.obs with
  | .called _ (.kTimerStart .sFeederMonoTimer _ _) _ => some entry.time
  | _ => none

/-- The end of the latest `FeederActivateHandler` run. -/
def lastFeed (log : List Entry) : Option Nat := (log.filterMap Entry.feedTime?).getLast?

/-- The servo runs only within two seconds of the latest activation. -/
def FeederShutOff (s : State) : Prop := s.device.servo ≠ 0 → ∃ t ∈ lastFeed s.log, s.now < t + 2000

instance (s : State) : Decidable (FeederShutOff s) :=
  inferInstanceAs (Decidable (_ → ∃ t ∈ lastFeed s.log, _))

/-- A feeder event waits, or the running feeder handler has still to drive the servo or to start the
    timer. -/
def State.feederPending (s : State) : Prop :=
  waiting .feeder s.queue ≠ [] ∨ ∃ c ∈ s.main.feederCalls, c ≠ feederTimer false

instance (s : State) : Decidable s.feederPending :=
  inferInstanceAs (Decidable (_ ∨ ∃ c ∈ s.main.feederCalls, _))

/-- The SDK answers the running handler's call with a failure. -/
def Action.fails : Action → Bool
  | .call response => response.rc != 0
  | _ => false

/-- The steps after which a running servo is still stopped in time: no expiry of the feeder's timer
    finds the queue full while the servo runs, unless something else is pending for the feeder; and no
    `pwm_set_pulse_dt` that should stop a running servo fails, unless another feeder event waits. -/
def ShutOffGuard (s : State) (a : Action) : Prop :=
  (a = .expiry .sFeederMonoTimer → s.queue.Full → s.device.servo ≠ 0 → s.feederPending) ∧
    (s.executes .feeder a = some false → a.fails = true → s.device.servo ≠ 0 →
      waiting .feeder s.queue ≠ [])

instance (s : State) (a : Action) : Decidable (ShutOffGuard s a) :=
  inferInstanceAs (Decidable ((_ → _ → _ → _) ∧ (_ → _ → _ → _)))

/-! ### No feed cut short -/

/-- A `FeederActivateHandler` run that the servo is driven by: the log position of what caused it (of an
    on command, its store), and when the run ended. -/
structure Feed where
  cause : Nat
  ended : Option Nat
deriving DecidableEq, Repr

/-- The feed after one more occurrence: a pulse starts one, a pulse of zero stops it, and the start of
    the monostable timer ends its run. Failed calls leave the servo as it was. -/
def feedAfter (feed : Option Feed) (entry : Entry) : Option Feed :=
  match entry.obs with
  | .called cause (.pwmSetPulseDt width) response =>
      if response.rc ≠ 0 then feed else if width = 0 then none else some ⟨cause, none⟩
  | .called _ (.kTimerStart .sFeederMonoTimer _ _) _ =>
      feed.map fun feed => { feed with ended := some entry.time }
  | _ => feed

/-- The feed that last drove the servo, unless it has been stopped. -/
def feedOf (log : List Entry) : Option Feed := log.foldl feedAfter none

/-- The on or off command for endpoint 6 that an occurrence is. -/
def Obs.feederCommand? : Obs → Option Bool
  | .written path value => if path = Actuator.feeder.onOffPath then some (isOn value) else none
  | _ => none

/-- The entry at `j` is an on or off command for endpoint 6. -/
def FeederCommand (log : List Entry) (j : Nat) (on : Bool) : Prop :=
  ∃ entry ∈ log[j]?, entry.obs.feederCommand? = some on

instance (log : List Entry) (j : Nat) (on : Bool) : Decidable (FeederCommand log j on) :=
  inferInstanceAs (Decidable (∃ entry ∈ log[j]?, _))

/-- Whenever `FeederDeactivateHandler` stopped a servo driven by a feed, the feed was caused by an on
    command, and an off command had been issued after it or at least two seconds had passed since the
    feed's run. -/
def FeedNotCut (log : List Entry) : Prop :=
  ∀ n, ∀ entry ∈ log[n]?, ∀ cause response, entry.obs = .called cause (feederDrive false) response →
    ∀ feed ∈ feedOf (log.take n), FeederCommand log feed.cause true ∧
      ((∃ j < n, feed.cause < j ∧ FeederCommand log j false) ∨
        ∃ t ∈ feed.ended, t + 2000 ≤ entry.time)

/-- Whether an activation is still to restart the timer, with one more waiting event: an activate event
    is, and a deactivate event supersedes it. -/
def activationNext (pending : Bool) (posted : Posted) : Bool :=
  (Actuator.feeder.command? posted.event).getD pending

/-- The last feeder event waiting, or else the one in hand, is an activation that has not restarted the
    timer. -/
def State.activationPending (s : State) : Bool :=
  Backlog.settle activationNext (decide (feederTimer true ∈ s.main.feederCalls)) s.queue.items

/-- The steps that cut no feed: the feeder's timer does not expire behind an activation that has still
    to restart it. -/
def CutGuard (s : State) (a : Action) : Prop :=
  a = .expiry .sFeederMonoTimer → s.activationPending = false

instance (s : State) (a : Action) : Decidable (CutGuard s a) :=
  inferInstanceAs (Decidable (_ → _))

/-! ### Agreement with the attribute -/

/-- The servo runs exactly when the stored OnOff attribute of endpoint 6 is true. -/
def FeederAgrees (s : State) : Prop :=
  s.device.servo ≠ 0 ↔ isOn (s.device.attributes Actuator.feeder.onOffPath) = true

instance (s : State) : Decidable (FeederAgrees s) := inferInstanceAs (Decidable (_ ↔ _))

/-- The steps that keep the order of stores and posts: the feeder's timer does not expire between the
    Matter thread's store of an on value for endpoint 6 and its callback. -/
def WritersGuard (s : State) (a : Action) : Prop :=
  a = .expiry .sFeederMonoTimer →
    ∀ w ∈ s.pendingWrite, w.path = Actuator.feeder.onOffPath → isOn w.value = false

instance (s : State) (a : Action) : Decidable (WritersGuard s a) :=
  inferInstanceAs (Decidable (_ → ∀ w ∈ s.pendingWrite, _ → _))

/-! ### The armed stop -/

/-- The servo runs exactly while the monostable timer does. -/
def FeederArmed (s : State) : Prop :=
  s.device.servo ≠ 0 ↔ (s.device.timer .sFeederMonoTimer).Running

instance (s : State) : Decidable (FeederArmed s) := inferInstanceAs (Decidable (_ ↔ _))

end DeviceWifi
