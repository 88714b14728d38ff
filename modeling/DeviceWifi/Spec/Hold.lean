/-
Module: DeviceWifi.Spec.Hold
Layer: Spec
Purpose: The six-second hold. A factory reset is meant for an expiry of the function timer that ends a real
  hold of the button: a push at least six seconds before, and no release since. Pushes and timer events
  wait in the queue between their occurrence and their handling, so two readings look ahead: what
  `mFunction` will be once everything waiting is handled, and whether a push is still to start its timer.
  A third looks back, at how long the button has been down.
Imports: DeviceWifi.Lib.Backlog, DeviceWifi.Spec.Outputs
Trusted boundary: human-reviewed spec
Main exports: RealHold, ResetsHeld, downSince, State.outstanding, State.pushPending, HoldGuard
Open obligations: none
-/
import DeviceWifi.Lib.Backlog
import DeviceWifi.Spec.Outputs

namespace DeviceWifi

open Reactive

/-- The log entry at `cause` is an expiry of the function timer that ends a real hold: at least six
    seconds before it the button was pushed, and no release lies between the two. -/
def RealHold (log : List Entry) (cause : Nat) : Prop :=
  ∃ expiry ∈ log[cause]?, expiry.obs = .expired .sFunctionTimer ∧
    ∃ i < cause, ∃ push ∈ log[i]?, push.obs = .edge true ∧ push.time + 6000 ≤ expiry.time ∧
      ∀ j < cause, i < j → ∀ entry ∈ log[j]?, entry.obs ≠ .edge false

instance (log : List Entry) (cause : Nat) : Decidable (RealHold log cause) :=
  inferInstanceAs (Decidable (∃ expiry ∈ log[cause]?, _ ∧ ∃ i < cause, ∃ push ∈ log[i]?, _ ∧ _ ∧
    ∀ j < cause, _ → ∀ entry ∈ log[j]?, entry.obs ≠ .edge false))

/-- Every call of `ScheduleFactoryReset` so far was made while handling the event of an expiry that
    ended a real hold. -/
def ResetsHeld (log : List Entry) : Prop :=
  ∀ entry ∈ log, ∀ cause response,
    entry.obs = .called cause .scheduleFactoryReset response → RealHold log cause

/-! ### Looking back and looking ahead -/

/-- Since when the button has been down: the time of the first push after the last release. -/
def downSince (log : List Entry) : Option Nat :=
  log.foldl (fun since entry =>
    match entry.obs with
    | .edge true => some (since.getD entry.time)
    | .edge false => none
    | _ => since) none

/-- `mFunction` after one more waiting event. -/
def functionNext (mFunction : FunctionEvent) (posted : Posted) : FunctionEvent :=
  functionAfter mFunction posted.event

/-- Whether a push is still to start its timer, with one more waiting event: a push is, and a release or
    a timer event supersedes it. -/
def pushNext (pending : Bool) (posted : Posted) : Bool :=
  match posted.event.functionInput? with
  | some .push => true
  | some _ => false
  | none => pending

/-- The running handler is that of a push and has not started the timer yet. -/
def MainThread.pushPending (main : MainThread) : Bool :=
  decide (.kTimerStart .sFunctionTimer kFactoryResetTriggerTimeout 0 ∈ main.outputs)

/-- `mFunction` once everything in hand and waiting has been handled. -/
def State.outstanding (s : State) : FunctionEvent :=
  Backlog.settle functionNext s.main.function s.queue.items

/-- The last button or timer event in hand or waiting is a push that is still to start its timer. -/
def State.pushPending (s : State) : Bool :=
  Backlog.settle pushNext s.main.pushPending s.queue.items

/-! ### The condition on steps -/

/-- The button driver reports that the function button was released. -/
def Action.releases : Action → Bool
  | .button buttonState hasChanged =>
      functionButtonMask &&& hasChanged != 0 && functionButtonMask &&& buttonState == 0
  | _ => false

/-- The steps that keep resets to real holds: no release is dropped by a full queue while a factory
    reset is outstanding; and no expiry of the function timer gets its event into the queue behind a
    push that is still to start the timer, unless the button has by then been down for six seconds. -/
def HoldGuard (s : State) (a : Action) : Prop :=
  (a.releases = true → s.queue.Full → s.outstanding ≠ .factoryReset) ∧
    (a = .expiry .sFunctionTimer → ¬ s.queue.Full → s.pushPending = true →
      ∀ p ∈ downSince s.log, p + 6000 ≤ s.now)

instance (s : State) (a : Action) : Decidable (HoldGuard s a) :=
  inferInstanceAs (Decidable
    ((_ → _ → _) ∧ (_ → _ → _ → ∀ p ∈ downSince s.log, p + 6000 ≤ s.now)))

end DeviceWifi
