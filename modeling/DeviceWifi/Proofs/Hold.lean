/-
Module: DeviceWifi.Proofs.Hold
Layer: Proofs
Purpose: When a factory reset is backed by a real six-second hold. The invariant says of a run whose steps
  all meet `HoldGuard`: while a reset is outstanding the button is down, and went down at least six seconds
  before the timer's next expiry unless a push is still to start the timer; and every timer event that
  will find `mFunction` set was posted by an expiry that ended a real hold.
Imports: Mathlib.Data.List.Induction, DeviceWifi.Spec.Hold, DeviceWifi.Proofs.Handlers
Trusted boundary: none (fully proved)
Main exports: HoldInv, holdInv_step, factory_reset_needs_hold, factory_reset_needs_hold_fails
Open obligations: none
-/
import Mathlib.Data.List.Induction
import DeviceWifi.Spec.Hold
import DeviceWifi.Proofs.Handlers

namespace DeviceWifi

open Reactive

/-! ### Holds in a growing log -/

/-- The entry at `i` is a push at time `p`, and no release follows it. -/
def HeldSince (log : List Entry) (i p : Nat) : Prop :=
  log[i]? = some ⟨p, .edge true⟩ ∧ ∀ j, i < j → ∀ entry ∈ log[j]?, entry.obs ≠ .edge false

section Log

variable {log more : List Entry} {entry : Entry} {cause i p : Nat}

/-- What a log says about an entry stays so when the log grows. -/
theorem RealHold.append (real : RealHold log cause) : RealHold (log ++ more) cause := by
  obtain ⟨expiry, atCause, expired, i, before, push, atPush, pushed, long, quiet⟩ := real
  refine ⟨expiry, getElem?_append_of_some atCause, expired, i, before, push,
    getElem?_append_of_some atPush, pushed, long, fun j early later entry found => ?_⟩
  have inside : cause < log.length := (List.getElem?_eq_some_iff.mp atCause).1
  rw [Option.mem_def, List.getElem?_append_left (by omega)] at found
  exact quiet j early later entry found

theorem downSince_concat :
    downSince (log ++ [entry]) =
      match entry.obs with
      | .edge true => some ((downSince log).getD entry.time)
      | .edge false => none
      | _ => downSince log := by
  rw [downSince, List.foldl_append]
  rfl

/-- The button stays down while no release is recorded. -/
theorem downSince_append (down : p ∈ downSince log)
    (noRelease : ∀ entry ∈ more, entry.obs ≠ .edge false) : p ∈ downSince (log ++ more) := by
  induction more generalizing log with
  | nil => rwa [List.append_nil]
  | cons entry rest ih =>
      rw [List.append_cons]
      refine ih ?_ fun entry new => noRelease entry (List.mem_cons_of_mem _ new)
      rw [downSince_concat]
      split
      next => simp [Option.mem_def.mp down]
      next released => exact absurd released (noRelease entry (List.mem_cons_self ..))
      next => exact down

/-- After a push the button is down. -/
theorem downSince_push (log : List Entry) (now : Nat) :
    ∃ p, p ∈ downSince (log ++ [⟨now, .edge true⟩]) := by
  rw [downSince_concat]
  exact ⟨_, rfl⟩

/-- A hold lasts when an entry that is no release is recorded. -/
theorem HeldSince.concat (held : HeldSince log i p) (noRelease : entry.obs ≠ .edge false) :
    HeldSince (log ++ [entry]) i p := by
  refine ⟨getElem?_append_of_some held.1, fun j later entry' found => ?_⟩
  by_cases old : j < log.length
  · rw [Option.mem_def, List.getElem?_append_left old] at found
    exact held.2 j later entry' found
  · rw [Option.mem_def, List.getElem?_append_right (Nat.le_of_not_lt old)] at found
    obtain rfl := List.mem_singleton.mp (List.mem_of_getElem? found)
    exact noRelease

/-- The button went down with a push, and no release followed. -/
theorem exists_heldSince (down : p ∈ downSince log) : ∃ i, HeldSince log i p := by
  induction log using List.reverseRecOn with
  | nil => simp [downSince] at down
  | append_singleton log entry ih =>
      rw [downSince_concat] at down
      split at down
      next pushed =>
        cases before : downSince log with
        | some q =>
            rw [before, Option.mem_def, Option.getD_some] at down
            obtain ⟨i, held⟩ := ih (before.trans down)
            exact ⟨i, held.concat (by simp [pushed])⟩
        | none =>
            rw [before, Option.mem_def, Option.getD_none] at down
            obtain rfl := Option.some.inj down
            refine ⟨log.length, by simp [← pushed], fun j later entry' found => ?_⟩
            rw [Option.mem_def, List.getElem?_eq_none (by rw [List.length_append]; exact later)] at found
            simp at found
      next => simp at down
      next quiet =>
        obtain ⟨i, held⟩ := ih down
        exact ⟨i, held.concat quiet⟩

/-- An expiry at least six seconds after the button went down ends a real hold. -/
theorem realHold_of_downSince {now : Nat} (down : p ∈ downSince log) (long : p + 6000 ≤ now) :
    RealHold (log ++ ⟨now, .expired .sFunctionTimer⟩ :: more) log.length := by
  obtain ⟨i, held⟩ := exists_heldSince down
  have inside : i < log.length := (List.getElem?_eq_some_iff.mp held.1).1
  refine ⟨_, by simp; rfl, rfl, i, inside, _, getElem?_append_of_some held.1, rfl, long, ?_⟩
  intro j early later entry found
  rw [Option.mem_def, List.getElem?_append_left early] at found
  exact held.2 j later entry found

end Log

/-! ### What waits in the queue -/

/-- A timer event that finds `mFunction` set was posted by an expiry that ended a real hold. -/
def TimerHeld (log : List Entry) (mFunction : FunctionEvent) (posted : Posted) : Prop :=
  posted.event.functionInput? = some .timer → mFunction = .factoryReset → RealHold log posted.cause

/-- Every waiting timer event that will find `mFunction` set was posted by an expiry that ended a real
    hold. -/
abbrev QueueHeld (log : List Entry) (mFunction : FunctionEvent) (items : List Posted) : Prop :=
  Backlog.EachFinds functionNext (TimerHeld log) mFunction items

theorem QueueHeld.append {log more : List Entry} {mFunction : FunctionEvent} {items : List Posted}
    (held : QueueHeld log mFunction items) : QueueHeld (log ++ more) mFunction items :=
  Backlog.EachFinds.imp held fun timerHeld timer isSet => (timerHeld timer isSet).append

/-! ### The output calls of the function handlers -/

/-- Only a push starts the function timer, once, for six seconds. -/
theorem start_mem_handlerOutputs {event : AppEvent} {mFunction : FunctionEvent}
    {duration period : Nat}
    (made : .kTimerStart .sFunctionTimer duration period ∈ handlerOutputs event mFunction) :
    event.functionInput? = some .push ∧
      handlerOutputs event mFunction =
        [.kTimerStart .sFunctionTimer kFactoryResetTriggerTimeout 0] ∧
      duration = kFactoryResetTriggerTimeout ∧ period = 0 := by
  unfold handlerOutputs at made ⊢
  cases input : event.functionInput? with
  | some input' =>
      cases input' <;> cases mFunction <;>
        simp_all [FunctionInput.outputs]
  | none =>
      cases handler : event.handler with
      | none => simp [input, handler] at made
      | some h => cases h <;> simp [input, handler, actuatorOutputs] at made

/-- A push starts the function timer. -/
theorem start_mem_iff {event : AppEvent} {mFunction : FunctionEvent} :
    .kTimerStart .sFunctionTimer kFactoryResetTriggerTimeout 0 ∈ handlerOutputs event mFunction ↔
      event.functionInput? = some .push := by
  refine ⟨fun made => (start_mem_handlerOutputs made).1, fun push => ?_⟩
  simp [handlerOutputs, push, FunctionInput.outputs]

/-- Only a timer event that finds `mFunction` set schedules a reset. -/
theorem reset_mem_handlerOutputs {event : AppEvent} {mFunction : FunctionEvent}
    (made : .scheduleFactoryReset ∈ handlerOutputs event mFunction) :
    event.functionInput? = some .timer ∧ mFunction = .factoryReset := by
  unfold handlerOutputs at made
  cases input : event.functionInput? with
  | some input' =>
      cases input' <;> cases mFunction <;> simp_all [FunctionInput.outputs]
  | none =>
      cases handler : event.handler with
      | none => simp [input, handler] at made
      | some h => cases h <;> simp [input, handler, actuatorOutputs] at made

/-- The events of the loads are no inputs of the function button. -/
theorem functionInput?_actuatorEvent (e : Actuator) (on : Bool) :
    (e.event on).functionInput? = none := by
  cases e <;> cases on <;> rfl

/-- The sensor events are no inputs of the function button. -/
theorem functionInput?_sensorTimerHandler {event : AppEvent}
    (posted : event ∈ sensorTimerHandler) : event.functionInput? = none := by
  simp only [sensorTimerHandler, List.mem_cons, List.not_mem_nil, or_false] at posted
  rcases posted with rfl | rfl | rfl <;> rfl

/-! ### The invariant -/

/-- The button is down, and unless a push is still to start the function timer, it went down at least
    six seconds before the timer's next expiry. -/
def Held (s : State) : Prop :=
  ∃ p ∈ downSince s.log,
    s.pushPending = false → ∀ d ∈ (s.device.timer .sFunctionTimer).next, p + 6000 ≤ d

/-- The invariant of runs whose steps meet `HoldGuard`. -/
structure HoldInv (s : State) : Prop where
  /-- The function timer is one-shot. -/
  oneShot : (s.device.timer .sFunctionTimer).period = 0
  /-- No entry of the log lies in the future. -/
  past : ∀ entry ∈ s.log, entry.time ≤ s.now
  /-- While a reset is outstanding the button is held. -/
  held : s.outstanding = .factoryReset → Held s
  /-- The waiting timer events that will reset are those of real holds. -/
  queued : QueueHeld s.log s.main.function s.queue.items
  /-- The reset in the hand of the running handler is that of a real hold. -/
  inHand : ∀ posted rest, s.main = .handling posted rest →
    .scheduleFactoryReset ∈ s.main.outputs → RealHold s.log posted.cause
  /-- The resets made so far were those of real holds. -/
  resets : ResetsHeld s.log

/-- An entry that records no call of `ScheduleFactoryReset`. -/
def NoReset (entry : Entry) : Prop :=
  ∀ cause response, entry.obs ≠ .called cause .scheduleFactoryReset response

theorem resetsHeld_append {log more : List Entry} (resets : ResetsHeld log)
    (noReset : ∀ entry ∈ more, NoReset entry) : ResetsHeld (log ++ more) := by
  intro entry member cause response called
  rcases List.mem_append.mp member with old | new
  · exact (resets entry old cause response called).append
  · exact absurd called (noReset entry new cause response)

section Environment

variable {s s' : State} {more : List Entry}

/-- While the main thread rests, the log grows by entries that are no resets. What remains to be shown
    concerns the queue and the function timer. -/
theorem HoldInv.grow (inv : HoldInv s) (main : s'.main = s.main) (log : s'.log = s.log ++ more)
    (later : s.now ≤ s'.now) (recent : ∀ entry ∈ more, entry.time ≤ s'.now ∧ NoReset entry)
    (oneShot : (s'.device.timer .sFunctionTimer).period = 0)
    (queued : QueueHeld s'.log s'.main.function s'.queue.items)
    (held : s'.outstanding = .factoryReset → Held s') : HoldInv s' where
  oneShot := oneShot
  past := by
    rw [log, List.forall_mem_append]
    exact ⟨fun entry old => Nat.le_trans (inv.past entry old) later,
      fun entry new => (recent entry new).1⟩
  held := held
  queued := queued
  inHand := by
    intro posted rest handling reset
    rw [main] at handling reset
    rw [log]
    exact (inv.inHand posted rest handling reset).append
  resets := by
    rw [log]
    exact resetsHeld_append inv.resets fun entry new => (recent entry new).2

/-- A hold lasts while no release is recorded, the queue stays and the timer is not brought forward. -/
theorem Held.extend (held : Held s) (main : s'.main = s.main)
    (items : s'.queue.items = s.queue.items)
    (timer : (s'.device.timer .sFunctionTimer).NoSooner (s.device.timer .sFunctionTimer))
    (log : s'.log = s.log ++ more) (noRelease : ∀ entry ∈ more, entry.obs ≠ .edge false) :
    Held s' := by
  obtain ⟨p, down, expires⟩ := held
  have pending : s'.pushPending = s.pushPending := by
    unfold State.pushPending
    rw [main, items]
  exact ⟨p, log ▸ downSince_append down noRelease,
    fun started => timer.le (expires (pending ▸ started))⟩

/-- An action that leaves the queue and the main thread alone, does not bring the function timer forward
    and records neither a release nor a reset keeps the invariant. -/
theorem HoldInv.extend (inv : HoldInv s) (main : s'.main = s.main)
    (items : s'.queue.items = s.queue.items)
    (period : (s'.device.timer .sFunctionTimer).period = (s.device.timer .sFunctionTimer).period)
    (timer : (s'.device.timer .sFunctionTimer).NoSooner (s.device.timer .sFunctionTimer))
    (log : s'.log = s.log ++ more) (later : s.now ≤ s'.now)
    (quiet : ∀ entry ∈ more, entry.time ≤ s'.now ∧ NoReset entry ∧ entry.obs ≠ .edge false) :
    HoldInv s' := by
  have outstanding : s'.outstanding = s.outstanding := by
    unfold State.outstanding
    rw [main, items]
  refine inv.grow main log later (fun entry new => ⟨(quiet entry new).1, (quiet entry new).2.1⟩)
    (by rw [period]; exact inv.oneShot) ?_ fun isSet => ?_
  · rw [main, items, log]
    exact inv.queued.append
  · exact (inv.held (outstanding ▸ isSet)).extend main items timer log
      fun entry new => (quiet entry new).2.2

/-- Recording an occurrence that is neither a release nor a reset keeps the invariant. -/
theorem HoldInv.note (inv : HoldInv s) (obs : Obs)
    (noReset : ∀ cause response, obs ≠ .called cause .scheduleFactoryReset response)
    (noRelease : obs ≠ .edge false) : HoldInv (s.note obs) := by
  refine inv.extend rfl rfl rfl (.refl _) rfl (Nat.le_refl _) fun entry new => ?_
  obtain rfl := List.mem_singleton.mp new
  exact ⟨Nat.le_refl _, noReset, noRelease⟩

/-- Changing the device without bringing the function timer forward keeps the invariant. -/
theorem HoldInv.withDevice (inv : HoldInv s) {d : Device}
    (period : (d.timer .sFunctionTimer).period = (s.device.timer .sFunctionTimer).period)
    (timer : (d.timer .sFunctionTimer).NoSooner (s.device.timer .sFunctionTimer)) :
    HoldInv (s.withDevice d) :=
  inv.extend rfl rfl period timer (List.append_nil _).symm (Nat.le_refl _)
    fun _ new => absurd new List.not_mem_nil

/-- The invariant does not speak of `ChipEventHandler`. -/
theorem HoldInv.withChip (inv : HoldInv s) (chip : Prog Call Response Unit) :
    HoldInv { s with chip := chip } :=
  inv.extend rfl rfl rfl (.refl _) (List.append_nil _).symm (Nat.le_refl _)
    fun _ new => absurd new List.not_mem_nil

/-- The expiry of a timer keeps the invariant. -/
theorem HoldInv.rearm (inv : HoldInv s) (t : TimerId) : HoldInv (s.rearm t) := by
  have rearmed : HoldInv (s.withDevice (s.device.setTimer t (s.device.timer t).expire)) := by
    refine inv.withDevice ?_ (setTimer_expire_noSooner _ _ _)
    rw [setTimer_timer]
    split
    next own => exact own ▸ rfl
    next => rfl
  exact rearmed.note (.expired t) nofun nofun

/-- The record of a post is neither a release nor a reset. -/
theorem quiet_posted (now : Nat) (producer : Producer) (event : AppEvent) (accepted : Bool) :
    ∀ entry ∈ [(⟨now, .posted producer event accepted⟩ : Entry)],
      entry.time ≤ now ∧ NoReset entry ∧ entry.obs ≠ .edge false := by
  intro entry new
  obtain rfl := List.mem_singleton.mp new
  exact ⟨Nat.le_refl _, fun cause response => by simp, by simp⟩

/-- An event that a full queue drops keeps the invariant. -/
theorem HoldInv.dropped (inv : HoldInv s) {producer : Producer} {cause : Nat} {event : AppEvent}
    (queue : (postEvent producer cause event s).queue = s.queue)
    (log : (postEvent producer cause event s).log =
      s.log ++ [⟨s.now, .posted producer event false⟩]) :
    HoldInv (postEvent producer cause event s) := by
  refine inv.extend (postEvent_main ..) (by rw [queue]) (by rw [postEvent_device])
    (.of_eq (by rw [postEvent_device])) log (by simp) ?_
  rw [postEvent_now]
  exact quiet_posted s.now producer event false

/-- An accepted event keeps the invariant if it is justified as a timer event by what it will find, and
    if the button is held where a reset is outstanding after it. -/
theorem HoldInv.accepted (inv : HoldInv s) {producer : Producer} {cause : Nat} {event : AppEvent}
    (items : (postEvent producer cause event s).queue.items = s.queue.items ++ [⟨event, cause⟩])
    (log : (postEvent producer cause event s).log = s.log ++ [⟨s.now, .posted producer event true⟩])
    (justified : TimerHeld s.log s.outstanding ⟨event, cause⟩)
    (held : functionNext s.outstanding ⟨event, cause⟩ = .factoryReset →
      Held (postEvent producer cause event s)) :
    HoldInv (postEvent producer cause event s) := by
  refine inv.grow (postEvent_main ..) log (by simp) (fun entry new => ?_)
    (by rw [postEvent_device]; exact inv.oneShot) ?_ fun isSet => ?_
  · obtain ⟨recent, noReset, _⟩ := quiet_posted s.now producer event true entry new
    exact ⟨by rwa [postEvent_now], noReset⟩
  · rw [log, items, postEvent_main]
    exact inv.queued.append.concat fun timer isSet => (justified timer isSet).append
  · rw [State.outstanding, postEvent_main, items, Backlog.settle_concat] at isSet
    exact held isSet

/-- Posting an event that is no input of the function button keeps the invariant. -/
theorem HoldInv.postSilent (inv : HoldInv s) (producer : Producer) (cause : Nat)
    {event : AppEvent} (silent : event.functionInput? = none) :
    HoldInv (postEvent producer cause event s) := by
  rcases postEvent_cases producer cause event s with ⟨_, items, log⟩ | ⟨_, queue, log⟩
  · refine inv.accepted items log (fun timer => by simp [silent] at timer) fun isSet => ?_
    simp only [functionNext, functionAfter, silent] at isSet
    obtain ⟨p, down, expires⟩ := inv.held isSet
    have pending : (postEvent producer cause event s).pushPending = s.pushPending := by
      simp only [State.pushPending, postEvent_main, items, Backlog.settle_concat, pushNext, silent]
    refine ⟨p, ?_, by rwa [pending, postEvent_device]⟩
    rw [log]
    exact downSince_append down fun entry new => (quiet_posted _ _ _ _ entry new).2.2
  · exact inv.dropped queue log

/-- A push edge keeps the invariant: when its event is accepted it is still to start the timer. -/
theorem HoldInv.push (inv : HoldInv s) :
    HoldInv (postEvent .button s.log.length (buttonEvent true) (s.note (.edge true))) := by
  have noted : HoldInv (s.note (.edge true)) := inv.note _ nofun nofun
  have input : (buttonEvent true).functionInput? = some .push := rfl
  rcases postEvent_cases .button s.log.length (buttonEvent true) (s.note (.edge true)) with
    ⟨_, items, log⟩ | ⟨_, queue, log⟩
  · refine noted.accepted items log (fun timer => by simp [input] at timer) fun _ => ?_
    have pending : (postEvent .button s.log.length (buttonEvent true)
        (s.note (.edge true))).pushPending = true := by
      simp only [State.pushPending, postEvent_main, items, Backlog.settle_concat, pushNext, input]
    obtain ⟨p, down⟩ := downSince_push s.log s.now
    refine ⟨p, ?_, by simp [pending]⟩
    rw [log, note_log]
    exact downSince_append down fun entry new => (quiet_posted _ _ _ _ entry new).2.2
  · exact noted.dropped queue log

/-- A release edge keeps the invariant when it is not dropped while a reset is outstanding: either way
    no reset is outstanding after it. -/
theorem HoldInv.release (inv : HoldInv s)
    (guarded : s.queue.Full → s.outstanding ≠ .factoryReset) :
    HoldInv (postEvent .button s.log.length (buttonEvent false) (s.note (.edge false))) := by
  have input : (buttonEvent false).functionInput? = some .release := rfl
  have recent : ∀ accepted, ∀ entry ∈ [(⟨s.now, .edge false⟩ : Entry),
      ⟨s.now, .posted .button (buttonEvent false) accepted⟩], entry.time ≤ s.now ∧ NoReset entry := by
    intro accepted entry new
    simp only [List.mem_cons, List.not_mem_nil, or_false] at new
    rcases new with rfl | rfl <;> exact ⟨Nat.le_refl _, nofun⟩
  rcases postEvent_cases .button s.log.length (buttonEvent false) (s.note (.edge false)) with
    ⟨_, items, log⟩ | ⟨full, queue, log⟩
  · rw [note_log, List.append_assoc] at log
    refine inv.grow (postEvent_main ..) log (by simp) (by simpa using recent true)
      (by simpa using inv.oneShot) ?_ fun isSet => ?_
    · rw [log, items, postEvent_main]
      exact inv.queued.append.concat fun timer => by simp [input] at timer
    · simp only [State.outstanding, postEvent_main, items, Backlog.settle_concat, functionNext,
        functionAfter, input, FunctionInput.next, reduceCtorEq] at isSet
  · rw [note_log, List.append_assoc] at log
    refine inv.grow (postEvent_main ..) log (by simp) (by simpa using recent false)
      (by simpa using inv.oneShot) ?_ fun isSet => ?_
    · rw [log, queue, postEvent_main]
      exact inv.queued.append
    · simp only [State.outstanding, postEvent_main, queue, note_queue, note_main] at isSet
      exact absurd isSet (guarded full)

/-- An expiry of the function timer keeps the invariant when its event is not queued behind a young push
    that is still to start the timer: if the event will find `mFunction` set, the expiry ends a real
    hold. -/
theorem HoldInv.expiry (inv : HoldInv s) (due : (s.device.timer .sFunctionTimer).Due s.now)
    (guarded : ¬ s.queue.Full → s.pushPending = true → ∀ p ∈ downSince s.log, p + 6000 ≤ s.now) :
    HoldInv (postEvent .functionTimer s.log.length timerEvent (s.rearm .sFunctionTimer)) := by
  have rearmed : HoldInv (s.rearm .sFunctionTimer) := inv.rearm .sFunctionTimer
  rcases postEvent_cases .functionTimer s.log.length timerEvent (s.rearm .sFunctionTimer) with
    ⟨room, items, log⟩ | ⟨_, queue, log⟩
  · refine rearmed.accepted items log (fun _ isSet => ?_) fun isSet => by cases isSet
    obtain ⟨p, down, expires⟩ := inv.held isSet
    have long : p + 6000 ≤ s.now := by
      cases pending : s.pushPending with
      | true => exact guarded room pending p down
      | false =>
          obtain ⟨d, scheduled, reached⟩ := due
          exact Nat.le_trans (expires pending d scheduled) reached
    exact realHold_of_downSince down long
  · exact rearmed.dropped queue log

end Environment

/-! ### The steps of the main thread -/

section Main

variable {s : State} {posted : Posted} {vars : AppVars}

/-- Taking a timer event into its handler keeps the invariant: the event was waiting, and what it will
    find in `mFunction` is what it finds. -/
theorem HoldInv.get (inv : HoldInv s) {queue : BoundedQueue Posted kAppEventQueueSize}
    (main : s.main = .waiting vars) (items : s.queue.items = posted :: queue.items) :
    HoldInv { s with
      queue := queue
      main := .handling posted ((dispatchEvent posted.event).run vars) } := by
  have function : s.main.function = vars.mFunction := by rw [main]; rfl
  have queued := inv.queued
  rw [items, function] at queued
  have outstanding : ({ s with
      queue := queue
      main := .handling posted ((dispatchEvent posted.event).run vars) } : State).outstanding =
      s.outstanding := by
    simp only [State.outstanding, function_get, function, items]
    rfl
  have pending : ({ s with
      queue := queue
      main := .handling posted ((dispatchEvent posted.event).run vars) } : State).pushPending =
      s.pushPending := by
    simp only [State.pushPending, items, main, MainThread.pushPending, outputs_get, start_mem_iff,
      Backlog.settle_cons, pushNext]
    cases input : posted.event.functionInput? with
    | none => simp [MainThread.outputs]
    | some input' => cases input' <;> simp
  constructor
  case oneShot => exact inv.oneShot
  case past => exact inv.past
  case held =>
    intro isSet
    obtain ⟨p, down, expires⟩ := inv.held (outstanding ▸ isSet)
    exact ⟨p, down, by rwa [pending]⟩
  case queued =>
    rw [function_get]
    exact queued.2
  case resets => exact inv.resets
  case inHand =>
    intro posted' rest handling reset
    obtain ⟨rfl, rfl⟩ := MainThread.handling.inj handling
    rw [outputs_get] at reset
    obtain ⟨timer, isSet⟩ := reset_mem_handlerOutputs reset
    exact queued.1 timer isSet

/-- The call that starts the function timer is the last output call of a push, and starts it for six
    seconds. -/
theorem start_call {duration period : Nat} {k : Response → Prog Call Response (Unit × AppVars)}
    (settled : HandlerSettled
      (.handling posted (.call (.kTimerStart .sFunctionTimer duration period) k))) (r : Response) :
    duration = kFactoryResetTriggerTimeout ∧ period = 0 ∧
      (MainThread.handling posted (k r)).outputs = [] := by
  obtain ⟨mFunction, suffix, _⟩ := settled.2
  have outputs := (settled_call settled r).2.2
  simp only [outputCall?, Option.toList_some, List.singleton_append] at outputs
  rw [outputs] at suffix
  obtain ⟨_, only, sixSeconds, oneShot⟩ :=
    start_mem_handlerOutputs (suffix.subset (List.mem_cons_self ..))
  refine ⟨sixSeconds, oneShot, ?_⟩
  have short := suffix.length_le
  rw [only] at short
  simpa using short

/-- The button stays held while a handler makes a call that does not start the function timer. -/
theorem Held.call {c : Call} {k : Response → Prog Call Response (Unit × AppVars)} {r : Response}
    {more : List Entry} (held : Held s) (main : s.main = .handling posted (.call c k))
    (settled : HandlerSettled s.main) (noRelease : ∀ entry ∈ more, entry.obs ≠ .edge false)
    (noStart : ∀ duration period, c ≠ .kTimerStart .sFunctionTimer duration period) :
    Held { s with
      main := .handling posted (k r)
      device := effect s.now c r s.device
      log := s.log ++ more } := by
  obtain ⟨p, down, expires⟩ := held
  have outputs := (settled_call (main ▸ settled) r).2.2
  have same : .kTimerStart .sFunctionTimer kFactoryResetTriggerTimeout 0 ∈ s.main.outputs ↔
      .kTimerStart .sFunctionTimer kFactoryResetTriggerTimeout 0 ∈
        (MainThread.handling posted (k r)).outputs := by
    rw [main, outputs, List.mem_append, or_iff_right]
    intro made
    exact noStart _ _ (eq_of_outputCall? (Option.mem_toList.mp made))
  have pending : ({ s with
      main := .handling posted (k r)
      device := effect s.now c r s.device
      log := s.log ++ more } : State).pushPending = s.pushPending := by
    simp only [State.pushPending, MainThread.pushPending, same]
  exact ⟨p, downSince_append down noRelease, fun started =>
    (effect_timer_of_not_start _ _ _ _ _ noStart).1.le (expires (pending ▸ started))⟩

/-- Starting the function timer turns a pending push into one whose timer expires six seconds from
    now or later. -/
theorem Held.start {k : Response → Prog Call Response (Unit × AppVars)} {r : Response}
    {more : List Entry} {duration period : Nat} (inv : HoldInv s)
    (isSet : s.outstanding = .factoryReset)
    (main : s.main = .handling posted
      (.call (.kTimerStart .sFunctionTimer duration period) k))
    (settled : HandlerSettled s.main) (noRelease : ∀ entry ∈ more, entry.obs ≠ .edge false) :
    Held { s with
      main := .handling posted (k r)
      device := effect s.now (.kTimerStart .sFunctionTimer duration period) r s.device
      log := s.log ++ more } := by
  obtain ⟨p, down, expires⟩ := inv.held isSet
  obtain ⟨i, held⟩ := exists_heldSince down
  have past : p ≤ s.now := inv.past _ (List.mem_of_getElem? held.1)
  obtain ⟨rfl, rfl, _⟩ := start_call (main ▸ settled) r
  refine ⟨p, downSince_append down noRelease, fun _ d scheduled => ?_⟩
  simp only [effect_timer, if_true, SoftTimer.next_start, Option.mem_def, Option.some.injEq,
    kFactoryResetTriggerTimeout] at scheduled
  omega

/-- A call leaves the function timer one-shot: only a push starts it, and with no period. -/
theorem HoldInv.oneShot_call (inv : HoldInv s) {c : Call}
    {k : Response → Prog Call Response (Unit × AppVars)} {r : Response}
    (settled : HandlerSettled (.handling posted (.call c k))) :
    ((effect s.now c r s.device).timer .sFunctionTimer).period = 0 := by
  by_cases start : ∃ duration period, c = .kTimerStart .sFunctionTimer duration period
  · obtain ⟨duration, period, rfl⟩ := start
    simp only [effect_timer, if_true]
    exact (start_call settled r).2.1
  · have noStart : ∀ duration period, c ≠ .kTimerStart .sFunctionTimer duration period :=
      fun duration period same => start ⟨duration, period, same⟩
    rw [(effect_timer_of_not_start _ _ _ _ _ noStart).2]
    exact inv.oneShot

/-- The button stays held while a handler makes a call. -/
theorem HoldInv.held_call (inv : HoldInv s) {c : Call}
    {k : Response → Prog Call Response (Unit × AppVars)} {r : Response} {more : List Entry}
    (main : s.main = .handling posted (.call c k)) (settled : HandlerSettled s.main)
    (isSet : s.outstanding = .factoryReset) (noRelease : ∀ entry ∈ more, entry.obs ≠ .edge false) :
    Held { s with
      main := .handling posted (k r)
      device := effect s.now c r s.device
      log := s.log ++ more } := by
  by_cases start : ∃ duration period, c = .kTimerStart .sFunctionTimer duration period
  · obtain ⟨duration, period, rfl⟩ := start
    exact Held.start inv isSet main settled noRelease
  · have noStart : ∀ duration period, c ≠ .kTimerStart .sFunctionTimer duration period :=
      fun duration period same => start ⟨duration, period, same⟩
    exact (inv.held isSet).call main settled noRelease noStart

/-- A call of the running handler keeps the invariant. -/
theorem HoldInv.call (inv : HoldInv s) {c : Call}
    {k : Response → Prog Call Response (Unit × AppVars)} {r : Response} {rest : List Entry}
    (main : s.main = .handling posted (.call c k)) (settled : HandlerSettled s.main)
    (reports : rest = [] ∨ ∃ path value, (∀ e : Actuator, path ≠ e.onOffPath) ∧
      rest = [⟨s.now, .delivered path value⟩]) :
    HoldInv { s with
      main := .handling posted (k r)
      device := effect s.now c r s.device
      log := s.log ++ (⟨s.now, .called posted.cause c r⟩ :: rest) } := by
  obtain ⟨_, function, outputs⟩ := settled_call (main ▸ settled) r
  have sameFunction : (MainThread.handling posted (k r)).function = s.main.function := by
    rw [main, function]
  have reported : ∀ entry ∈ rest, entry.time = s.now ∧ NoReset entry ∧ entry.obs ≠ .edge false := by
    rcases reports with rfl | ⟨path, value, _, rfl⟩
    · exact fun entry new => absurd new List.not_mem_nil
    · intro entry new
      obtain rfl := List.mem_singleton.mp new
      exact ⟨rfl, nofun, nofun⟩
  have noRelease : ∀ entry ∈ (⟨s.now, .called posted.cause c r⟩ :: rest : List Entry),
      entry.obs ≠ .edge false := by
    intro entry new
    rcases List.mem_cons.mp new with rfl | new
    · nofun
    · exact (reported entry new).2.2
  constructor
  case oneShot => exact inv.oneShot_call (main ▸ settled)
  case past =>
    rw [List.forall_mem_append, List.forall_mem_cons]
    exact ⟨inv.past, Nat.le_refl _, fun entry new => Nat.le_of_eq (reported entry new).1⟩
  case held =>
    intro isSet
    have wasSet : s.outstanding = .factoryReset := by
      rw [State.outstanding, ← sameFunction]
      exact isSet
    exact inv.held_call main settled wasSet noRelease
  case queued =>
    show QueueHeld _ (MainThread.handling posted (k r)).function _
    rw [sameFunction]
    exact inv.queued.append
  case inHand =>
    intro posted' rest' handling reset
    obtain ⟨rfl, rfl⟩ := MainThread.handling.inj handling
    refine (inv.inHand _ _ main ?_).append
    rw [main, outputs]
    exact List.mem_append_right _ reset
  case resets =>
    intro entry member
    rcases List.mem_append.mp member with old | new
    · exact fun cause response called => (inv.resets entry old cause response called).append
    · rcases List.mem_cons.mp new with rfl | new
      · intro cause response called
        obtain ⟨rfl, rfl, rfl⟩ := Obs.called.inj called
        refine (inv.inHand _ _ main ?_).append
        rw [main, outputs]
        exact List.mem_append_left _ (List.mem_singleton_self _)
      · exact fun cause response called => absurd called ((reported entry new).2.1 cause response)

/-- A handler that returns keeps the invariant. -/
theorem HoldInv.ret (inv : HoldInv s) {u : Unit} (main : s.main = .handling posted (.pure (u, vars)))
    (settled : HandlerSettled s.main) : HoldInv { s with main := .waiting vars } := by
  obtain ⟨done, function⟩ := settled_ret (main ▸ settled)
  have sameFunction : (MainThread.waiting vars).function = s.main.function := by
    rw [main, ← function]
    rfl
  have pending : s.main.pushPending = false := by
    simp [main, MainThread.pushPending, done]
  constructor
  case oneShot => exact inv.oneShot
  case past => exact inv.past
  case inHand => exact nofun
  case resets => exact inv.resets
  case held =>
    intro isSet
    have wasSet : s.outstanding = .factoryReset := by
      rw [State.outstanding, ← sameFunction]
      exact isSet
    obtain ⟨p, down, expires⟩ := inv.held wasSet
    have same : ({ s with main := .waiting vars } : State).pushPending = s.pushPending := by
      simp only [State.pushPending, pending]
      rfl
    exact ⟨p, down, by rwa [same]⟩
  case queued =>
    show QueueHeld _ (MainThread.waiting vars).function _
    rw [sameFunction]
    exact inv.queued

end Main

/-! ### Whole runs -/

/-- On entry to the loop nothing is outstanding. -/
theorem holdInv_initial : HoldInv State.initial where
  oneShot := rfl
  past := fun _ member => absurd member List.not_mem_nil
  held := fun isSet => absurd isSet (by decide)
  queued := trivial
  inHand := fun posted rest handling => by simp [State.initial] at handling
  resets := fun _ member => absurd member List.not_mem_nil

/-- Every step that meets the guard keeps the invariant. -/
theorem holdInv_step {s s' : State} {a : Action} (settled : HandlerSettled s.main)
    (inv : HoldInv s) (guarded : HoldGuard s a) (taken : step s a = some s') : HoldInv s' := by
  cases stepEffect taken with
  | elapse duration =>
      exact inv.extend rfl rfl rfl (.refl _) (List.append_nil _).symm (Nat.le_add_right _ _)
        fun _ new => absurd new List.not_mem_nil
  | write path value idle =>
      have stored : HoldInv { s with
          device := s.device.setAttribute path value
          pendingWrite := some ⟨path, value, s.log.length⟩ } :=
        inv.extend rfl rfl rfl (.refl _) (List.append_nil _).symm (Nat.le_refl _)
          fun _ new => absurd new List.not_mem_nil
      exact stored.note (.written path value) nofun nofun
  | loadCallback w e pending load =>
      have idle : HoldInv { s with pendingWrite := none } :=
        inv.extend rfl rfl rfl (.refl _) (List.append_nil _).symm (Nat.le_refl _)
          fun _ new => absurd new List.not_mem_nil
      exact (idle.note (.delivered e.onOffPath w.value) nofun nofun).postSilent _ _
        (functionInput?_actuatorEvent e _)
  | otherCallback w pending other =>
      have idle : HoldInv { s with pendingWrite := none } :=
        inv.extend rfl rfl rfl (.refl _) (List.append_nil _).symm (Nat.le_refl _)
          fun _ new => absurd new List.not_mem_nil
      exact idle.note (.delivered w.path w.value) nofun nofun
  | functionExpiry due => exact inv.expiry due (guarded.2 rfl)
  | sensorExpiry due =>
      apply postAll_induction (I := HoldInv) (inv.rearm .sSensorTimer)
      intro t event posted inv'
      exact inv'.postSilent _ _ (functionInput?_sensorTimerHandler posted)
  | feederExpiry due =>
      have stored : HoldInv ((s.rearm .sFeederMonoTimer).withDevice
          ((s.rearm .sFeederMonoTimer).device.setAttribute Actuator.feeder.onOffPath 0)) :=
        (inv.rearm .sFeederMonoTimer).withDevice rfl (.refl _)
      exact (stored.note (.delivered Actuator.feeder.onOffPath 0) nofun nofun).postSilent _ _
        (functionInput?_actuatorEvent .feeder false)
  | edge buttonState hasChanged pushed changed level =>
      cases pushed with
      | true => exact inv.push
      | false =>
          have released : functionButtonMask &&& buttonState = 0 := by simpa using level.symm
          exact inv.release (guarded.1 (by simp [Action.releases, changed, released]))
  | noEdge buttonState hasChanged unchanged => exact inv
  | ledUpdate ledWidget => exact (inv.note (.ledUpdate ledWidget) nofun nofun).postSilent _ _ rfl
  | chip event => exact inv.withChip _
  | chipCall access k chip =>
      exact (inv.withDevice (d := access.effect s.device) (by simp) (.of_eq (by simp))).withChip _
  | get vars posted queue main items => exact inv.get main items
  | call posted c k r rest main reports => exact inv.call main settled reports
  | ret posted u vars main => exact inv.ret main settled

/-- A factory reset needs a real six-second hold: in every run whose steps meet `HoldGuard`, every call
    of `ScheduleFactoryReset` was made for an expiry of the function timer at least six seconds after a
    push, with no release between the two. -/
theorem factory_reset_needs_hold (s : State) (reached : ReachableWhen HoldGuard s) :
    ResetsHeld s.log := by
  have inv : HoldInv s := reached.invariant_with (I := HoldInv)
    (fun run => settled_of_reachable (ReachableWhen.reachable run)) holdInv_initial
    fun settled inv guarded taken => holdInv_step settled inv guarded taken
  exact inv.resets

/-- The button is pushed and held; its timer expires after six seconds and the timer event is handled. -/
def sixSecondHold : List Action :=
  [.button 1 1, .get, .call default, .ret, .elapse 6000, .expiry .sFunctionTimer,
    .get, .call default, .call default, .call default, .ret]

/-- The hypothesis of `factory_reset_needs_hold` is met by a run that does reset the device. -/
theorem factory_reset_needs_hold_sixSecondHold :
    ResetsHeld (stateAfter sixSecondHold).log ∧
      ⟨6000, .called 3 .scheduleFactoryReset default⟩ ∈ (stateAfter sixSecondHold).log := by
  have guarded : Along step HoldGuard State.initial sixSecondHold := by decide
  exact ⟨factory_reset_needs_hold _ (reachableWhen_stateAfter guarded), by decide⟩

/-- A push is handled; the button is released after 5.5 seconds and pushed again, and before the loop
    gets to either event the timer of the first push expires. Then all three events are handled. -/
def staleTimer : List Action :=
  [.button 1 1, .get, .call default, .ret,
    .elapse 5500, .button 0 1, .elapse 300, .button 1 1, .elapse 200, .expiry .sFunctionTimer,
    .get, .call default, .call default, .call default, .call default, .call default, .ret,
    .get, .call default, .ret, .get, .call default, .call default, .call default, .ret]

/-- Not every reset is backed by a hold: the timer event of a released push finds `mFunction` set again
    by the next push, 200 ms old at the expiry. -/
theorem factory_reset_needs_hold_fails : ¬ ∀ s, Reachable s → ResetsHeld s.log := by
  intro held
  have reset : ⟨6000, .called 7 .scheduleFactoryReset default⟩ ∈ (stateAfter staleTimer).log := by
    decide
  have real : RealHold (stateAfter staleTimer).log 7 :=
    held _ (reachable_stateAfter _) _ reset 7 default rfl
  exact absurd real (by decide +kernel)

end DeviceWifi
