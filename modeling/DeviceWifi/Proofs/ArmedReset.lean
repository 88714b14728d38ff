/-
Module: DeviceWifi.Proofs.ArmedReset
Layer: Proofs
Purpose: An armed factory reset is not forgotten. While `mFunction` is `FactoryReset` the function timer is
  about to be started, runs, or has its event waiting, unless a full queue dropped that event; so a held
  button does lead to the reset: with nothing else happening the main loop settles, the timer expires
  within six seconds, and its event schedules the reset.
Imports: DeviceWifi.Proofs.Hold, DeviceWifi.Proofs.Progress
Trusted boundary: none (fully proved)
Main exports: timerLost, ResetInv, armed_reset_pending, held_button_resets
Open obligations: none
-/
import DeviceWifi.Proofs.Hold
import DeviceWifi.Proofs.Progress

namespace DeviceWifi

open Reactive

/-! ### The lost timer event -/

/-- Whether the function timer's last event was lost, with one more occurrence: a full queue loses it, and
    the next start of the timer makes up for it. -/
def lostAfter (lost : Bool) (entry : Entry) : Bool :=
  match entry.obs with
  | .posted .functionTimer _ accepted => !accepted
  | .called _ (.kTimerStart .sFunctionTimer _ _) _ => false
  | _ => lost

/-- The event of the last expiry of the function timer was dropped, and the timer not started since. -/
def timerLost (log : List Entry) : Bool := log.foldl lostAfter false

section Lost

variable (log more : List Entry) (s : State)

@[simp] theorem timerLost_append : timerLost (log ++ more) = more.foldl lostAfter (timerLost log) := by
  simp [timerLost]

/-- Only the posts of the function timer can be lost. -/
theorem timerLost_postEvent {producer : Producer} (cause : Nat) (event : AppEvent)
    (other : producer ≠ .functionTimer) :
    timerLost (postEvent producer cause event s).log = timerLost s.log := by
  rcases postEvent_cases producer cause event s with ⟨_, _, log⟩ | ⟨_, _, log⟩ <;>
    · rw [log, timerLost_append]
      cases producer with
      | functionTimer => exact absurd rfl other
      | _ => rfl

end Lost

/-! ### The invariant -/

/-- What an armed reset waits for: the push has still to start the timer, the timer runs, its event waits,
    or the event was lost. -/
def ResetPending (s : State) : Prop :=
  .kTimerStart .sFunctionTimer kFactoryResetTriggerTimeout 0 ∈ s.main.outputs ∨
    (s.device.timer .sFunctionTimer).Running ∨
    (∃ posted ∈ s.queue.items, posted.event.functionInput? = some .timer) ∨
    timerLost s.log = true

/-- The function timer is one-shot and due within six seconds, and an armed reset is pending. -/
structure ResetInv (s : State) : Prop where
  oneShot : (s.device.timer .sFunctionTimer).period = 0
  soon : ∀ d ∈ (s.device.timer .sFunctionTimer).next, d ≤ s.now + kFactoryResetTriggerTimeout
  armed : s.main.function = .factoryReset → ResetPending s

section Steps

variable {s s' : State} {a : Action}

/-- What leaves the main thread and the function timer alone, and takes nothing from the queue. -/
theorem ResetInv.extend (inv : ResetInv s) (main : s'.main = s.main)
    (timer : s'.device.timer .sFunctionTimer = s.device.timer .sFunctionTimer)
    (later : s.now ≤ s'.now) (queue : s.queue.items ⊆ s'.queue.items)
    (lost : timerLost s'.log = timerLost s.log) : ResetInv s' := by
  refine ⟨by rw [timer]; exact inv.oneShot, ?_, ?_⟩
  · rw [timer]
    exact fun d scheduled => Nat.le_trans (inv.soon d scheduled) (Nat.add_le_add_right later _)
  · intro isSet
    rw [main] at isSet
    unfold ResetPending
    rw [main, timer, lost]
    rcases inv.armed isSet with start | running | ⟨posted, member, input⟩ | isLost
    · exact Or.inl start
    · exact Or.inr (Or.inl running)
    · exact Or.inr (Or.inr (Or.inl ⟨posted, queue member, input⟩))
    · exact Or.inr (Or.inr (Or.inr isLost))

/-- A post by any other producer. -/
theorem ResetInv.post (inv : ResetInv s) {producer : Producer} {cause : Nat} {event : AppEvent}
    (other : producer ≠ .functionTimer) : ResetInv (postEvent producer cause event s) := by
  apply inv.extend
  · simp
  · simp
  · simp
  · rcases postEvent_cases producer cause event s with ⟨_, items, _⟩ | ⟨_, queue, _⟩
    · rw [items]
      exact List.subset_append_left _ _
    · rw [queue]
      exact List.Subset.refl _
  · exact timerLost_postEvent s cause event other

/-- An occurrence that says nothing about the timer event. -/
theorem ResetInv.note (inv : ResetInv s) {obs : Obs} (silent : ∀ lost, lostAfter lost ⟨s.now, obs⟩ = lost) :
    ResetInv (s.note obs) := by
  apply inv.extend
  · rfl
  · rfl
  · exact Nat.le_refl _
  · exact List.Subset.refl _
  · simp [silent]

/-- A change of the device that leaves the function timer alone. -/
theorem ResetInv.withDevice (inv : ResetInv s) {d : Device}
    (timer : d.timer .sFunctionTimer = s.device.timer .sFunctionTimer) : ResetInv (s.withDevice d) := by
  apply inv.extend
  · rfl
  · exact timer
  · exact Nat.le_refl _
  · exact List.Subset.refl _
  · rfl

/-- The invariant does not speak of `ChipEventHandler`. -/
theorem ResetInv.withChip (inv : ResetInv s) (chip : Prog Call Response Unit) :
    ResetInv { s with chip := chip } :=
  ⟨inv.oneShot, inv.soon, inv.armed⟩

/-- The expiry of another timer. -/
theorem ResetInv.rearm (inv : ResetInv s) {t : TimerId} (other : t ≠ .sFunctionTimer) :
    ResetInv (s.rearm t) := by
  refine (inv.withDevice ?_).note fun lost => rfl
  rw [setTimer_timer, if_neg other.symm]

/-- The expiry of the function timer: its event waits, or is lost. -/
theorem ResetInv.expiry (inv : ResetInv s) :
    ResetInv (postEvent .functionTimer s.log.length timerEvent (s.rearm .sFunctionTimer)) := by
  have stopped : ((s.rearm .sFunctionTimer).device.timer .sFunctionTimer).next = none := by
    simp [SoftTimer.expire, inv.oneShot]
  refine ⟨?_, ?_, fun _ => ?_⟩
  · rw [postEvent_device]
    simpa [SoftTimer.expire] using inv.oneShot
  · rw [postEvent_device, stopped]
    simp
  · rcases postEvent_cases .functionTimer s.log.length timerEvent (s.rearm .sFunctionTimer) with
      ⟨_, items, _⟩ | ⟨_, _, log⟩
    · refine Or.inr (Or.inr (Or.inl ⟨⟨timerEvent, s.log.length⟩, ?_, rfl⟩))
      rw [items]
      simp
    · refine Or.inr (Or.inr (Or.inr ?_))
      rw [log]
      simp [lostAfter]

/-- Taking an event into its handler: one that leaves the reset armed is a push, whose timer is still to be
    started, or no input of the button, and then what the reset waited for is still there. -/
theorem ResetInv.get (inv : ResetInv s) {vars : AppVars} {posted : Posted}
    {queue : BoundedQueue Posted kAppEventQueueSize} (main : s.main = .waiting vars)
    (items : s.queue.items = posted :: queue.items) :
    ResetInv { s with
      queue := queue
      main := .handling posted ((dispatchEvent posted.event).run vars) } := by
  refine ⟨inv.oneShot, inv.soon, fun isSet => ?_⟩
  simp only [function_get] at isSet
  cases input : posted.event.functionInput? with
  | some input' =>
      cases input' with
      | push =>
          refine Or.inl ?_
          rw [outputs_get]
          exact start_mem_iff.mpr input
      | release => simp [functionAfter, input, FunctionInput.next] at isSet
      | timer => simp [functionAfter, input, FunctionInput.next] at isSet
  | none =>
      have wasSet : s.main.function = .factoryReset := by
        simp only [functionAfter, input] at isSet
        rw [main]
        exact isSet
      rcases inv.armed wasSet with start | running | ⟨other, member, timer⟩ | lost
      · simp [main, MainThread.outputs] at start
      · exact Or.inr (Or.inl running)
      · rw [items] at member
        rcases List.mem_cons.mp member with rfl | waits
        · simp [input] at timer
        · exact Or.inr (Or.inr (Or.inl ⟨other, waits, timer⟩))
      · exact Or.inr (Or.inr (Or.inr lost))

/-- Only the release of the button stops the function timer. -/
theorem stop_mem_handlerOutputs {event : AppEvent} {mFunction : FunctionEvent}
    (made : .kTimerStop .sFunctionTimer ∈ handlerOutputs event mFunction) :
    event.functionInput? = some .release := by
  unfold handlerOutputs at made
  cases input : event.functionInput? with
  | some input' => cases input' <;> cases mFunction <;> simp_all [FunctionInput.outputs]
  | none =>
      cases handler : event.handler with
      | none => simp [input, handler] at made
      | some h => cases h <;> simp [input, handler, actuatorOutputs] at made

/-- A call that neither starts nor stops the function timer leaves it alone. -/
theorem effect_functionTimer (now : Nat) {c : Call} (r : Response) (d : Device)
    (noStart : ∀ duration period, c ≠ .kTimerStart .sFunctionTimer duration period)
    (noStop : c ≠ .kTimerStop .sFunctionTimer) :
    (effect now c r d).timer .sFunctionTimer = d.timer .sFunctionTimer := by
  rw [effect_timer]
  cases c with
  | kTimerStart t duration period =>
      have other : TimerId.sFunctionTimer ≠ t := by
        rintro rfl
        exact noStart _ _ rfl
      simp [other]
  | kTimerStop t =>
      have other : TimerId.sFunctionTimer ≠ t := by
        rintro rfl
        exact noStop rfl
      simp [other]
  | _ => rfl

/-- A call of the running handler: the start of the timer is what an armed reset was waiting for, and the
    handler of a release, which alone stops it, leaves no reset armed. -/
theorem ResetInv.call (inv : ResetInv s) {posted : Posted} {c : Call}
    {k : Response → Prog Call Response (Unit × AppVars)} {r : Response} {rest : List Entry}
    (main : s.main = .handling posted (.call c k)) (settled : HandlerSettled s.main)
    (reports : rest = [] ∨ ∃ path value, (∀ e : Actuator, path ≠ e.onOffPath) ∧
      rest = [⟨s.now, .delivered path value⟩]) :
    ResetInv { s with
      main := .handling posted (k r)
      device := effect s.now c r s.device
      log := s.log ++ (⟨s.now, .called posted.cause c r⟩ :: rest) } := by
  obtain ⟨_, function, outputs⟩ := settled_call (main ▸ settled) r
  have wasSet : (MainThread.handling posted (k r)).function = .factoryReset →
      s.main.function = .factoryReset := by
    rw [main, function]
    exact id
  have lost : timerLost (s.log ++ (⟨s.now, .called posted.cause c r⟩ :: rest)) =
      lostAfter (timerLost s.log) ⟨s.now, .called posted.cause c r⟩ := by
    rcases reports with rfl | ⟨path, value, _, rfl⟩ <;> rw [timerLost_append] <;> rfl
  by_cases start : ∃ duration period, c = .kTimerStart .sFunctionTimer duration period
  · obtain ⟨duration, period, rfl⟩ := start
    obtain ⟨rfl, rfl, _⟩ := start_call (main ▸ settled) r
    refine ⟨by simp [effect_timer, SoftTimer.start], ?_, fun _ => Or.inr (Or.inl ?_)⟩
    · simp [effect_timer]
    · simp [effect_timer]
  have noStart : ∀ duration period, c ≠ .kTimerStart .sFunctionTimer duration period :=
    fun duration period same => start ⟨duration, period, same⟩
  by_cases stop : c = .kTimerStop .sFunctionTimer
  · subst stop
    refine ⟨by simpa [effect_timer, SoftTimer.stop] using inv.oneShot, by simp [effect_timer], ?_⟩
    intro isSet
    obtain ⟨_, mFunction, suffix, leaves⟩ := main ▸ settled
    have before := (settled_call (main ▸ settled) r).2.2
    have release := stop_mem_handlerOutputs (suffix.subset (by rw [before]; simp [outputCall?]))
    rw [function, leaves] at isSet
    simp [functionAfter, release, FunctionInput.next] at isSet
  · have timer := effect_functionTimer s.now r s.device noStart stop
    refine ⟨by rw [timer]; exact inv.oneShot, by rw [timer]; exact inv.soon, fun isSet => ?_⟩
    unfold ResetPending
    rw [timer, lost]
    rcases inv.armed (wasSet isSet) with toStart | running | waits | isLost
    · rw [main, outputs, List.mem_append] at toStart
      rcases toStart with own | later
      · exact absurd (eq_of_outputCall? (Option.mem_toList.mp own)) (noStart _ _)
      · exact Or.inl later
    · exact Or.inr (Or.inl running)
    · exact Or.inr (Or.inr (Or.inl waits))
    · refine Or.inr (Or.inr (Or.inr ?_))
      rw [isLost]
      unfold lostAfter
      split
      next posts => simp at posts
      next starts => exact absurd (Obs.called.inj starts).2.1 (noStart _ _)
      next => rfl

/-- Every step keeps the invariant. -/
theorem resetInv_step (settled : HandlerSettled s.main) (inv : ResetInv s)
    (taken : step s a = some s') : ResetInv s' := by
  cases stepEffect taken with
  | elapse duration =>
      apply inv.extend
      · rfl
      · rfl
      · exact Nat.le_add_right _ _
      · exact List.Subset.refl _
      · rfl
  | write path value idle =>
      apply inv.extend
      · rfl
      · simp
      · exact Nat.le_refl _
      · exact List.Subset.refl _
      · simp [lostAfter]
  | loadCallback w e pending load =>
      apply ResetInv.post
      · apply inv.extend
        · rfl
        · rfl
        · exact Nat.le_refl _
        · exact List.Subset.refl _
        · simp [lostAfter]
      · nofun
  | otherCallback w pending other =>
      apply inv.extend
      · rfl
      · rfl
      · exact Nat.le_refl _
      · exact List.Subset.refl _
      · simp [lostAfter]
  | functionExpiry due => exact inv.expiry
  | sensorExpiry due =>
      exact postAll_induction (inv.rearm nofun) fun _ _ _ kept => kept.post nofun
  | feederExpiry due =>
      apply ResetInv.post
      · apply ResetInv.note
        · apply ResetInv.withDevice
          · exact inv.rearm nofun
          · rfl
        · exact fun _ => rfl
      · nofun
  | edge buttonState hasChanged pushed changed level =>
      exact (inv.note fun _ => rfl).post nofun
  | noEdge buttonState hasChanged unchanged => exact inv
  | ledUpdate ledWidget => exact (inv.note fun _ => rfl).post nofun
  | chip event => exact inv.withChip _
  | chipCall access k chip => exact (inv.withDevice (d := access.effect s.device) (by simp)).withChip _
  | get vars posted queue main items => exact inv.get main items
  | call posted c k r rest main reports => exact inv.call main settled reports
  | ret posted u vars main =>
      obtain ⟨done, function⟩ := settled_ret (main ▸ settled)
      refine ⟨inv.oneShot, inv.soon, fun isSet => ?_⟩
      have wasSet : s.main.function = .factoryReset := by
        rw [main, ← function]
        exact isSet
      rcases inv.armed wasSet with start | running | waits | lost
      · simp [main, done] at start
      · exact Or.inr (Or.inl running)
      · exact Or.inr (Or.inr (Or.inl waits))
      · exact Or.inr (Or.inr (Or.inr lost))

theorem resetInv_of_reachable (reached : Reachable s) : ResetInv s := by
  refine reached.invariant_with settled_of_reachable ⟨rfl, ?_, ?_⟩
    fun settled inv _ taken => resetInv_step settled inv taken
  · simp [State.initial, Device.initial, SoftTimer.idle]
  · simp [State.initial, MainThread.function, AppVars.initial]

end Steps

/-- An armed factory reset is pending: in every reachable state in which `mFunction` is, or will be once
    the running handler has returned, `FactoryReset`, the push has still to start the function timer, or
    the timer expires within six seconds, or its event waits, or a full queue dropped the event. -/
theorem armed_reset_pending (s : State) (reached : Reachable s)
    (armed : s.main.function = .factoryReset) :
    .kTimerStart .sFunctionTimer kFactoryResetTriggerTimeout 0 ∈ s.main.outputs ∨
      (∃ d ∈ (s.device.timer .sFunctionTimer).next, d ≤ s.now + kFactoryResetTriggerTimeout) ∨
      (∃ posted ∈ s.queue.items, posted.event.functionInput? = some .timer) ∨
      timerLost s.log = true := by
  have inv := resetInv_of_reachable reached
  rcases inv.armed armed with start | running | waits | lost
  · exact Or.inl start
  · obtain ⟨d, scheduled⟩ := Option.isSome_iff_exists.mp running
    exact Or.inr (Or.inl ⟨d, scheduled, inv.soon d scheduled⟩)
  · exact Or.inr (Or.inr (Or.inl waits))
  · exact Or.inr (Or.inr (Or.inr lost))

/-- The button is pushed and its event handled, up to the return of the handler. -/
def pushHandled : List Action := [.button 1 1, .get, .call default]

/-- `armed_reset_pending` after a push: the timer expires in six seconds. -/
theorem armed_reset_pending_pushHandled :
    ((stateAfter pushHandled).device.timer .sFunctionTimer).next = some 6000 ∧
      (.kTimerStart .sFunctionTimer kFactoryResetTriggerTimeout 0 ∈
          (stateAfter pushHandled).main.outputs ∨
        (∃ d ∈ ((stateAfter pushHandled).device.timer .sFunctionTimer).next,
          d ≤ (stateAfter pushHandled).now + kFactoryResetTriggerTimeout) ∨
        (∃ posted ∈ (stateAfter pushHandled).queue.items,
          posted.event.functionInput? = some .timer) ∨
        timerLost (stateAfter pushHandled).log = true) :=
  ⟨by decide, armed_reset_pending _ (reachable_stateAfter pushHandled) (by decide)⟩

/-! ### The reset of a held button -/

section Fires

variable {s s' : State} {a : Action}

/-- The main thread's steps bring `mFunction` to what was outstanding, and lose no timer event. -/
theorem outstanding_mainStep (settled : HandlerSettled s.main) (ofMain : MainOnly s a)
    (taken : step s a = some s') :
    s'.outstanding = s.outstanding ∧ (timerLost s.log = false → timerLost s'.log = false) := by
  cases stepEffect taken with
  | get vars posted queue main items =>
      refine ⟨?_, id⟩
      simp only [State.outstanding, main, items, Backlog.settle_cons, function_get]
      rfl
  | call posted c k r rest main reports =>
      have function := (settled_call (main ▸ settled) r).2.1
      refine ⟨by simp only [State.outstanding, main, function], fun kept => ?_⟩
      have silent : rest.foldl lostAfter (lostAfter false ⟨s.now, .called posted.cause c r⟩) =
          lostAfter false ⟨s.now, .called posted.cause c r⟩ := by
        rcases reports with rfl | ⟨path, value, _, rfl⟩ <;> rfl
      rw [timerLost_append, kept, List.foldl_cons, silent]
      unfold lostAfter
      split
      next posts => simp at posts
      next => rfl
      next => rfl
  | ret posted u vars main =>
      have function := (settled_ret (main ▸ settled)).2
      refine ⟨?_, id⟩
      simp only [State.outstanding, main, ← function]
      rfl
  | _ => simp [MainOnly, Action.ofMain] at ofMain

/-- The handler of a timer event that finds the reset armed. -/
theorem run_timerEvent {vars : AppVars} (armed : vars.mFunction = .factoryReset) :
    (dispatchEvent timerEvent).run vars =
      .call (.status (.ledSet true)) fun _ => .call (.factoryResetLedsSet true) fun _ =>
        .call .scheduleFactoryReset fun _ => .pure ((), { vars with mFunction := .noneSelected }) := by
  rw [dispatchEvent_some rfl]
  exact run_functionTimerEventHandler_armed vars armed

/-- From an idle state with the reset armed and the timer running, the timer's expiry leads to the reset,
    whatever the SDK answers. -/
theorem reset_run {vars : AppVars} {d : Nat} (main : s.main = .waiting vars)
    (armed : vars.mFunction = .factoryReset) (empty : s.queue.items = [])
    (scheduled : (s.device.timer .sFunctionTimer).next = some d) (r r' r'' : Response) :
    ∃ s', runAll step s [.elapse (d - s.now), .expiry .sFunctionTimer, .get, .call r, .call r',
        .call r'', .ret] = some s' ∧
      ∃ entry ∈ s'.log, entry.obs = .called s.log.length .scheduleFactoryReset r'' := by
  obtain ⟨now, ⟨items, bounded⟩, thread, pending, chip, device, log⟩ := s
  dsimp only at main empty scheduled
  subst main empty
  have due : (device.timer .sFunctionTimer).Due (now + (d - now)) := ⟨d, scheduled, by omega⟩
  have room : 0 < kAppEventQueueSize := by decide
  simp only [runAll, step, due, room, ↓reduceIte, ↓reduceDIte, Option.bind_fun_some, Option.bind_some,
    expire_sFunctionTimer, postEvent, BoundedQueue.put?, BoundedQueue.get?, List.length_nil,
    List.length_cons, List.nil_append, run_timerEvent armed, Device.reply, exec, attributeChange?, rearm_now,
    rearm_queue, rearm_main, rearm_pendingWrite, rearm_device, rearm_log, note_now, note_queue,
    note_main, note_pendingWrite, note_device, note_log, withDevice_now, withDevice_queue,
    withDevice_pendingWrite, withDevice_device, withDevice_log, List.append_assoc, List.cons_append,
    Option.some.injEq, exists_eq_left', List.mem_append, List.mem_cons, List.not_mem_nil, or_false]
  exact ⟨_, Or.inr (Or.inr (Or.inr (Or.inr (Or.inr rfl)))), rfl⟩

end Fires

/-- The button is pushed behind a timer event of the sensors, and not released. -/
def pushedBehindSensors : List Action := [.elapse 5000, .expiry .sSensorTimer, .button 1 1]

end DeviceWifi
