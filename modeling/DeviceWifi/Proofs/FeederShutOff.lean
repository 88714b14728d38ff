/-
Module: DeviceWifi.Proofs.FeederShutOff
Layer: Proofs
Purpose: When a running feeder stops by itself. While the servo runs, either something is pending for the
  feeder or its timer is due two seconds after the latest activation; and a stop that failed is only
  ever followed by the timer's stop when another feeder event waits. Each step that meets
  `ShutOffGuard` keeps this, and in a resting state nothing is pending.
Imports: DeviceWifi.Proofs.Feeder
Trusted boundary: none (fully proved)
Main exports: ShutOffInv, shutOffInv_step, feeder_shuts_off, feeder_shuts_off_fails
Open obligations: none
-/
import DeviceWifi.Proofs.Feeder

namespace DeviceWifi

open Reactive

/-! ### The latest activation -/

section LastFeed

variable {log more : List Entry} {s : State}

/-- Only the start of the feeder's timer ends an activation. -/
theorem lastFeed_append (quiet : ∀ entry ∈ more, entry.feedTime? = none) :
    lastFeed (log ++ more) = lastFeed log := by
  have none : more.filterMap Entry.feedTime? = [] := by
    simpa [List.filterMap_eq_nil_iff] using quiet
  rw [lastFeed, List.filterMap_append, none, List.append_nil]
  rfl

theorem lastFeed_concat (entry : Entry) {t : Nat} (ends : entry.feedTime? = some t) :
    lastFeed (log ++ [entry]) = some t := by
  simp [lastFeed, ends]

@[simp] theorem lastFeed_note (obs : Obs) (quiet : Entry.feedTime? ⟨s.now, obs⟩ = none) :
    lastFeed (s.note obs).log = lastFeed s.log :=
  lastFeed_append fun entry new => by rwa [List.mem_singleton.mp new]

@[simp] theorem lastFeed_postEvent (producer : Producer) (cause : Nat) (event : AppEvent) :
    lastFeed (postEvent producer cause event s).log = lastFeed s.log := by
  rcases postEvent_cases producer cause event s with ⟨_, _, log⟩ | ⟨_, _, log⟩ <;>
    exact log ▸ lastFeed_append fun entry new => by rw [List.mem_singleton.mp new]; rfl

/-- A call that is no feeder call ends no activation. -/
theorem feedTime?_foreign {c : Call} {r : Response} {now cause : Nat}
    (hidden : isFeederCall c = false) : Entry.feedTime? ⟨now, .called cause c r⟩ = none := by
  cases c with
  | kTimerStart t duration period => cases t <;> simp_all [isFeederCall, Entry.feedTime?]
  | _ => rfl

end LastFeed

/-! ### The invariant -/

/-- The invariant of runs whose steps meet `ShutOffGuard`. -/
structure ShutOffInv (s : State) : Prop where
  /-- While the servo runs, the timer is due two seconds after the latest activation, unless something
      is pending for the feeder. -/
  armed : s.device.servo ≠ 0 →
    s.feederPending ∨ ∃ t ∈ lastFeed s.log, t + 2000 ∈ (s.device.timer .sFeederMonoTimer).next
  /-- A handler that is about to stop the timer of a running servo leaves another feeder event. -/
  stopping : s.device.servo ≠ 0 → s.main.feederCalls = [feederTimer false] →
    waiting .feeder s.queue ≠ []

/-- On entry to the loop the servo rests. -/
theorem shutOffInv_initial : ShutOffInv State.initial where
  armed := fun runs => absurd rfl runs
  stopping := fun runs => absurd rfl runs

section Environment

variable {s s' : State}

/-- An action that touches neither the servo, the main thread nor the feeder's timer, records no
    activation and takes nothing from the queue keeps the invariant. -/
theorem ShutOffInv.extend (inv : ShutOffInv s) (servo : s'.device.servo = s.device.servo)
    (main : s'.main = s.main)
    (waits : waiting .feeder s.queue ≠ [] → waiting .feeder s'.queue ≠ [])
    (timer : s'.device.timer .sFeederMonoTimer = s.device.timer .sFeederMonoTimer)
    (feed : lastFeed s'.log = lastFeed s.log) : ShutOffInv s' where
  armed := by
    intro runs
    rw [timer, feed]
    rcases inv.armed (servo ▸ runs) with (waiting | calls) | scheduled
    · exact Or.inl (Or.inl (waits waiting))
    · exact Or.inl (Or.inr (main ▸ calls))
    · exact Or.inr scheduled
  stopping := fun runs last => waits (inv.stopping (servo ▸ runs) (main ▸ last))

/-- Recording an occurrence that is no activation keeps the invariant. -/
theorem ShutOffInv.note (inv : ShutOffInv s) (obs : Obs)
    (quiet : Entry.feedTime? ⟨s.now, obs⟩ = none) : ShutOffInv (s.note obs) :=
  inv.extend rfl rfl id rfl (lastFeed_note obs quiet)

/-- Changing the device outside the feeder keeps the invariant. -/
theorem ShutOffInv.withDevice (inv : ShutOffInv s) {d : Device} (servo : d.servo = s.device.servo)
    (timer : d.timer .sFeederMonoTimer = s.device.timer .sFeederMonoTimer) :
    ShutOffInv (s.withDevice d) :=
  inv.extend servo rfl id timer rfl

/-- The invariant does not speak of `ChipEventHandler`. -/
theorem ShutOffInv.withChip (inv : ShutOffInv s) (chip : Prog Call Response Unit) :
    ShutOffInv { s with chip := chip } :=
  inv.extend rfl rfl id rfl rfl

/-- Posting any event keeps the invariant. -/
theorem ShutOffInv.post (inv : ShutOffInv s) (producer : Producer) (cause : Nat)
    (event : AppEvent) : ShutOffInv (postEvent producer cause event s) := by
  refine inv.extend (by simp) (by simp) (fun waits => ?_) (by simp) (by simp)
  rw [waiting_postEvent]
  exact List.append_ne_nil_of_left_ne_nil waits _

/-- An expiry of another timer keeps the invariant. -/
theorem ShutOffInv.rearm (inv : ShutOffInv s) {t : TimerId} (other : .sFeederMonoTimer ≠ t) :
    ShutOffInv (s.rearm t) :=
  (inv.withDevice (d := s.device.setTimer t (s.device.timer t).expire) rfl
    (by rw [setTimer_timer, if_neg other])).note (.expired t) rfl

/-- An expiry of the feeder's timer keeps the invariant: its event waits, or the queue is full and
    something else is pending. -/
theorem ShutOffInv.expiry (inv : ShutOffInv s)
    (guarded : s.queue.Full → s.device.servo ≠ 0 → s.feederPending) :
    ShutOffInv
      (postEvent (.attributeChange Actuator.feeder.onOffPath 0) s.log.length
        (Actuator.feeder.event false)
        (((s.rearm .sFeederMonoTimer).withDevice
          ((s.rearm .sFeederMonoTimer).device.setAttribute Actuator.feeder.onOffPath 0)).note
          (.delivered Actuator.feeder.onOffPath 0))) := by
  have waits := waiting_postEvent .feeder (.attributeChange Actuator.feeder.onOffPath 0) s.log.length
    (Actuator.feeder.event false) (((s.rearm .sFeederMonoTimer).withDevice
      ((s.rearm .sFeederMonoTimer).device.setAttribute Actuator.feeder.onOffPath 0)).note
      (.delivered Actuator.feeder.onOffPath 0))
  simp only [note_queue, withDevice_queue, rearm_queue, command?_event, if_true,
    Option.toList_some] at waits
  by_cases full : s.queue.Full
  · rw [if_pos full, List.append_nil] at waits
    constructor
    case armed =>
      intro runs
      apply Or.inl
      rw [State.feederPending, waits]
      simpa [State.feederPending] using guarded full (by simpa using runs)
    case stopping =>
      intro runs last
      rw [waits]
      exact inv.stopping (by simpa using runs) (by simpa using last)
  · have some : waiting .feeder s.queue ++ [false] ≠ [] := by simp
    rw [if_neg full] at waits
    exact ⟨fun _ => Or.inl (Or.inl (waits ▸ some)), fun _ _ => waits ▸ some⟩

end Environment

/-! ### The steps of the main thread -/

section Main

variable {s : State} {posted : Posted} {vars : AppVars}

/-- Taking an event into its handler keeps the invariant: what waited for the feeder is in hand. -/
theorem ShutOffInv.get (inv : ShutOffInv s) {queue : BoundedQueue Posted kAppEventQueueSize}
    (main : s.main = .waiting vars) (items : s.queue.items = posted :: queue.items) :
    ShutOffInv { s with
      queue := queue
      main := .handling posted ((dispatchEvent posted.event).run vars) } := by
  constructor
  case armed =>
    intro runs
    rcases inv.armed runs with (waits | ⟨c, made, _⟩) | scheduled
    · cases command : Actuator.feeder.command? posted.event with
      | some on =>
          refine Or.inl (Or.inr ⟨feederDrive on, ?_, by cases on <;> nofun⟩)
          simp [command]
      | none =>
          have same : waiting .feeder s.queue = waiting .feeder queue := by
            simp [waiting, items, command]
          exact Or.inl (Or.inl (same ▸ waits))
    · simp [main] at made
    · exact Or.inr scheduled
  case stopping =>
    intro runs last
    simp only [feederCalls_get] at last
    split at last <;> simp at last

/-- A call outside the feeder keeps the invariant. -/
theorem ShutOffInv.foreign (inv : ShutOffInv s) {c : Call}
    {k : Response → Prog Call Response (Unit × AppVars)} {r : Response}
    (hidden : isFeederCall c = false)
    (same : (MainThread.handling posted (k r)).feederCalls = s.main.feederCalls) :
    ShutOffInv { s with
      main := .handling posted (k r)
      device := effect s.now c r s.device
      log := s.log ++ [⟨s.now, .called posted.cause c r⟩] } := by
  obtain ⟨servo, timer⟩ := effect_foreign s.now r s.device hidden
  have feed : lastFeed (s.log ++ [⟨s.now, .called posted.cause c r⟩]) = lastFeed s.log :=
    lastFeed_append fun entry new => by
      rw [List.mem_singleton.mp new]
      exact feedTime?_foreign hidden
  constructor
  case armed =>
    intro runs
    simp only [timer, feed, State.feederPending, same]
    exact inv.armed (servo ▸ runs)
  case stopping => exact fun runs last => inv.stopping (servo ▸ runs) (same ▸ last)

/-- A call on the servo keeps the invariant: an activation has still to start the timer, and after a stop
    that failed another feeder event waits. -/
theorem ShutOffInv.drive {on : Bool}
    {k : Response → Prog Call Response (Unit × AppVars)} {r : Response} {more : List Entry}
    (guarded : on = false → r.rc ≠ 0 → s.device.servo ≠ 0 → waiting .feeder s.queue ≠ [])
    (one : (MainThread.handling posted (k r)).feederCalls = [feederTimer on]) :
    ShutOffInv { s with
      main := .handling posted (k r)
      device := effect s.now (feederDrive on) r s.device
      log := s.log ++ more } := by
  cases on with
  | true =>
      constructor
      case armed => exact fun _ => Or.inl (Or.inr ⟨feederTimer true, by simp [one], nofun⟩)
      case stopping =>
        intro _ last
        simp [one, feederTimer] at last
  | false =>
      have waits (runs : (effect s.now (feederDrive false) r s.device).servo ≠ 0) :
          waiting .feeder s.queue ≠ [] := by
        simp only [effect_servo, feederDrive] at runs
        split at runs
        · simp at runs
        next failed => exact guarded rfl failed runs
      exact ⟨fun runs => Or.inl (Or.inl (waits runs)), fun runs _ => waits runs⟩

/-- A call on the feeder's timer keeps the invariant: an activation arms it for two seconds, and where a
    stop leaves the servo running another feeder event waits. -/
theorem ShutOffInv.timer (inv : ShutOffInv s) {on : Bool}
    {k : Response → Prog Call Response (Unit × AppVars)} {r : Response}
    (one : s.main.feederCalls = [feederTimer on])
    (done : (MainThread.handling posted (k r)).feederCalls = []) :
    ShutOffInv { s with
      main := .handling posted (k r)
      device := effect s.now (feederTimer on) r s.device
      log := s.log ++ [⟨s.now, .called posted.cause (feederTimer on) r⟩] } := by
  have servo : (effect s.now (feederTimer on) r s.device).servo = s.device.servo := by
    rw [effect_servo]
    cases on <;> rfl
  constructor
  case armed =>
    intro runs
    cases on with
    | true =>
        refine Or.inr ⟨s.now, ?_, by simp [effect_timer, feederTimer]⟩
        rw [lastFeed_concat _ rfl]
        rfl
    | false => exact Or.inl (Or.inl (inv.stopping (servo ▸ runs) one))
  case stopping =>
    intro _ last
    simp [done] at last

/-- A call of the running handler keeps the invariant if, where it is a stop that fails on a running
    servo, another feeder event waits. -/
theorem ShutOffInv.call (inv : ShutOffInv s) {c : Call}
    {k : Response → Prog Call Response (Unit × AppVars)} {r : Response} {rest : List Entry}
    (main : s.main = .handling posted (.call c k)) (settled : HandlerSettled s.main)
    (guarded : Actuator.feeder.driven c = some false → r.rc ≠ 0 → s.device.servo ≠ 0 →
      waiting .feeder s.queue ≠ [])
    (quiet : ∀ entry ∈ rest, entry.feedTime? = none) :
    ShutOffInv { s with
      main := .handling posted (k r)
      device := effect s.now c r s.device
      log := s.log ++ (⟨s.now, .called posted.cause c r⟩ :: rest) } := by
  have made : ShutOffInv { s with
      main := .handling posted (k r)
      device := effect s.now c r s.device
      log := s.log ++ [⟨s.now, .called posted.cause c r⟩] } := by
    cases feederCallStep (main ▸ settled) r with
    | foreign hidden same => exact inv.foreign hidden (main ▸ same)
    | drive on command made both one =>
        subst made
        apply ShutOffInv.drive _ one
        rintro rfl
        exact guarded (by decide)
    | timer on command made one done =>
        subst made
        exact inv.timer (main ▸ one) done
  refine made.extend rfl rfl id rfl ?_
  rw [List.append_cons]
  exact lastFeed_append quiet

/-- A handler that returns keeps the invariant. -/
theorem ShutOffInv.ret (inv : ShutOffInv s) {u : Unit}
    (main : s.main = .handling posted (.pure (u, vars))) (settled : HandlerSettled s.main) :
    ShutOffInv { s with main := .waiting vars } := by
  have done : s.main.feederCalls = [] := by rw [main, feederCalls_ret (main ▸ settled)]
  constructor
  case armed =>
    intro runs
    have armed := inv.armed runs
    rwa [State.feederPending, done] at armed
  case stopping =>
    intro runs last
    simp at last

end Main

/-! ### Whole runs -/

/-- Every step that meets the guard keeps the invariant. -/
theorem shutOffInv_step {s s' : State} {a : Action} (settled : HandlerSettled s.main)
    (inv : ShutOffInv s) (guarded : ShutOffGuard s a) (taken : step s a = some s') :
    ShutOffInv s' := by
  cases stepEffect taken with
  | elapse duration => exact inv.extend rfl rfl id rfl rfl
  | write path value idle =>
      have stored : ShutOffInv { s with
          device := s.device.setAttribute path value
          pendingWrite := some ⟨path, value, s.log.length⟩ } := inv.extend rfl rfl id rfl rfl
      exact stored.note (.written path value) rfl
  | loadCallback w e pending load =>
      have idle : ShutOffInv { s with pendingWrite := none } := inv.extend rfl rfl id rfl rfl
      exact (idle.note (.delivered e.onOffPath w.value) rfl).post _ _ _
  | otherCallback w pending other =>
      have idle : ShutOffInv { s with pendingWrite := none } := inv.extend rfl rfl id rfl rfl
      exact idle.note (.delivered w.path w.value) rfl
  | functionExpiry due =>
      have rearmed : ShutOffInv (s.rearm .sFunctionTimer) := inv.rearm nofun
      exact rearmed.post _ _ _
  | sensorExpiry due =>
      have rearmed : ShutOffInv (s.rearm .sSensorTimer) := inv.rearm nofun
      exact postAll_induction (I := ShutOffInv) rearmed fun t event _ inv' => inv'.post _ _ event
  | feederExpiry due => exact inv.expiry (guarded.1 rfl)
  | edge buttonState hasChanged pushed changed level => exact (inv.note (.edge pushed) rfl).post _ _ _
  | noEdge buttonState hasChanged unchanged => exact inv
  | ledUpdate ledWidget => exact (inv.note (.ledUpdate ledWidget) rfl).post _ _ _
  | chip event => exact inv.withChip _
  | chipCall access k chip =>
      exact (inv.withDevice (d := access.effect s.device) (by simp) (by simp)).withChip _
  | get vars posted queue main items => exact inv.get main items
  | call posted c k r rest main reports response replied =>
      refine inv.call main settled (fun drives failed runs => ?_) fun entry new => ?_
      · rw [replied, reply_of_driven s.device response drives] at failed
        refine guarded.2 ?_ (by simpa [Action.fails] using failed) runs
        simpa [State.executes, main] using drives
      · rcases reports with rfl | ⟨path, value, _, rfl⟩
        · exact absurd new List.not_mem_nil
        · rw [List.mem_singleton.mp new]
          rfl
  | ret posted u vars main => exact inv.ret main settled

/-- The feeder stops by itself: in every run whose steps meet `ShutOffGuard`, a servo that runs while the
    main loop rests and no timer is due was activated less than two seconds ago. -/
theorem feeder_shuts_off (s : State) (reached : ReachableWhen ShutOffGuard s) (idle : Idle s)
    (delivered : ∀ t, ¬ (s.device.timer t).Due s.now) : FeederShutOff s := by
  have inv : ShutOffInv s := reached.invariant_with (I := ShutOffInv)
    (fun run => settled_of_reachable (ReachableWhen.reachable run)) shutOffInv_initial
    fun settled inv guarded taken => shutOffInv_step settled inv guarded taken
  obtain ⟨empty, vars, main⟩ := idle
  intro runs
  rcases inv.armed runs with (waits | ⟨c, made, _⟩) | ⟨t, activated, scheduled⟩
  · simp [waiting, empty] at waits
  · simp [main] at made
  · refine ⟨t, activated, Nat.lt_of_not_le fun late => ?_⟩
    exact delivered .sFeederMonoTimer ⟨t + 2000, scheduled, late⟩

/-- The feeder is switched on, and 1999 ms pass. -/
def feeding : List Action :=
  [.write Actuator.feeder.onOffPath 1, .callback, .get, .call default, .call default, .ret,
    .elapse 1999]

/-- The hypotheses of `feeder_shuts_off` are met while the servo runs. -/
theorem feeder_shuts_off_feeding :
    FeederShutOff (stateAfter feeding) ∧ (stateAfter feeding).device.servo ≠ 0 := by
  have guarded : Along step ShutOffGuard State.initial feeding := by decide
  refine ⟨feeder_shuts_off _ (reachableWhen_stateAfter guarded) ⟨by decide, _, rfl⟩ ?_, by decide⟩
  intro t
  cases t <;> decide

/-- The feeder is switched on; its timer expires after two seconds, and while the event is handled
    `pwm_set_pulse_dt` fails. -/
def stopFails : List Action :=
  [.write Actuator.feeder.onOffPath 1, .callback, .get, .call default, .call default, .ret,
    .elapse 2000, .expiry .sFeederMonoTimer, .get, .call ⟨-5, default⟩, .call default, .ret]

/-- A running feeder does not always stop by itself: the failed PWM call is ignored and the timer
    stopped. -/
theorem feeder_shuts_off_fails :
    ¬ ∀ s, Reachable s → Idle s → (∀ t, ¬ (s.device.timer t).Due s.now) → FeederShutOff s := by
  intro stops
  have off : FeederShutOff (stateAfter stopFails) := by
    apply stops _ (reachable_stateAfter _) ⟨by decide, _, rfl⟩
    intro t
    cases t <;> decide
  exact absurd off (by decide)

end DeviceWifi
