/-
Module: DeviceWifi.Proofs.Feeder
Layer: Proofs
Purpose: The feeder calls of the main thread, and the servo against its attribute. A feeder event makes two
  feeder calls, the PWM call and then the timer call; nothing else makes any. With every PWM call
  succeeding the servo follows the commands executed on it. The stored attribute is the last one accepted
  unless a write is under way, and stays so while no expiry comes between a store and its callback.
Imports: DeviceWifi.Spec.Feeder, DeviceWifi.Proofs.Pipeline
Trusted boundary: none (fully proved)
Main exports: feederCalls_get, feederCallStep, servo_ne_zero_iff, feeder_agrees, feeder_agrees_fails
Open obligations: none
-/
import DeviceWifi.Spec.Feeder
import DeviceWifi.Proofs.Pipeline

namespace DeviceWifi

open Reactive

/-! ### The feeder calls of a handler -/

/-- Handling an event makes feeder calls only if it is a feeder event: its PWM call, then its timer
    call. -/
theorem filter_isFeederCall_handlerOutputs (event : AppEvent) (mFunction : FunctionEvent) :
    (handlerOutputs event mFunction).filter isFeederCall =
      match Actuator.feeder.command? event with
      | some on => [feederDrive on, feederTimer on]
      | none => [] := by
  unfold handlerOutputs
  cases input : event.functionInput? with
  | some input' =>
      have silent : Actuator.feeder.command? event = none := by
        unfold AppEvent.functionInput? at input
        unfold Actuator.command?
        split at input <;> simp_all [Actuator.event]
      rw [silent]
      cases input' <;> cases mFunction <;> rfl
  | none =>
      cases handler : event.handler with
      | none => simp [Actuator.command?, handler, Actuator.event]
      | some h =>
          simp only [Actuator.command?, handler, Option.map_some, Option.getD_some]
          cases h <;> rfl

section Calls

variable {posted : Posted} {vars : AppVars}

@[simp] theorem feederCalls_waiting : (MainThread.waiting vars).feederCalls = [] := rfl

/-- Entering a handler: its feeder calls are those of the event. -/
@[simp] theorem feederCalls_get :
    (MainThread.handling posted ((dispatchEvent posted.event).run vars)).feederCalls =
      match Actuator.feeder.command? posted.event with
      | some on => [feederDrive on, feederTimer on]
      | none => [] := by
  rw [MainThread.feederCalls, outputs_get, filter_isFeederCall_handlerOutputs]

/-- A handler that returns has no feeder call left. -/
theorem feederCalls_ret {u : Unit} (settled : HandlerSettled (.handling posted (.pure (u, vars)))) :
    (MainThread.handling posted (.pure (u, vars))).feederCalls = [] := by
  rw [MainThread.feederCalls, (settled_ret settled).1, List.filter_nil]

/-- What a call of a handler is to the feeder: nothing, the PWM call of a feeder event, or its timer
    call, with the feeder calls to come before and after it. -/
inductive FeederCallStep (event : AppEvent) (c : Call) (before after : List Call) : Prop where
  | foreign (hidden : isFeederCall c = false) (same : after = before)
  | drive (on : Bool) (command : Actuator.feeder.command? event = some on) (made : c = feederDrive on)
      (both : before = [feederDrive on, feederTimer on]) (one : after = [feederTimer on])
  | timer (on : Bool) (command : Actuator.feeder.command? event = some on) (made : c = feederTimer on)
      (one : before = [feederTimer on]) (none : after = [])

/-- The feeder calls before a call are the call's own and those after it. -/
theorem feederCalls_call {c : Call} {k : Response → Prog Call Response (Unit × AppVars)}
    (settled : HandlerSettled (.handling posted (.call c k))) (r : Response) :
    (MainThread.handling posted (.call c k)).feederCalls =
      [c].filter isFeederCall ++ (MainThread.handling posted (k r)).feederCalls := by
  have own : (outputCall? c).toList.filter isFeederCall = [c].filter isFeederCall := by
    cases c <;> rfl
  rw [MainThread.feederCalls, (settled_call settled r).2.2, List.filter_append, own]
  rfl

/-- A main thread that still has feeder calls to make is in the handler of a feeder event. -/
theorem feederCalls_cases {main : MainThread} (settled : HandlerSettled main) :
    main.feederCalls = [] ∨ ∃ posted rest on, main = .handling posted rest ∧
      Actuator.feeder.command? posted.event = some on ∧
      (main.feederCalls = [feederDrive on, feederTimer on] ∨
        main.feederCalls = [feederTimer on]) := by
  cases main with
  | waiting vars => exact Or.inl rfl
  | handling posted rest =>
      obtain ⟨mFunction, suffix, _⟩ := settled.2
      have ofEvent : (MainThread.handling posted rest).feederCalls <:+
          (handlerOutputs posted.event mFunction).filter isFeederCall := suffix.filter _
      rw [filter_isFeederCall_handlerOutputs] at ofEvent
      cases command : Actuator.feeder.command? posted.event with
      | none => exact Or.inl (by simpa [command] using ofEvent)
      | some on =>
          simp only [command, List.suffix_cons_iff, List.suffix_nil] at ofEvent
          rcases ofEvent with both | one | none
          · exact Or.inr ⟨posted, rest, on, rfl, command, Or.inl both⟩
          · exact Or.inr ⟨posted, rest, on, rfl, command, Or.inr one⟩
          · exact Or.inl none

/-- Every call of a running handler is one of the three. -/
theorem feederCallStep {c : Call} {k : Response → Prog Call Response (Unit × AppVars)}
    (settled : HandlerSettled (.handling posted (.call c k))) (r : Response) :
    FeederCallStep posted.event c (MainThread.handling posted (.call c k)).feederCalls
      (MainThread.handling posted (k r)).feederCalls := by
  have split := feederCalls_call settled r
  cases own : isFeederCall c with
  | false => exact .foreign own (by simpa [own] using split.symm)
  | true =>
      rw [List.filter_cons_of_pos own, List.filter_nil, List.singleton_append] at split
      rcases feederCalls_cases settled with none | ⟨_, _, on, running, command, both | one⟩
      · simp [none] at split
      · obtain ⟨rfl, rfl⟩ := MainThread.handling.inj running
        obtain ⟨rfl, rest⟩ := List.cons.inj (split.symm.trans both)
        exact .drive on command rfl both rest
      · obtain ⟨rfl, rfl⟩ := MainThread.handling.inj running
        obtain ⟨rfl, rest⟩ := List.cons.inj (split.symm.trans one)
        exact .timer on command rfl one rest

end Calls

/-- A call that is no feeder call touches neither the servo nor the feeder's timer. -/
theorem effect_foreign {c : Call} (now : Nat) (r : Response) (d : Device)
    (hidden : isFeederCall c = false) :
    (effect now c r d).servo = d.servo ∧
      (effect now c r d).timer .sFeederMonoTimer = d.timer .sFeederMonoTimer := by
  rw [effect_servo, effect_timer]
  cases c with
  | pwmSetPulseDt width => simp [isFeederCall] at hidden
  | kTimerStart t duration period => cases t <;> simp_all [isFeederCall]
  | kTimerStop t => cases t <;> simp_all [isFeederCall]
  | _ => exact ⟨rfl, rfl⟩

/-! ### The servo follows the commands executed on it -/

theorem PwmSucceeds.of_prefix {log log' : List Entry} (succeeds : PwmSucceeds log')
    (grown : log <+: log') : PwmSucceeds log :=
  fun entry member => succeeds entry (grown.subset member)

theorem NoPutFails.of_prefix {log log' : List Entry} (noFail : NoPutFails log')
    (grown : log <+: log') : NoPutFails log :=
  fun entry member => noFail entry (grown.subset member)

section Servo

variable {s s' : State} {a : Action}

/-- One step keeps the servo with the last command executed on it. -/
theorem servo_step (settled : HandlerSettled s.main) (succeeds : PwmSucceeds s'.log)
    (taken : step s a = some s')
    (follows : s.device.servo ≠ 0 ↔ latest (executed .feeder s.log) = true) :
    s'.device.servo ≠ 0 ↔ latest (executed .feeder s'.log) = true := by
  rw [executed_step taken]
  cases stepEffect taken with
  | call posted c k r rest main reports response =>
      have drives : s.executes .feeder (.call response) = Actuator.feeder.driven c := by
        simp [State.executes, main]
      rw [drives]
      simp only [effect_servo]
      cases feederCallStep (main ▸ settled) r with
      | foreign hidden same =>
          cases c with
          | pwmSetPulseDt width => simp [isFeederCall] at hidden
          | _ => simp [Actuator.driven, Actuator.relay?, follows]
      | drive on command made both one =>
          subst made
          have success : r.rc = 0 := by
            have passed := succeeds ⟨s.now, .called posted.cause (feederDrive on) r⟩
              (List.mem_append_right _ (List.mem_cons_self ..))
            simpa [Obs.pwmFailed, feederDrive] using passed
          cases on <;> simp [feederDrive, Actuator.driven, success, pulse]
      | timer on command made one none =>
          subst made
          cases on <;> simp [feederTimer, Actuator.driven, follows]
  | _ => simpa [State.executes] using follows

/-- Where every `pwm_set_pulse_dt` succeeds, the servo runs exactly when the last command executed on it
    was on. -/
theorem servo_ne_zero_iff (reached : Reachable s) (succeeds : PwmSucceeds s.log) :
    s.device.servo ≠ 0 ↔ latest (executed .feeder s.log) = true := by
  refine reached.invariant_with (I := fun s => PwmSucceeds s.log →
    (s.device.servo ≠ 0 ↔ latest (executed .feeder s.log) = true)) settled_of_reachable
    (fun _ => by decide) (fun settled follows _ taken succeeds => ?_) succeeds
  exact servo_step settled succeeds taken
    (follows (succeeds.of_prefix (log_prefix_of_step taken)))

end Servo

/-! ### The stored attribute -/

/-- The OnOff value of endpoint 6 that the producers have issued last: that of a write under way, or
    else the last one accepted. -/
def State.issued (s : State) : Bool :=
  match s.pendingWrite with
  | some w =>
      if w.path = Actuator.feeder.onOffPath then isOn w.value else latest (accepted .feeder s.log)
  | none => latest (accepted .feeder s.log)

section Attribute

variable {s s' : State} {a : Action}

/-- An action that neither stores the attribute nor issues a value keeps the two equal. -/
theorem stored_quiet (stored : isOn (s.device.attributes Actuator.feeder.onOffPath) = s.issued)
    (untouched : s'.device.attributes Actuator.feeder.onOffPath =
      s.device.attributes Actuator.feeder.onOffPath)
    (pending : s'.pendingWrite = s.pendingWrite)
    (accepts : accepted .feeder s'.log = accepted .feeder s.log) :
    isOn (s'.device.attributes Actuator.feeder.onOffPath) = s'.issued := by
  rw [untouched, stored]
  simp only [State.issued, pending, accepts]

/-- A post that is not refused met a queue with room. -/
theorem NoPutFails.room {producer : Producer} {cause : Nat} {event : AppEvent}
    (noFail : NoPutFails (postEvent producer cause event s).log) : ¬ s.queue.Full := by
  intro full
  rcases postEvent_cases producer cause event s with ⟨room, _, _⟩ | ⟨_, _, log⟩
  · exact room full
  · have refused := noFail ⟨s.now, .posted producer event false⟩
      (log ▸ List.mem_append_right _ (List.mem_singleton_self _))
    simp [Obs.putFailed] at refused

/-- One step keeps the stored attribute at the value issued last. -/
theorem stored_step (guarded : WritersGuard s a) (noFail : NoPutFails s'.log)
    (taken : step s a = some s')
    (stored : isOn (s.device.attributes Actuator.feeder.onOffPath) = s.issued) :
    isOn (s'.device.attributes Actuator.feeder.onOffPath) = s'.issued := by
  have accepts := accepted_step (e := .feeder) taken
  cases stepEffect taken with
  | write path value idle =>
      by_cases own : path = Actuator.feeder.onOffPath
      · simp [State.issued, own]
      · have foreign : Actuator.feeder.onOffPath ≠ path := fun same => own same.symm
        simpa [State.issued, idle, own, foreign, Actuator.acceptedIn] using stored
  | loadCallback w e pending load =>
      have room : ¬ s.queue.Full := noFail.room
      rw [State.admitted, offered_loadCallback .feeder pending load] at accepts
      simp only [State.issued, pending, load, onOffPath_eq_iff] at stored
      simp only [State.issued, postEvent_pendingWrite, note_pendingWrite, postEvent_device,
        note_device, accepts]
      by_cases own : e = .feeder <;> simpa [own, room] using stored
  | otherCallback w pending other =>
      simpa [State.issued, pending, other .feeder, Actuator.acceptedIn] using stored
  | feederExpiry due =>
      -- the expiry stores and posts false; a write under way must not say otherwise
      have room : ¬ s.queue.Full := noFail.room
      rw [State.admitted, offered_feederExpiry] at accepts
      simp only [State.issued, postEvent_pendingWrite, note_pendingWrite, withDevice_pendingWrite,
        rearm_pendingWrite, postEvent_device, note_device, withDevice_device,
        setAttribute_attributes, if_true, accepts]
      cases pending : s.pendingWrite with
      | none => simp [room, isOn]
      | some w =>
          by_cases own : w.path = Actuator.feeder.onOffPath
          · simp only [own, if_true]
            rw [guarded rfl w pending own]
            rfl
          · simp [own, room, isOn]
  | get vars posted queue main items => exact stored
  | ret posted u vars main => exact stored
  | elapse duration => exact stored
  | noEdge buttonState hasChanged unchanged => exact stored
  | chip event => exact stored
  | chipCall access k chip => exact stored_quiet stored (by simp) rfl rfl
  | call posted c k r rest main reports =>
      exact stored_quiet stored (by simp) rfl
        (by simpa [State.admitted, State.offered] using accepts)
  | _ =>
      exact stored_quiet stored (by simp) (by simp)
        (by simpa [State.admitted, State.offered] using accepts)

/-- In a run that keeps the order of stores and posts and refuses no event, the stored attribute is the
    value issued last. -/
theorem stored_eq_issued (reached : ReachableWhen WritersGuard s) (noFail : NoPutFails s.log) :
    isOn (s.device.attributes Actuator.feeder.onOffPath) = s.issued := by
  refine reached.invariant (I := fun s => NoPutFails s.log →
    isOn (s.device.attributes Actuator.feeder.onOffPath) = s.issued)
    (fun _ => by decide) (fun stored guarded taken noFail => ?_) noFail
  exact stored_step guarded noFail taken (stored (noFail.of_prefix (log_prefix_of_step taken)))

end Attribute

/-- The feeder agrees with its attribute in every resting state of a run that refuses no event, in which
    every `pwm_set_pulse_dt` succeeds, and whose steps all meet `WritersGuard`. -/
theorem feeder_agrees (s : State) (reached : ReachableWhen WritersGuard s)
    (noFail : NoPutFails s.log) (succeeds : PwmSucceeds s.log) (rests : Quiescent s) :
    FeederAgrees s := by
  have stored := stored_eq_issued reached noFail
  have runs := servo_ne_zero_iff reached.reachable succeeds
  simp only [State.issued, rests.2] at stored
  rw [FeederAgrees, stored, runs, executed_of_idle reached.reachable rests.1]

/-- The feeder is switched on and runs; two seconds later its timer expires, and the stop is handled. -/
def feedOnce : List Action :=
  [.write Actuator.feeder.onOffPath 1, .callback, .get, .call default, .call default, .ret,
    .elapse 2000, .expiry .sFeederMonoTimer, .get, .call default, .call default, .ret]

/-- The hypotheses of `feeder_agrees` are met by a run that feeds once. -/
theorem feeder_agrees_feedOnce : FeederAgrees (stateAfter feedOnce) := by
  have guarded : Along step WritersGuard State.initial feedOnce := by decide
  have rests : Quiescent (stateAfter feedOnce) := ⟨⟨by decide, _, rfl⟩, by decide⟩
  exact feeder_agrees _ (reachableWhen_stateAfter guarded) (by decide) (by decide) rests

/-- The feeder runs, and its timer expires between the store and the callback of a second on command;
    then both events are handled. -/
def expiryInsideWrite : List Action :=
  [.write Actuator.feeder.onOffPath 1, .callback, .get, .call default, .call default, .ret,
    .elapse 2000, .write Actuator.feeder.onOffPath 1, .expiry .sFeederMonoTimer, .callback,
    .get, .call default, .call default, .ret, .get, .call default, .call default, .ret]

/-- The feeder does not agree with its attribute in every resting state: the expiry stores false after
    the on command stored true, but their events are queued the other way round. -/
theorem feeder_agrees_fails :
    ¬ ∀ s, Reachable s → NoPutFails s.log → PwmSucceeds s.log → Quiescent s → FeederAgrees s := by
  intro agree
  have rests : Quiescent (stateAfter expiryInsideWrite) := ⟨⟨by decide, _, rfl⟩, by decide⟩
  have agrees := agree _ (reachable_stateAfter _) (by decide +kernel) (by decide +kernel) rests
  exact absurd agrees (by decide +kernel)

end DeviceWifi
