/-
Module: DeviceWifi.Proofs.FeederArmed
Layer: Proofs
Purpose: A running feeder has a stop still armed. A feeder handler drives the servo first and starts or
  stops the timer afterwards; between the two calls the servo already follows the command, and outside
  them the servo and the timer run together. No expiry stops the timer, since its period is not zero, so
  it does not matter whether the event of an expiry is queued or dropped.
Imports: DeviceWifi.Proofs.Feeder
Trusted boundary: none (fully proved)
Main exports: ArmedInv, armedInv_step, feeder_armed
Open obligations: none
-/
import DeviceWifi.Proofs.Feeder

namespace DeviceWifi

open Reactive

/-- The invariant of runs in which every `pwm_set_pulse_dt` succeeds. -/
structure ArmedInv (s : State) : Prop where
  /-- A running feeder timer is periodic. -/
  periodic : (s.device.timer .sFeederMonoTimer).Running →
    (s.device.timer .sFeederMonoTimer).period ≠ 0
  /-- Unless only the timer call of a handler is to come, the servo runs exactly while the timer does. -/
  armed : (∀ on, s.main.feederCalls ≠ [feederTimer on]) → FeederArmed s
  /-- Before the timer call of a handler the servo follows the command in hand. -/
  driven : ∀ on, s.main.feederCalls = [feederTimer on] → (s.device.servo ≠ 0 ↔ on = true)

/-- On entry to the loop the servo and the timer rest. -/
theorem armedInv_initial : ArmedInv State.initial where
  periodic := fun running => absurd running (by decide)
  armed := fun _ => by decide
  driven := fun _ last => by simp [State.initial] at last

section Steps

variable {s s' : State} {a : Action} {posted : Posted} {vars : AppVars}

/-- An action that leaves the servo and the feeder calls alone and neither starts nor stops the feeder's
    timer keeps the invariant. -/
theorem ArmedInv.extend (inv : ArmedInv s) (servo : s'.device.servo = s.device.servo)
    (calls : s'.main.feederCalls = s.main.feederCalls)
    (running : (s'.device.timer .sFeederMonoTimer).Running ↔
      (s.device.timer .sFeederMonoTimer).Running)
    (period : (s'.device.timer .sFeederMonoTimer).period =
      (s.device.timer .sFeederMonoTimer).period) : ArmedInv s' := by
  constructor
  case periodic =>
    rw [running, period]
    exact inv.periodic
  case armed =>
    rw [calls, FeederArmed, servo, running]
    exact inv.armed
  case driven =>
    rw [calls, servo]
    exact inv.driven

/-- The same where the feeder's timer is not touched at all. -/
theorem ArmedInv.frame (inv : ArmedInv s) (servo : s'.device.servo = s.device.servo)
    (calls : s'.main.feederCalls = s.main.feederCalls)
    (timer : s'.device.timer .sFeederMonoTimer = s.device.timer .sFeederMonoTimer) : ArmedInv s' :=
  inv.extend servo calls (by rw [timer]) (by rw [timer])

/-- An expiry of the feeder's timer keeps the invariant, whatever becomes of its event. -/
theorem ArmedInv.expiry (inv : ArmedInv s) :
    ArmedInv
      (postEvent (.attributeChange Actuator.feeder.onOffPath 0) s.log.length
        (Actuator.feeder.event false)
        (((s.rearm .sFeederMonoTimer).withDevice
          ((s.rearm .sFeederMonoTimer).device.setAttribute Actuator.feeder.onOffPath 0)).note
          (.delivered Actuator.feeder.onOffPath 0))) := by
  apply inv.extend
  · simp
  · simp
  · simpa using SoftTimer.expire_running_iff inv.periodic
  · simp [SoftTimer.expire]

/-- Taking an event into its handler keeps the invariant: its timer call comes after its PWM call. -/
theorem ArmedInv.get (inv : ArmedInv s) {queue : BoundedQueue Posted kAppEventQueueSize}
    (main : s.main = .waiting vars) :
    ArmedInv { s with
      queue := queue
      main := .handling posted ((dispatchEvent posted.event).run vars) } := by
  have armed : FeederArmed s := inv.armed (by simp [main])
  constructor
  case periodic => exact inv.periodic
  case armed => exact fun _ => armed
  case driven =>
    intro on last
    rw [feederCalls_get] at last
    split at last <;> simp at last

/-- A call of the running handler keeps the invariant, if a call on the servo succeeds. -/
theorem ArmedInv.call (inv : ArmedInv s) {c : Call}
    {k : Response → Prog Call Response (Unit × AppVars)} {r : Response} {more : List Entry}
    (main : s.main = .handling posted (.call c k)) (settled : HandlerSettled s.main)
    (success : Obs.pwmFailed (.called posted.cause c r) = false) :
    ArmedInv { s with
      main := .handling posted (k r)
      device := effect s.now c r s.device
      log := s.log ++ more } := by
  cases feederCallStep (main ▸ settled) r with
  | foreign hidden same =>
      obtain ⟨servo, timer⟩ := effect_foreign s.now r s.device hidden
      exact inv.frame servo (main ▸ same) timer
  | drive on command made both one =>
      subst made
      have passed : r.rc = 0 := by simpa [Obs.pwmFailed, feederDrive] using success
      have timer : (effect s.now (feederDrive on) r s.device).timer .sFeederMonoTimer =
          s.device.timer .sFeederMonoTimer := by rw [effect_timer]; rfl
      constructor
      case periodic =>
        rw [timer]
        exact inv.periodic
      case armed => exact fun notLast => absurd one (notLast on)
      case driven =>
        intro on' last
        have same : on' = on := by
          rw [one] at last
          cases on <;> cases on' <;> simp_all [feederTimer]
        rw [same, effect_servo]
        cases on <;> simp [feederDrive, passed, pulse]
  | timer on command made one none =>
      subst made
      have follows := inv.driven on (main ▸ one)
      have servo : (effect s.now (feederTimer on) r s.device).servo = s.device.servo := by
        rw [effect_servo]
        cases on <;> rfl
      have timer : (effect s.now (feederTimer on) r s.device).timer .sFeederMonoTimer =
          if on then .start s.now 2000 200000 else (s.device.timer .sFeederMonoTimer).stop := by
        rw [effect_timer]
        cases on <;> rfl
      constructor
      case periodic =>
        rw [timer]
        cases on with
        | true => simp [SoftTimer.start]
        | false => exact fun running => absurd running (SoftTimer.not_stop_running _)
      case armed =>
        intro _
        rw [FeederArmed, servo, follows, timer]
        cases on <;> simp
      case driven =>
        intro on' last
        simp [none] at last

/-- Every step after which every `pwm_set_pulse_dt` has succeeded keeps the invariant. -/
theorem armedInv_step (settled : HandlerSettled s.main) (succeeds : PwmSucceeds s'.log)
    (inv : ArmedInv s) (taken : step s a = some s') : ArmedInv s' := by
  cases stepEffect taken with
  | feederExpiry due => exact inv.expiry
  | get vars posted queue main items => exact inv.get main
  | call posted c k r rest main reports =>
      apply inv.call main settled
      exact succeeds ⟨s.now, .called posted.cause c r⟩
        (List.mem_append_right _ (List.mem_cons_self ..))
  | ret posted u vars main =>
      have done : s.main.feederCalls = [] := by rw [main, feederCalls_ret (main ▸ settled)]
      exact inv.frame rfl done.symm rfl
  | _ => exact inv.frame (by simp) (by simp) (by simp)

end Steps

/-- A running feeder always has a stop still armed: in every run in which every `pwm_set_pulse_dt`
    succeeds, whenever no handler runs the servo has pulses exactly while the monostable timer runs, no
    matter which events were dropped. -/
theorem feeder_armed (s : State) (reached : Reachable s) (succeeds : PwmSucceeds s.log)
    (waits : ∃ vars, s.main = .waiting vars) : FeederArmed s := by
  have inv : ArmedInv s := by
    refine reached.invariant_with (I := fun s => PwmSucceeds s.log → ArmedInv s)
      settled_of_reachable (fun _ => armedInv_initial) (fun settled inv _ taken succeeds => ?_) succeeds
    exact armedInv_step settled succeeds (inv (succeeds.of_prefix (log_prefix_of_step taken))) taken
  obtain ⟨vars, main⟩ := waits
  exact inv.armed (by simp [main])

/-- The feeder is switched on; ten LED updates fill the queue, and the stop of the first expiry is
    dropped. -/
def stopDropped : List Action :=
  [.write Actuator.feeder.onOffPath 1, .callback, .get, .call default, .call default, .ret] ++
    List.replicate 10 (.ledUpdate 0) ++ [.elapse 2000, .expiry .sFeederMonoTimer]

/-- The hypotheses of `feeder_armed` are met after a dropped stop, with the servo running. -/
theorem feeder_armed_stopDropped :
    FeederArmed (stateAfter stopDropped) ∧ (stateAfter stopDropped).device.servo ≠ 0 ∧
      ¬ NoPutFails (stateAfter stopDropped).log :=
  ⟨feeder_armed _ (reachable_stateAfter _) (by decide) ⟨_, rfl⟩, by decide, by decide⟩

end DeviceWifi
