/-
Module: DeviceWifi.Proofs.Frame
Layer: Proofs
Purpose: What each part of a step leaves alone, and the inversion of the main thread's three steps. All
  later proofs read the transition system through these lemmas: posting touches only the queue and the
  log, a delivered change of a load's attribute is one post, any other delivery is only recorded.
Imports: DeviceWifi.Firmware.System
Trusted boundary: none (fully proved)
Main exports: postEvent_cases, deliver_onOffPath, deliver_other, StepEffect, stepEffect,
  log_prefix_of_step
Open obligations: none
-/
import DeviceWifi.Firmware.System

namespace DeviceWifi

open Reactive

section Fields

variable (s : State) (obs : Obs) (d : Device) (producer : Producer) (cause : Nat)
  (event : AppEvent) (events : List AppEvent) (path : ConcreteAttributePath) (value : UInt8)

@[simp] theorem note_now : (s.note obs).now = s.now := rfl
@[simp] theorem note_queue : (s.note obs).queue = s.queue := rfl
@[simp] theorem note_main : (s.note obs).main = s.main := rfl
@[simp] theorem note_pendingWrite : (s.note obs).pendingWrite = s.pendingWrite := rfl
@[simp] theorem note_chip : (s.note obs).chip = s.chip := rfl
@[simp] theorem note_device : (s.note obs).device = s.device := rfl
@[simp] theorem note_log : (s.note obs).log = s.log ++ [⟨s.now, obs⟩] := rfl

@[simp] theorem withDevice_now : (s.withDevice d).now = s.now := rfl
@[simp] theorem withDevice_queue : (s.withDevice d).queue = s.queue := rfl
@[simp] theorem withDevice_main : (s.withDevice d).main = s.main := rfl
@[simp] theorem withDevice_pendingWrite : (s.withDevice d).pendingWrite = s.pendingWrite := rfl
@[simp] theorem withDevice_chip : (s.withDevice d).chip = s.chip := rfl
@[simp] theorem withDevice_device : (s.withDevice d).device = d := rfl
@[simp] theorem withDevice_log : (s.withDevice d).log = s.log := rfl

@[simp] theorem rearm_now (t : TimerId) : (s.rearm t).now = s.now := rfl
@[simp] theorem rearm_queue (t : TimerId) : (s.rearm t).queue = s.queue := rfl
@[simp] theorem rearm_main (t : TimerId) : (s.rearm t).main = s.main := rfl
@[simp] theorem rearm_pendingWrite (t : TimerId) :
    (s.rearm t).pendingWrite = s.pendingWrite := rfl
@[simp] theorem rearm_chip (t : TimerId) : (s.rearm t).chip = s.chip := rfl
@[simp] theorem rearm_device (t : TimerId) :
    (s.rearm t).device = s.device.setTimer t (s.device.timer t).expire := rfl
@[simp] theorem rearm_log (t : TimerId) : (s.rearm t).log = s.log ++ [⟨s.now, .expired t⟩] := rfl

@[simp] theorem postEvent_now : (postEvent producer cause event s).now = s.now := by
  unfold postEvent; split <;> rfl

@[simp] theorem postEvent_main : (postEvent producer cause event s).main = s.main := by
  unfold postEvent; split <;> rfl

@[simp] theorem postEvent_pendingWrite :
    (postEvent producer cause event s).pendingWrite = s.pendingWrite := by
  unfold postEvent; split <;> rfl

@[simp] theorem postEvent_chip : (postEvent producer cause event s).chip = s.chip := by
  unfold postEvent; split <;> rfl

@[simp] theorem postEvent_device : (postEvent producer cause event s).device = s.device := by
  unfold postEvent; split <;> rfl

@[simp] theorem postAll_nil : postAll producer cause [] s = s := rfl

@[simp] theorem postAll_cons :
    postAll producer cause (event :: events) s =
      postAll producer cause events (postEvent producer cause event s) := rfl

/-- A property that one post keeps is kept by a sequence of posts. -/
theorem postAll_induction {I : State → Prop} {producer : Producer} {cause : Nat}
    {events : List AppEvent} {s : State} (base : I s)
    (keeps : ∀ s, ∀ event ∈ events, I s → I (postEvent producer cause event s)) :
    I (postAll producer cause events s) := by
  induction events generalizing s with
  | nil => exact base
  | cons event rest ih =>
      rw [postAll_cons]
      exact ih (keeps s event (by simp) base)
        fun s event member => keeps s event (List.mem_cons_of_mem _ member)

@[simp] theorem postAll_now : (postAll producer cause events s).now = s.now :=
  postAll_induction (I := fun s' => s'.now = s.now) rfl fun _ _ _ h => by simpa using h

@[simp] theorem postAll_main : (postAll producer cause events s).main = s.main :=
  postAll_induction (I := fun s' => s'.main = s.main) rfl fun _ _ _ h => by simpa using h

@[simp] theorem postAll_pendingWrite :
    (postAll producer cause events s).pendingWrite = s.pendingWrite :=
  postAll_induction (I := fun s' => s'.pendingWrite = s.pendingWrite) rfl
    fun _ _ _ h => by simpa using h

@[simp] theorem postAll_chip : (postAll producer cause events s).chip = s.chip :=
  postAll_induction (I := fun s' => s'.chip = s.chip) rfl fun _ _ _ h => by simpa using h

@[simp] theorem postAll_device : (postAll producer cause events s).device = s.device :=
  postAll_induction (I := fun s' => s'.device = s.device) rfl fun _ _ _ h => by simpa using h

end Fields

/-! ### Parts of the device -/

section Parts

variable (d : Device) (t t' : TimerId) (timer : SoftTimer) (path path' : ConcreteAttributePath)
  (value : UInt8) (access : StatusAccess) (spec : GpioSpec)

@[simp] theorem setTimer_gpio : (d.setTimer t timer).gpio = d.gpio := rfl
@[simp] theorem setTimer_servo : (d.setTimer t timer).servo = d.servo := rfl
@[simp] theorem setTimer_attributes : (d.setTimer t timer).attributes = d.attributes := rfl
@[simp] theorem setTimer_timer :
    (d.setTimer t timer).timer t' = if t' = t then timer else d.timer t' := rfl

/-- An expiry brings no timer forward. -/
theorem setTimer_expire_noSooner :
    ((d.setTimer t (d.timer t).expire).timer t').NoSooner (d.timer t') := by
  rw [setTimer_timer]
  split
  next same => exact same ▸ SoftTimer.expire_noSooner _
  next => exact .refl _

@[simp] theorem setAttribute_gpio : (d.setAttribute path value).gpio = d.gpio := rfl
@[simp] theorem setAttribute_servo : (d.setAttribute path value).servo = d.servo := rfl
@[simp] theorem setAttribute_timer : (d.setAttribute path value).timer = d.timer := rfl
@[simp] theorem setAttribute_attributes :
    (d.setAttribute path value).attributes path' =
      if path' = path then value else d.attributes path' := rfl

/-- An access to the status touches only the network flags and the status LED. -/
theorem statusEffect_frame :
    (access.effect d).gpio = d.gpio ∧ (access.effect d).servo = d.servo ∧
      (access.effect d).timer = d.timer ∧ (access.effect d).attributes = d.attributes := by
  cases access <;> exact ⟨rfl, rfl, rfl, rfl⟩

@[simp] theorem statusEffect_gpio : (access.effect d).gpio = d.gpio := (statusEffect_frame d access).1

@[simp] theorem statusEffect_servo : (access.effect d).servo = d.servo :=
  (statusEffect_frame d access).2.1

@[simp] theorem statusEffect_timer : (access.effect d).timer = d.timer :=
  (statusEffect_frame d access).2.2.1

@[simp] theorem statusEffect_attributes : (access.effect d).attributes = d.attributes :=
  (statusEffect_frame d access).2.2.2

variable (now : Nat) (c : Call) (r : Response)

/-- No SDK call of a handler writes a load's attribute. -/
@[simp] theorem effect_attributes : (effect now c r d).attributes = d.attributes := by
  cases c with
  | pwmSetPulseDt width => simp only [effect]; split <;> rfl
  | status access => exact statusEffect_attributes d access
  | _ => rfl

/-- Only `gpio_pin_set_dt` changes a GPIO level, and only the one of its pin. -/
theorem effect_gpio :
    (effect now c r d).gpio spec =
      match c with
      | .gpioPinSetDt spec' level => if spec = spec' then level else d.gpio spec
      | _ => d.gpio spec := by
  cases c with
  | pwmSetPulseDt width => simp only [effect]; split <;> rfl
  | status access => simp only [effect, statusEffect_gpio]
  | _ => rfl

/-- Only a successful `pwm_set_pulse_dt` changes the servo. -/
theorem effect_servo :
    (effect now c r d).servo =
      match c with
      | .pwmSetPulseDt width => if r.rc = 0 then width else d.servo
      | _ => d.servo := by
  cases c with
  | pwmSetPulseDt width => simp only [effect]; split <;> rfl
  | status access => simp only [effect, statusEffect_servo]
  | _ => rfl

/-- Only `k_timer_start` and `k_timer_stop` change a timer, and only the one they name. -/
theorem effect_timer :
    (effect now c r d).timer t =
      match c with
      | .kTimerStart t' duration period =>
          if t = t' then .start now duration period else d.timer t
      | .kTimerStop t' => if t = t' then (d.timer t).stop else d.timer t
      | _ => d.timer t := by
  cases c with
  | pwmSetPulseDt width => simp only [effect]; split <;> rfl
  | kTimerStop t' =>
      by_cases same : t = t' <;> simp [effect, same]
  | status access => simp only [effect, statusEffect_timer]
  | _ => rfl

/-- Only `sFactoryResetLEDs.Set` changes the factory-reset LEDs. -/
theorem effect_factoryResetLeds :
    (effect now c r d).factoryResetLeds =
      match c with
      | .factoryResetLedsSet on => on
      | _ => d.factoryResetLeds := by
  cases c with
  | pwmSetPulseDt width => simp only [effect]; split <;> rfl
  | status access => cases access <;> rfl
  | _ => rfl

/-- A call that does not start a timer neither brings it forward nor changes its period. -/
theorem effect_timer_of_not_start
    (noStart : ∀ duration period, c ≠ .kTimerStart t duration period) :
    ((effect now c r d).timer t).NoSooner (d.timer t) ∧
      ((effect now c r d).timer t).period = (d.timer t).period := by
  rw [effect_timer]
  cases c with
  | kTimerStart t' duration period =>
      have other : t ≠ t' := by
        rintro rfl
        exact noStart _ _ rfl
      simpa only [if_neg other, and_true] using SoftTimer.NoSooner.refl _
  | kTimerStop t' =>
      by_cases own : t = t'
      · simp only [if_pos own]
        exact ⟨nofun, rfl⟩
      · simpa only [if_neg own, and_true] using SoftTimer.NoSooner.refl _
  | _ => exact ⟨.refl _, rfl⟩

end Parts

/-! ### Posting -/

/-- The two outcomes of `PostEvent`: accepted at the back of a queue with room, or dropped by a full
    one. -/
theorem postEvent_cases (producer : Producer) (cause : Nat) (event : AppEvent) (s : State) :
    (¬ s.queue.Full ∧
        (postEvent producer cause event s).queue.items = s.queue.items ++ [⟨event, cause⟩] ∧
        (postEvent producer cause event s).log =
          s.log ++ [⟨s.now, .posted producer event true⟩]) ∨
      (s.queue.Full ∧
        (postEvent producer cause event s).queue = s.queue ∧
        (postEvent producer cause event s).log =
          s.log ++ [⟨s.now, .posted producer event false⟩]) := by
  unfold postEvent
  cases put : s.queue.put? ⟨event, cause⟩ with
  | none => exact Or.inr ⟨BoundedQueue.put?_eq_none_iff.mp put, rfl, rfl⟩
  | some queue =>
      refine Or.inl ⟨?_, BoundedQueue.items_of_put? put, rfl⟩
      rw [← BoundedQueue.put?_eq_none_iff (x := ⟨event, cause⟩), put]
      simp

/-- A change of a load's attribute is recorded and posts that load's event. -/
theorem deliver_onOffPath (cause : Nat) (e : Actuator) (value : UInt8) (s : State) :
    deliver cause e.onOffPath value s =
      postEvent (.attributeChange e.onOffPath value) cause (e.event (isOn value))
        (s.note (.delivered e.onOffPath value)) := by
  simp [deliver, attributePosts_onOffPath]

/-- A change of any other attribute is only recorded. -/
theorem deliver_other (cause : Nat) {path : ConcreteAttributePath} (value : UInt8) (s : State)
    (other : ∀ e : Actuator, path ≠ e.onOffPath) :
    deliver cause path value s = s.note (.delivered path value) := by
  simp [deliver, attributePosts_other value other]

/-- An expiry of the function timer posts one timer event. -/
theorem expire_sFunctionTimer (s : State) :
    expire .sFunctionTimer s =
      postEvent .functionTimer s.log.length timerEvent (s.rearm .sFunctionTimer) := rfl

/-- An expiry of the sensor timer posts one event per sensor. -/
theorem expire_sSensorTimer (s : State) :
    expire .sSensorTimer s =
      postAll .sensorTimer s.log.length sensorTimerHandler (s.rearm .sSensorTimer) := rfl

/-- An expiry of the feeder timer stores false in the feeder's attribute and posts the feeder's off
    event. -/
theorem expire_sFeederMonoTimer (s : State) :
    expire .sFeederMonoTimer s =
      postEvent (.attributeChange Actuator.feeder.onOffPath 0) s.log.length
        (Actuator.feeder.event false)
        (((s.rearm .sFeederMonoTimer).withDevice
          ((s.rearm .sFeederMonoTimer).device.setAttribute Actuator.feeder.onOffPath 0)).note
          (.delivered Actuator.feeder.onOffPath 0)) :=
  deliver_onOffPath s.log.length .feeder 0 _

/-- The attributes the handlers write are not a load's. -/
theorem attributeChange?_other {c : Call} {path : ConcreteAttributePath} {value : UInt8}
    (changes : attributeChange? c = some (path, value)) (e : Actuator) : path ≠ e.onOffPath := by
  have cluster : path.clusterId ≠ onOffClusterId := by
    cases c with
    | temperatureMeasuredValueSet endpoint measured =>
        simp only [attributeChange?, Option.some.injEq, Prod.mk.injEq] at changes
        obtain ⟨rfl, -⟩ := changes
        exact (by decide : temperatureMeasurementClusterId ≠ onOffClusterId)
    | humidityMeasuredValueSet endpoint measured =>
        simp only [attributeChange?, Option.some.injEq, Prod.mk.injEq] at changes
        obtain ⟨rfl, -⟩ := changes
        exact (by decide : relativeHumidityMeasurementClusterId ≠ onOffClusterId)
    | _ => simp [attributeChange?] at changes
  exact fun same => cluster (same ▸ rfl)

/-- What an SDK call does to the state: it changes the device by its effect, posts nothing, and is
    recorded, together with the attribute change it reports. -/
theorem exec_spec (cause : Nat) (c : Call) (r : Response) (s : State) :
    ∃ rest, (rest = [] ∨ ∃ path value, (∀ e : Actuator, path ≠ e.onOffPath) ∧
        rest = [⟨s.now, .delivered path value⟩]) ∧
      exec cause c r s =
        { s with
          device := effect s.now c r s.device
          log := s.log ++ (⟨s.now, .called cause c r⟩ :: rest) } := by
  unfold exec
  cases changes : attributeChange? c with
  | none => exact ⟨[], Or.inl rfl, rfl⟩
  | some change =>
      obtain ⟨path, value⟩ := change
      have other := attributeChange?_other changes
      refine ⟨[⟨s.now, .delivered path value⟩], Or.inr ⟨path, value, other, rfl⟩, ?_⟩
      simp [deliver_other cause value _ other, State.note, State.withDevice]

/-! ### The steps of the main thread -/

/-- `k_msgq_get` needs a waiting loop and takes the oldest event into its handler. -/
theorem step_get {s s' : State} (taken : step s .get = some s') :
    ∃ vars posted queue, s.main = .waiting vars ∧ s.queue.items = posted :: queue.items ∧
      s' = { s with
        queue := queue
        main := .handling posted ((dispatchEvent posted.event).run vars) } := by
  simp only [step] at taken
  split at taken
  next vars posted queue main got =>
    simp only [Option.some.injEq] at taken
    exact ⟨vars, posted, queue, main, BoundedQueue.items_of_get? got, taken.symm⟩
  next => simp at taken

/-- A handler's call is executed and the handler continues with what it returns. -/
theorem step_call {s s' : State} {response : Response} (taken : step s (.call response) = some s') :
    ∃ posted c k r, s.main = .handling posted (.call c k) ∧ r = s.device.reply c response ∧
      s' = { exec posted.cause c r s with main := .handling posted (k r) } := by
  simp only [step] at taken
  split at taken
  next posted c k main =>
    simp only [Option.some.injEq] at taken
    exact ⟨posted, c, k, _, main, rfl, taken.symm⟩
  next => simp at taken

/-- `ChipEventHandler` is entered by an idle Matter thread. -/
theorem matterIdle_iff {s : State} :
    s.matterIdle = true ↔ s.pendingWrite = none ∧ s.chip.returned = true := by
  simp [State.matterIdle]

/-- An access of `ChipEventHandler` is made on the device, and the handler continues with what it
    returns. -/
theorem step_chipCall {s s' : State} (taken : step s .chipCall = some s') :
    ∃ access k, s.chip = .call (.status access) k ∧
      s' = { s with
        device := access.effect s.device
        chip := k (s.device.reply (.status access) default) } := by
  simp only [step] at taken
  split at taken
  next access k chip =>
    simp only [Option.some.injEq] at taken
    exact ⟨access, k, chip, taken.symm⟩
  next => simp at taken

/-- A handler that has no call left returns the main thread's variables to the loop. -/
theorem step_ret {s s' : State} (taken : step s .ret = some s') :
    ∃ posted u vars, s.main = .handling posted (.pure (u, vars)) ∧
      s' = { s with main := .waiting vars } := by
  simp only [step] at taken
  split at taken
  next posted u vars main =>
    simp only [Option.some.injEq] at taken
    exact ⟨posted, u, vars, main, taken.symm⟩
  next => simp at taken

/-! ### What each action does -/

/-- The effect of each action in terms of notes, posts and single fields: everything a step can do, with
    the conditions under which it is enabled. -/
inductive StepEffect (s : State) : Action → State → Prop where
  | elapse (duration : Nat) : StepEffect s (.elapse duration) { s with now := s.now + duration }
  | write (path : ConcreteAttributePath) (value : UInt8) (idle : s.pendingWrite = none)
      (resting : s.chip.returned = true) :
      StepEffect s (.write path value)
        ({ s with
            device := s.device.setAttribute path value
            pendingWrite := some ⟨path, value, s.log.length⟩ }.note (.written path value))
  | loadCallback (w : PendingWrite) (e : Actuator) (pending : s.pendingWrite = some w)
      (load : w.path = e.onOffPath) :
      StepEffect s .callback
        (postEvent (.attributeChange e.onOffPath w.value) w.cause (e.event (isOn w.value))
          ({ s with pendingWrite := none }.note (.delivered e.onOffPath w.value)))
  | otherCallback (w : PendingWrite) (pending : s.pendingWrite = some w)
      (other : ∀ e : Actuator, w.path ≠ e.onOffPath) :
      StepEffect s .callback ({ s with pendingWrite := none }.note (.delivered w.path w.value))
  | functionExpiry (due : (s.device.timer .sFunctionTimer).Due s.now) :
      StepEffect s (.expiry .sFunctionTimer)
        (postEvent .functionTimer s.log.length timerEvent (s.rearm .sFunctionTimer))
  | sensorExpiry (due : (s.device.timer .sSensorTimer).Due s.now) :
      StepEffect s (.expiry .sSensorTimer)
        (postAll .sensorTimer s.log.length sensorTimerHandler (s.rearm .sSensorTimer))
  | feederExpiry (due : (s.device.timer .sFeederMonoTimer).Due s.now) :
      StepEffect s (.expiry .sFeederMonoTimer)
        (postEvent (.attributeChange Actuator.feeder.onOffPath 0) s.log.length
          (Actuator.feeder.event false)
          (((s.rearm .sFeederMonoTimer).withDevice
            ((s.rearm .sFeederMonoTimer).device.setAttribute Actuator.feeder.onOffPath 0)).note
            (.delivered Actuator.feeder.onOffPath 0)))
  | edge (buttonState hasChanged : UInt32) (pushed : Bool)
      (changed : functionButtonMask &&& hasChanged ≠ 0)
      (level : pushed = (functionButtonMask &&& buttonState != 0)) :
      StepEffect s (.button buttonState hasChanged)
        (postEvent .button s.log.length (buttonEvent pushed) (s.note (.edge pushed)))
  | noEdge (buttonState hasChanged : UInt32) (unchanged : functionButtonMask &&& hasChanged = 0) :
      StepEffect s (.button buttonState hasChanged) s
  | ledUpdate (ledWidget : Nat) :
      StepEffect s (.ledUpdate ledWidget)
        (postEvent .ledUpdate s.log.length (updateLedEvent ledWidget) (s.note (.ledUpdate ledWidget)))
  | chip (event : ChipDeviceEvent) (resting : s.chip.returned = true) :
      StepEffect s (.chip event) { s with chip := chipEventHandler event }
  | chipCall (access : StatusAccess) (k : Response → Prog Call Response Unit)
      (chip : s.chip = .call (.status access) k) :
      StepEffect s .chipCall
        { s with
          device := access.effect s.device
          chip := k (s.device.reply (.status access) default) }
  | get (vars : AppVars) (posted : Posted) (queue : BoundedQueue Posted kAppEventQueueSize)
      (main : s.main = .waiting vars) (items : s.queue.items = posted :: queue.items) :
      StepEffect s .get
        { s with
          queue := queue
          main := .handling posted ((dispatchEvent posted.event).run vars) }
  | call (posted : Posted) (c : Call) (k : Response → Prog Call Response (Unit × AppVars))
      (r : Response) (rest : List Entry) (main : s.main = .handling posted (.call c k))
      (reports : rest = [] ∨ ∃ path value, (∀ e : Actuator, path ≠ e.onOffPath) ∧
        rest = [⟨s.now, .delivered path value⟩])
      (response : Response) (replied : r = s.device.reply c response) :
      StepEffect s (.call response)
        { s with
          main := .handling posted (k r)
          device := effect s.now c r s.device
          log := s.log ++ (⟨s.now, .called posted.cause c r⟩ :: rest) }
  | ret (posted : Posted) (u : Unit) (vars : AppVars)
      (main : s.main = .handling posted (.pure (u, vars))) :
      StepEffect s .ret { s with main := .waiting vars }

/-- Inversion of the step function. -/
theorem stepEffect {s s' : State} {a : Action} (taken : step s a = some s') :
    StepEffect s a s' := by
  cases a with
  | elapse duration =>
      simp only [step, Option.some.injEq] at taken
      exact taken ▸ .elapse duration
  | write path value =>
      simp only [step] at taken
      split at taken
      next idle =>
        simp only [Option.some.injEq] at taken
        obtain ⟨noWrite, resting⟩ := matterIdle_iff.mp idle
        exact taken ▸ .write path value noWrite resting
      next => simp at taken
  | callback =>
      obtain ⟨w, pending, rfl⟩ := Option.map_eq_some_iff.mp taken
      by_cases load : ∃ e : Actuator, w.path = e.onOffPath
      · obtain ⟨e, load⟩ := load
        rw [load, deliver_onOffPath]
        exact .loadCallback w e pending load
      · have other : ∀ e : Actuator, w.path ≠ e.onOffPath := fun e same => load ⟨e, same⟩
        rw [deliver_other _ _ _ other]
        exact .otherCallback w pending other
  | expiry t =>
      simp only [step] at taken
      split at taken
      next due =>
        simp only [Option.some.injEq] at taken
        subst taken
        cases t with
        | sFunctionTimer => exact expire_sFunctionTimer s ▸ .functionExpiry due
        | sSensorTimer => exact expire_sSensorTimer s ▸ .sensorExpiry due
        | sFeederMonoTimer => exact expire_sFeederMonoTimer s ▸ .feederExpiry due
      next => simp at taken
  | button buttonState hasChanged =>
      simp only [step, Option.some.injEq] at taken
      subst taken
      unfold buttonEventHandler
      split
      next changed => exact .edge buttonState hasChanged _ changed rfl
      next unchanged => exact .noEdge buttonState hasChanged (not_not.mp unchanged)
  | ledUpdate ledWidget =>
      simp only [step, Option.some.injEq] at taken
      exact taken ▸ .ledUpdate ledWidget
  | chip event =>
      simp only [step] at taken
      split at taken
      next idle =>
        simp only [Option.some.injEq] at taken
        exact taken ▸ .chip event (matterIdle_iff.mp idle).2
      next => simp at taken
  | chipCall =>
      obtain ⟨access, k, chip, rfl⟩ := step_chipCall taken
      exact .chipCall access k chip
  | get =>
      obtain ⟨vars, posted, queue, main, items, rfl⟩ := step_get taken
      exact .get vars posted queue main items
  | call response =>
      obtain ⟨posted, c, k, r, main, replied, rfl⟩ := step_call taken
      obtain ⟨rest, reports, executed⟩ := exec_spec posted.cause c r s
      rw [executed]
      exact .call posted c k r rest main reports response replied
  | ret =>
      obtain ⟨posted, u, vars, main, rfl⟩ := step_ret taken
      exact .ret posted u vars main

/-! ### The log only grows -/

section Growth

variable {s : State} {log : List Entry} (producer : Producer) (cause : Nat)

/-- What the log holds at a position it holds there for good. -/
theorem getElem?_append_of_some {more : List Entry} {i : Nat} {entry : Entry}
    (present : log[i]? = some entry) : (log ++ more)[i]? = some entry := by
  rw [List.getElem?_append_left (List.getElem?_eq_some_iff.mp present).1, present]

theorem postEvent_log_prefix (event : AppEvent) (grown : log <+: s.log) :
    log <+: (postEvent producer cause event s).log := by
  rcases postEvent_cases producer cause event s with ⟨_, _, posted⟩ | ⟨_, _, posted⟩ <;>
    exact posted ▸ grown.trans (List.prefix_append _ _)

theorem postAll_log_prefix (events : List AppEvent) (grown : log <+: s.log) :
    log <+: (postAll producer cause events s).log :=
  postAll_induction (I := fun s' => log <+: s'.log) grown
    fun _ event _ => postEvent_log_prefix producer cause event

/-- Every step extends the log. -/
theorem log_prefix_of_step {s' : State} {a : Action} (taken : step s a = some s') :
    s.log <+: s'.log := by
  cases stepEffect taken with
  | elapse => exact List.prefix_refl _
  | write => exact List.prefix_append _ _
  | loadCallback => exact postEvent_log_prefix _ _ _ (List.prefix_append _ _)
  | otherCallback => exact List.prefix_append _ _
  | functionExpiry => exact postEvent_log_prefix _ _ _ (List.prefix_append _ _)
  | sensorExpiry => exact postAll_log_prefix _ _ _ (List.prefix_append _ _)
  | feederExpiry =>
      apply postEvent_log_prefix _ _ _
      simp only [note_log, withDevice_log, rearm_log, List.append_assoc]
      exact List.prefix_append _ _
  | edge => exact postEvent_log_prefix _ _ _ (List.prefix_append _ _)
  | noEdge => exact List.prefix_refl _
  | ledUpdate => exact postEvent_log_prefix _ _ _ (List.prefix_append _ _)
  | chip => exact List.prefix_refl _
  | chipCall => exact List.prefix_refl _
  | get => exact List.prefix_refl _
  | call => exact List.prefix_append _ _
  | ret => exact List.prefix_refl _

end Growth

end DeviceWifi
