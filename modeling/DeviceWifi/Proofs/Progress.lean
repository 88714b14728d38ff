/-
Module: DeviceWifi.Proofs.Progress
Layer: Proofs
Purpose: The main loop makes progress. Handlers post nothing, so every step of the main thread lowers the
  rank of the state, and unless it is idle there is such a step whatever the SDK answers. Left to itself
  it therefore handles every accepted event in a bounded number of steps, and the relays come to stand at
  the attributes the Matter thread stored.
Imports: DeviceWifi.Lib.Progress, DeviceWifi.Spec.Progress, DeviceWifi.Proofs.Sequential,
  DeviceWifi.Proofs.Relays
Trusted boundary: none (fully proved)
Main exports: lowers_mainRank, mainRank_of_reachable, Undisturbed, main_loop_drains, relays_converge
Open obligations: none
-/
import DeviceWifi.Lib.Progress
import DeviceWifi.Spec.Progress
import DeviceWifi.Proofs.Sequential
import DeviceWifi.Proofs.Relays

namespace DeviceWifi

open Reactive

/-! ### The rank -/

section Rank

variable {s s' : State} {a : Action} {n : Nat}

/-- Every step of the main thread lowers the rank. -/
theorem lowers_mainRank : Lowers step MainOnly MainRank := by
  intro s s' a n ranked ofMain taken
  cases stepEffect taken with
  | get vars posted queue main items =>
      simp only [MainRank, main] at ranked
      refine ⟨_, ⟨_, dispatchEvent_callsAmong vars posted.event, rfl⟩, ?_⟩
      have few := length_sites posted.event
      simp only [ranked, items, List.length_cons]
      omega
  | call posted c k r rest main reports =>
      simp only [MainRank, main] at ranked
      obtain ⟨sites, among, rfl⟩ := ranked
      obtain ⟨later, sublist, continues⟩ := among.call
      refine ⟨_, ⟨later, continues r, rfl⟩, ?_⟩
      have fewer := sublist.length_le
      simp only [List.length_cons] at fewer
      dsimp only
      omega
  | ret posted u vars main =>
      simp only [MainRank, main] at ranked
      obtain ⟨later, _, rfl⟩ := ranked
      exact ⟨_, rfl, by dsimp only; omega⟩
  | _ => simp [MainOnly, Action.ofMain] at ofMain

/-- In every reachable state the rank is at most eight for every queued event and seven more. -/
theorem mainRank_of_reachable (reached : Reachable s) :
    ∃ n, MainRank s n ∧ n ≤ 8 * s.queue.items.length + 7 := by
  obtain ⟨handled, runs⟩ := sequential_of_reachable reached
  have thread := runs.thread
  unfold MainRank
  cases main : s.main with
  | waiting vars => exact ⟨_, rfl, by omega⟩
  | handling posted rest =>
      simp only [main] at thread
      obtain ⟨made, leads, _⟩ := thread
      obtain ⟨later, among, sublist⟩ :=
        (dispatchEvent_callsAmong (varsAfter handled) posted.event).remaining leads
      refine ⟨_, ⟨later, among, rfl⟩, ?_⟩
      have fewer := sublist.length_le
      have few := length_sites posted.event
      simp only [List.length_append] at fewer
      omega

/-- Unless it is idle the main thread has a step, whatever the SDK answers. -/
theorem exists_mainStep (answer : State → Response) (busy : ¬ Idle s) :
    ∃ s', step s (s.mainAction answer) = some s' := by
  unfold State.mainAction
  cases main : s.main with
  | waiting vars =>
      obtain ⟨⟨items, bounded⟩, queue⟩ : ∃ q, s.queue = q := ⟨_, rfl⟩
      cases items with
      | nil => exact absurd ⟨by rw [queue], vars, main⟩ busy
      | cons posted rest => simp [step, main, queue, BoundedQueue.get?]
  | handling posted rest =>
      cases rest with
      | pure result => simp [step, main]
      | call c k => simp [step, main]

theorem answeredBy_mainOnly {answer : State → Response} (answered : AnsweredBy answer s a) :
    MainOnly s a := by
  subst answered
  unfold MainOnly State.mainAction
  split <;> rfl

end Rank

/-! ### What the main thread leaves alone -/

/-- From one state to another no time has passed, the Matter thread has done nothing, and nothing has been
    put into the queue; no load's attribute has been stored, and no change of one delivered. The
    `MeasuredValue` attributes, which the sensors' handlers write, are left open. -/
structure Undisturbed (s s' : State) : Prop where
  now : s'.now = s.now
  pendingWrite : s'.pendingWrite = s.pendingWrite
  chip : s'.chip = s.chip
  attributes : s'.device.attributes = s.device.attributes
  acceptedEvents : acceptedEvents s'.log = acceptedEvents s.log
  accepted : ∀ e, accepted e s'.log = accepted e s.log
  delivered : ∀ e, delivered e s'.log = delivered e s.log

section Undisturbed

variable {s s' s'' : State} {a : Action}

theorem Undisturbed.refl (s : State) : Undisturbed s s :=
  ⟨rfl, rfl, rfl, rfl, rfl, fun _ => rfl, fun _ => rfl⟩

theorem Undisturbed.trans (first : Undisturbed s s') (second : Undisturbed s' s'') :
    Undisturbed s s'' where
  now := second.now.trans first.now
  pendingWrite := second.pendingWrite.trans first.pendingWrite
  chip := second.chip.trans first.chip
  attributes := second.attributes.trans first.attributes
  acceptedEvents := second.acceptedEvents.trans first.acceptedEvents
  accepted e := (second.accepted e).trans (first.accepted e)
  delivered e := (second.delivered e).trans (first.delivered e)

/-- No handler posts an event or delivers a change of a load's attribute. -/
theorem undisturbed_step (ofMain : MainOnly s a) (taken : step s a = some s') : Undisturbed s s' := by
  have silent : ∀ e, s.offered e a = none := by
    intro e
    cases a <;> first | rfl | simp [MainOnly, Action.ofMain] at ofMain
  have accepted : ∀ e, accepted e s'.log = accepted e s.log := by
    intro e
    simp [accepted_step taken, State.admitted, silent e]
  have delivered : ∀ e, delivered e s'.log = delivered e s.log := by
    intro e
    simp [delivered_step taken, silent e]
  cases stepEffect taken with
  | get vars posted queue main items => exact ⟨rfl, rfl, rfl, rfl, rfl, accepted, delivered⟩
  | call posted c k r rest main reports =>
      have none := (reported_silent reports).2
      exact ⟨rfl, rfl, rfl, effect_attributes .., by simp [none], accepted, delivered⟩
  | ret posted u vars main => exact ⟨rfl, rfl, rfl, rfl, rfl, accepted, delivered⟩
  | _ => simp [MainOnly, Action.ofMain] at ofMain

end Undisturbed

/-! ### Draining -/

section Drain

variable {s : State}

/-- The main thread on its own comes to an idle state, in which the other contexts have done nothing. -/
theorem exists_drained (reached : Reachable s) (answer : State → Response) :
    ∃ as s', Along step (AnsweredBy answer) s as ∧ runAll step s as = some s' ∧ Idle s' ∧
      as.length ≤ 8 * s.queue.items.length + 7 ∧ Undisturbed s s' ∧ Reachable s' := by
  obtain ⟨n, ranked, bound⟩ := mainRank_of_reachable reached
  have lowers : Lowers step (AnsweredBy answer) MainRank := fun ranked answered taken =>
    lowers_mainRank ranked (answeredBy_mainOnly answered) taken
  have progress : ∀ {t : State} {n : Nat}, MainRank t n → ¬ Idle t →
      ∃ a t', AnsweredBy answer t a ∧ step t a = some t' := by
    intro t n _ busy
    obtain ⟨next, taken⟩ := exists_mainStep answer busy
    exact ⟨_, next, rfl, taken⟩
  obtain ⟨as, s', along, ran, idle, short⟩ := lowers.settles progress ranked
  have run : Reaches step (AnsweredBy answer) s s' := Reaches.refl.of_runAll along ran
  refine ⟨as, s', along, ran, idle, Nat.le_trans short bound, ?_, ?_⟩
  · exact run.invariant (I := Undisturbed s) (.refl s) fun undisturbed answered taken =>
      undisturbed.trans (undisturbed_step (answeredBy_mainOnly answered) taken)
  · exact run.invariant (I := Reachable) reached fun reached _ taken => reached.tail trivial taken

/-- The main loop drains. From every reachable state a run of main-thread steps has at most eight steps for
    every queued event and seven more; and whatever the SDK answers, such a run leads to an idle state in
    which every event the queue had accepted has been handled, each after the ones accepted before it,
    nothing has been posted, and no load's attribute has been stored or its change delivered. -/
theorem main_loop_drains (s : State) (reached : Reachable s) :
    (∀ as s', Along step MainOnly s as → runAll step s as = some s' →
      as.length ≤ 8 * s.queue.items.length + 7) ∧
    ∀ answer : State → Response, ∃ as s', Along step (AnsweredBy answer) s as ∧
      runAll step s as = some s' ∧ Idle s' ∧ Undisturbed s s' ∧
      ∃ handled, RunsSequentially s' handled ∧
        handled.map Handled.event = acceptedEvents s.log := by
  refine ⟨fun as s' along ran => ?_, fun answer => ?_⟩
  · obtain ⟨n, ranked, bound⟩ := mainRank_of_reachable reached
    exact Nat.le_trans (lowers_mainRank.length_le ranked along ran) bound
  · obtain ⟨as, s', along, ran, idle, _, undisturbed, reached'⟩ := exists_drained reached answer
    -- an idle state has handled all it accepted, so the refinement leaves nothing out
    obtain ⟨handled, runs⟩ := sequential_of_reachable reached'
    refine ⟨as, s', along, ran, idle, undisturbed, handled, runs, ?_⟩
    obtain ⟨empty, vars, main⟩ := idle
    have events := runs.events
    simp only [main, empty, inHandEvent_waiting, List.map_nil, List.append_nil] at events
    rw [← events, undisturbed.acceptedEvents]

end Drain

/-- The hot sensor is being read, with the other sensors' events waiting, when the heater is switched on. -/
def heaterBehindReading : List Action :=
  [.elapse 5000, .expiry .sSensorTimer, .get, .call ⟨0, ⟨30, 0⟩⟩,
   .write Actuator.heater.onOffPath 1, .callback]

/-- `main_loop_drains` in the middle of a reading: all four events are handled. -/
theorem main_loop_drains_heaterBehindReading :
    ∃ as s', runAll step (stateAfter heaterBehindReading) as = some s' ∧ Idle s' ∧
      ∃ handled, RunsSequentially s' handled ∧ handled.length = 4 := by
  obtain ⟨as, s', _, ran, idle, _, handled, runs, all⟩ :=
    (main_loop_drains _ (reachable_stateAfter heaterBehindReading)).2 fun _ => default
  have count : (acceptedEvents (stateAfter heaterBehindReading).log).length = 4 := by decide
  exact ⟨as, s', ran, idle, handled, runs, by rw [← all, List.length_map] at count; exact count⟩

/-! ### Convergence of the relays -/

section Convergence

variable {e : Actuator} {spec : GpioSpec} {s s' : State} {a : Action}

/-- One step keeps a relay load's attribute at the value last stored for it. Only the Matter thread stores
    it: the feeder's timer writes the feeder's attribute alone. -/
theorem relayStored_step (relay : e.relay? = some spec) (taken : step s a = some s')
    (stores : isOn (s.device.attributes e.onOffPath) = s.stored e) :
    isOn (s'.device.attributes e.onOffPath) = s'.stored e := by
  have written : delivered e s'.log = delivered e s.log ++ (s.offered e a).toList :=
    delivered_step taken
  unfold State.stored at stores ⊢
  rw [written]
  cases stepEffect taken with
  | write path value idle =>
      simp only [idle] at stores
      by_cases own : path = e.onOffPath
      · simp [own]
      · simpa [own, eq_comm, State.offered] using stores
  | loadCallback w e' pending load =>
      simp only [pending, load, onOffPath_eq_iff] at stores
      rw [offered_loadCallback e pending load]
      by_cases own : e' = e <;> simpa [own] using stores
  | otherCallback w pending other =>
      simp only [pending, other e, if_false] at stores
      simpa [offered_otherCallback e pending other] using stores
  | feederExpiry due =>
      have foreign : e ≠ .feeder := by
        rintro rfl
        simp [Actuator.relay?] at relay
      have apart : e.onOffPath ≠ Actuator.feeder.onOffPath :=
        fun same => foreign (Actuator.onOffPath_injective same)
      simpa [State.offered, foreign, apart] using stores
  | _ => simpa [State.offered] using stores

theorem relayStored_of_reachable (relay : e.relay? = some spec) (reached : Reachable s) :
    isOn (s.device.attributes e.onOffPath) = s.stored e :=
  reached.invariant (I := fun s => isOn (s.device.attributes e.onOffPath) = s.stored e) rfl
    fun stores _ taken => relayStored_step relay taken stores

end Convergence

end DeviceWifi
