/-
Module: DeviceWifi.Proofs.Latency
Layer: Proofs
Purpose: No event waits for long. The queue is first in first out, so what is accepted behind an event
  does not delay it: of the events accepted by some moment those unhandled are served by a number of
  main-thread steps fixed at that moment, whatever the other contexts do in between.
Imports: DeviceWifi.Lib.Progress, DeviceWifi.Spec.Progress, DeviceWifi.Proofs.Progress
Trusted boundary: none (fully proved)
Main exports: served_step, serveRank_lowers, serveRank_keeps, log_prefix_of_runAll,
  events_served_in_bound
Open obligations: none
-/
import DeviceWifi.Lib.Progress
import DeviceWifi.Spec.Progress
import DeviceWifi.Proofs.Progress

namespace DeviceWifi

open Reactive

section Serving

variable {count n : Nat} {s s' : State} {a : Action}

/-- An action of another context. -/
theorem environment_of_not_ofMain (other : a.ofMain = false) :
    a ≠ .get ∧ (∀ r, a ≠ .call r) ∧ a ≠ .ret := by
  refine ⟨?_, fun r => ?_, ?_⟩ <;> rintro rfl <;> exact Bool.false_ne_true other.symm

/-- What is fed to the queue waits behind the events accepted before. -/
theorem Feeds.lengths (feeds : Feeds s s') :
    ∃ more, (acceptedEvents s'.log).length = (acceptedEvents s.log).length + more ∧
      s'.queue.items.length = s.queue.items.length + more := by
  obtain ⟨events, accepted, queued⟩ := feeds.queued
  refine ⟨events.length, by rw [accepted, List.length_append], ?_⟩
  have lengths := congrArg List.length queued
  simpa using lengths

/-- A state of rank zero has served the events. -/
theorem served_of_serveRank (ranked : ServeRank count s 0) : Served count s := by
  unfold ServeRank at ranked
  unfold Served
  cases main : s.main with
  | waiting vars =>
      simp only [main, State.unserved] at ranked
      simp only [inHandEvent_waiting, List.length_nil]
      omega
  | handling posted rest =>
      simp only [main] at ranked
      obtain ⟨later, _, rank⟩ := ranked
      exact absurd rank (by omega)

/-- Events that have been served stay served. -/
theorem served_step (served : Served count s) (taken : step s a = some s') : Served count s' := by
  unfold Served at served ⊢
  cases kind : a.ofMain with
  | false =>
      have feeds := feeds_of_environment taken (environment_of_not_ofMain kind)
      obtain ⟨more, accepted, queued⟩ := feeds.lengths
      rw [feeds.main]
      omega
  | true =>
      cases stepEffect taken with
      | get vars posted queue main items =>
          simp only [main, items, inHandEvent_waiting, List.length_nil, List.length_cons] at served
          simp only [inHandEvent_handling, List.length_singleton]
          omega
      | call posted c k r rest main reports =>
          have none := (reported_silent reports).2
          simpa [main, none] using served
      | ret posted u vars main =>
          simp only [main, inHandEvent_handling, List.length_singleton] at served
          simp only [inHandEvent_waiting, List.length_nil]
          omega
      | _ => exact absurd kind Bool.false_ne_true

/-- A step of the main thread lowers the rank. -/
theorem serveRank_lowers (ranked : ServeRank count s (n + 1)) (ofMain : a.ofMain = true)
    (taken : step s a = some s') : ∃ m ≤ n, ServeRank count s' m := by
  cases stepEffect taken with
  | get vars posted queue main items =>
      simp only [ServeRank, main, State.unserved, items, List.length_cons] at ranked
      have few := length_sites posted.event
      refine ⟨_, ?_, _, dispatchEvent_callsAmong vars posted.event, rfl⟩
      dsimp only [State.unserved]
      omega
  | call posted c k r rest main reports =>
      have none := (reported_silent reports).2
      simp only [ServeRank, main] at ranked
      obtain ⟨sites, among, rank⟩ := ranked
      obtain ⟨later, sublist, continues⟩ := among.call
      have fewer := sublist.length_le
      refine ⟨_, ?_, later, continues r, rfl⟩
      simp only [List.length_cons] at fewer
      simp only [State.unserved] at rank
      simp only [State.unserved, acceptedEvents_append, acceptedEvents_called, none, List.append_nil]
      omega
  | ret posted u vars main =>
      simp only [ServeRank, main] at ranked
      obtain ⟨later, _, rank⟩ := ranked
      refine ⟨_, ?_, rfl⟩
      simp only [State.unserved] at rank ⊢
      omega
  | _ => exact absurd ofMain Bool.false_ne_true

/-- A step of another context keeps the rank. -/
theorem serveRank_keeps (ranked : ServeRank count s n) (other : a.ofMain = false)
    (taken : step s a = some s') : ServeRank count s' n := by
  have feeds := feeds_of_environment taken (environment_of_not_ofMain other)
  obtain ⟨more, accepted, queued⟩ := feeds.lengths
  have same : s'.unserved count = s.unserved count := by
    unfold State.unserved
    omega
  unfold ServeRank at ranked ⊢
  rwa [feeds.main, same]

/-- In every reachable state the accepted events are served after eight steps for every queued one and seven
    more. -/
theorem serveRank_of_reachable (reached : Reachable s) :
    ∃ n, ServeRank (acceptedEvents s.log).length s n ∧ n ≤ 8 * s.queue.items.length + 7 := by
  obtain ⟨n, ranked, bound⟩ := mainRank_of_reachable reached
  have queued : s.unserved (acceptedEvents s.log).length = s.queue.items.length :=
    Nat.add_sub_cancel_left ..
  refine ⟨n, ?_, bound⟩
  unfold MainRank at ranked
  unfold ServeRank
  rwa [queued]

end Serving

section Bound

variable {s s' : State} {as : List Action}

/-- The log of a run starts with the log the run starts from. -/
theorem log_prefix_of_runAll (ran : runAll step s as = some s') : s.log <+: s'.log :=
  kept_of_runAll (I := fun t => s.log <+: t.log)
    (fun grown taken => grown.trans (log_prefix_of_step taken)) (List.prefix_refl _) ran

/-- A sequence that a state agrees with contains the accepted events that were served. -/
theorem RunsSequentially.served {handled : List Handled} (runs : RunsSequentially s handled)
    {events : List AppEvent} (accepted : events <+: acceptedEvents s.log)
    (served : Served events.length s) : events <+: handled.map Handled.event := by
  have order := runs.events
  have lengths := congrArg List.length order
  unfold Served at served
  simp only [List.length_append, List.length_map] at lengths
  rw [List.append_assoc] at order
  refine List.prefix_of_prefix_length_le accepted (order ▸ List.prefix_append _ _) ?_
  rw [List.length_map]
  omega

/-- No event waits for long. From any reachable state, in every run with eight main-thread steps for each
    queued event and seven more, wherever they lie in the run and whatever the other contexts post in
    between, every event the queue had accepted at the start has been handled, in the order of
    acceptance and before any accepted later. -/
theorem events_served_in_bound (s s' : State) (reached : Reachable s) (as : List Action)
    (ran : runAll step s as = some s')
    (enough : 8 * s.queue.items.length + 7 ≤ as.countP Action.ofMain) :
    ∃ handled, RunsSequentially s' handled ∧ acceptedEvents s.log <+: handled.map Handled.event := by
  obtain ⟨n, ranked, bound⟩ := serveRank_of_reachable reached
  have served : Served (acceptedEvents s.log).length s' :=
    done_of_inner_steps served_of_serveRank served_step serveRank_lowers serveRank_keeps ranked ran
      (Nat.le_trans bound enough)
  have reached' : Reachable s' := reached.of_runAll (along_of_forall (fun _ _ => trivial) s as) ran
  obtain ⟨handled, runs⟩ := sequential_of_reachable reached'
  exact ⟨handled, runs, runs.served ((log_prefix_of_runAll ran).filterMap _) served⟩

end Bound

/-- With the heater's event in the queue, the sensors become due and the lamp is switched on and off while
    the main thread makes its next fifteen steps. -/
def lampBehindHeater : List Action :=
  [.get, .elapse 5000, .expiry .sSensorTimer, .call default, .ret, .write Actuator.hotLamp.onOffPath 1,
   .get, .call default, .callback, .call default, .call default, .call default, .call default, .ret,
   .get, .call ⟨-5, default⟩, .write Actuator.hotLamp.onOffPath 0, .callback, .call default,
   .call default, .ret]

/-- `events_served_in_bound` for the heater's event, which the lamp's two events and those of the sensors
    do not hold up. -/
theorem events_served_in_bound_lampBehindHeater :
    ∃ s' handled, runAll step (stateAfter [.write Actuator.heater.onOffPath 1, .callback])
      lampBehindHeater = some s' ∧ RunsSequentially s' handled ∧
        Actuator.heater.event true ∈ handled.map Handled.event := by
  have enabled : (runAll step (stateAfter [.write Actuator.heater.onOffPath 1, .callback])
      lampBehindHeater).isSome = true := by decide +kernel
  obtain ⟨s', ran⟩ := Option.isSome_iff_exists.mp enabled
  obtain ⟨handled, runs, served⟩ :=
    events_served_in_bound _ s' (reachable_stateAfter _) lampBehindHeater ran (by decide)
  exact ⟨s', handled, ran, runs, served.subset (by decide)⟩

end DeviceWifi
