/-
Module: DeviceWifi.Proofs.Bursts
Layer: Proofs
Purpose: How long the main loop may stall. A queue loses nothing while the posts of a burst fit into the
  room it had before them, whatever the main thread does meanwhile. The sensor timer posts three events
  every five seconds, so the time of a stall bounds its posts, and the other producers get the rest.
Imports: DeviceWifi.Proofs.Sampling
Trusted boundary: none (fully proved)
Main exports: Absorbs, absorbs_of_runAll, posts_eq, stall_tolerated
Open obligations: none
-/
import DeviceWifi.Proofs.Sampling

namespace DeviceWifi

open Reactive

/-! ### Counting posts -/

section Counts

variable (log log' : List Entry) (entry : Entry) (producer : Producer) (cause : Nat)
  (event : AppEvent) (events : List AppEvent) (s : State)

@[simp] theorem posts_append : posts (log ++ log') = posts log + posts log' := List.countP_append

@[simp] theorem otherPosts_append :
    otherPosts (log ++ log') = otherPosts log + otherPosts log' := List.countP_append

@[simp] theorem drops_append : drops (log ++ log') = drops log + drops log' := List.countP_append

@[simp] theorem posts_cons :
    posts (entry :: log) = (if entry.obs.isPost then 1 else 0) + posts log := by
  simp [posts, List.countP_cons, Nat.add_comm]

@[simp] theorem otherPosts_cons :
    otherPosts (entry :: log) = (if entry.obs.isOtherPost then 1 else 0) + otherPosts log := by
  simp [otherPosts, List.countP_cons, Nat.add_comm]

@[simp] theorem drops_cons :
    drops (entry :: log) = (if entry.obs.isDrop then 1 else 0) + drops log := by
  simp [drops, List.countP_cons, Nat.add_comm]

@[simp] theorem posts_nil : posts [] = 0 := rfl
@[simp] theorem otherPosts_nil : otherPosts [] = 0 := rfl
@[simp] theorem drops_nil : drops [] = 0 := rfl

@[simp] theorem posts_postEvent :
    posts (postEvent producer cause event s).log = posts s.log + 1 := by
  rcases postEvent_cases producer cause event s with ⟨_, _, log⟩ | ⟨_, _, log⟩ <;>
    simp [log, Obs.isPost]

@[simp] theorem otherPosts_postEvent :
    otherPosts (postEvent producer cause event s).log =
      otherPosts s.log + if producer ≠ .sensorTimer then 1 else 0 := by
  rcases postEvent_cases producer cause event s with ⟨_, _, log⟩ | ⟨_, _, log⟩ <;>
    simp [log, Obs.isOtherPost]

end Counts

section Steps

variable {s s' t t' : State} {a : Action}

/-- The posts are three for every expiry of the sensor timer and those of the other producers. -/
theorem posts_step (taken : step s a = some s')
    (account : posts s.log = 3 * expiries s.log + otherPosts s.log) :
    posts s'.log = 3 * expiries s'.log + otherPosts s'.log := by
  cases stepEffect taken with
  | sensorExpiry due =>
      simp [sensorTimerHandler, Obs.isPost, Obs.isOtherPost, account]
      omega
  | call posted c k r rest main reports =>
      rcases reports with rfl | ⟨path, value, _, rfl⟩ <;>
        simpa [Obs.isPost, Obs.isOtherPost] using account
  | loadCallback | otherCallback | functionExpiry | feederExpiry | edge | ledUpdate | write =>
      simp [Obs.isPost, Obs.isOtherPost, account, Nat.add_assoc]
  | _ => exact account

theorem posts_eq (reached : Reachable s) : posts s.log = 3 * expiries s.log + otherPosts s.log :=
  reached.invariant (I := fun s => posts s.log = 3 * expiries s.log + otherPosts s.log) rfl
    fun account _ taken => posts_step taken account

/-! ### A burst -/

/-- While the posts since a state fit into the room its queue had, none of them has been dropped, and the
    queue holds no more than it did then and what was posted since. -/
def Absorbs (s t : State) : Prop :=
  posts s.log ≤ posts t.log ∧
    (s.queue.items.length + posts t.log ≤ kAppEventQueueSize + posts s.log →
      drops t.log = drops s.log ∧
        t.queue.items.length + posts s.log ≤ s.queue.items.length + posts t.log)

theorem Absorbs.refl (s : State) : Absorbs s s := ⟨Nat.le_refl _, fun _ => ⟨rfl, Nat.le_refl _⟩⟩

/-- A change that posts nothing and puts nothing into the queue. -/
theorem Absorbs.of_silent (absorbs : Absorbs s t) (posted : posts t'.log = posts t.log)
    (dropped : drops t'.log = drops t.log)
    (shorter : t'.queue.items.length ≤ t.queue.items.length) : Absorbs s t' := by
  unfold Absorbs
  rw [posted, dropped]
  refine ⟨absorbs.1, fun fits => ?_⟩
  obtain ⟨kept, bounded⟩ := absorbs.2 fits
  exact ⟨kept, by omega⟩

/-- A post that still fits meets a queue with room. -/
theorem Absorbs.post (absorbs : Absorbs s t) (producer : Producer) (cause : Nat) (event : AppEvent) :
    Absorbs s (postEvent producer cause event t) := by
  unfold Absorbs
  rw [posts_postEvent]
  refine ⟨Nat.le_succ_of_le absorbs.1, fun fits => ?_⟩
  obtain ⟨kept, bounded⟩ := absorbs.2 (by omega)
  rcases postEvent_cases producer cause event t with ⟨_, items, log⟩ | ⟨full, _, _⟩
  · rw [log, items]
    refine ⟨by simp [Obs.isDrop, kept], ?_⟩
    simp only [List.length_append, List.length_singleton]
    omega
  · have length : t.queue.items.length = kAppEventQueueSize := full
    omega

theorem Absorbs.postAll (absorbs : Absorbs s t) (producer : Producer) (cause : Nat)
    (events : List AppEvent) : Absorbs s (postAll producer cause events t) :=
  postAll_induction absorbs fun _ event _ absorbs => absorbs.post producer cause event

theorem Absorbs.note (absorbs : Absorbs s t) {obs : Obs} (noPost : obs.isPost = false)
    (noDrop : obs.isDrop = false) : Absorbs s (t.note obs) :=
  absorbs.of_silent (by simp [noPost]) (by simp [noDrop]) (Nat.le_refl _)

theorem Absorbs.withDevice (absorbs : Absorbs s t) (d : Device) : Absorbs s (t.withDevice d) := absorbs

theorem Absorbs.rearm (absorbs : Absorbs s t) (timer : TimerId) : Absorbs s (t.rearm timer) :=
  (absorbs.withDevice _).note rfl rfl

theorem Absorbs.clear (absorbs : Absorbs s t) : Absorbs s { t with pendingWrite := none } := absorbs

/-- Every step keeps the burst absorbed. -/
theorem absorbs_step (absorbs : Absorbs s t) (taken : step t a = some t') : Absorbs s t' := by
  cases stepEffect taken with
  | elapse duration => exact absorbs
  | write path value idle =>
      exact absorbs.of_silent (by simp [Obs.isPost]) (by simp [Obs.isDrop]) (Nat.le_refl _)
  | loadCallback w e pending load => exact (absorbs.clear.note rfl rfl).post _ _ _
  | otherCallback w pending other => exact absorbs.clear.note rfl rfl
  | functionExpiry due => exact (absorbs.rearm _).post _ _ _
  | sensorExpiry due => exact (absorbs.rearm _).postAll _ _ _
  | feederExpiry due =>
      exact ((Absorbs.withDevice (absorbs.rearm _) _).note rfl rfl).post _ _ _
  | edge buttonState hasChanged pushed changed level => exact (absorbs.note rfl rfl).post _ _ _
  | noEdge buttonState hasChanged unchanged => exact absorbs
  | ledUpdate ledWidget => exact (absorbs.note rfl rfl).post _ _ _
  | chip event => exact absorbs
  | chipCall access k chip => exact absorbs
  | get vars posted queue main items =>
      refine absorbs.of_silent rfl rfl ?_
      rw [items]
      exact Nat.le_succ _
  | call posted c k r rest main reports =>
      refine absorbs.of_silent ?_ ?_ (Nat.le_refl _)
      · rcases reports with rfl | ⟨path, value, _, rfl⟩ <;> simp [Obs.isPost]
      · rcases reports with rfl | ⟨path, value, _, rfl⟩ <;> simp [Obs.isDrop]
  | ret posted u vars main => exact absorbs.of_silent rfl rfl (Nat.le_refl _)

theorem absorbs_of_runAll {as : List Action} (ran : runAll step s as = some s') : Absorbs s s' := by
  have run : Reaches step (fun _ _ => True) s s' :=
    Reaches.refl.of_runAll (along_of_forall (fun _ _ => trivial) s as) ran
  exact run.invariant (I := Absorbs s) (.refl s) fun absorbs _ taken => absorbs_step absorbs taken

end Steps

/-- A stall is tolerated. Take any reachable state whose sensor timer is not overdue, and any run from it,
    however little of it the main thread gets: when the run is shorter than `stall` periods of the
    sensor timer and the other producers post at most `others` events in it, a queue with room for
    three events per period and for those others drops nothing. -/
theorem stall_tolerated (s s' : State) (reached : Reachable s)
    (onTime : ∀ d ∈ (s.device.timer .sSensorTimer).next, s.now < d) (as : List Action)
    (ran : runAll step s as = some s') (stall others : Nat) (short : s'.now < s.now + 5000 * stall)
    (few : otherPosts s'.log ≤ otherPosts s.log + others)
    (room : s.queue.items.length + 3 * stall + others ≤ kAppEventQueueSize) :
    drops s'.log = drops s.log := by
  have reached' : Reachable s' :=
    reached.of_runAll (along_of_forall (fun _ _ => trivial) s as) ran
  have clock := sensorClock_of_reachable reached
  have clock' := sensorClock_of_reachable reached'
  -- the next expiry lies ahead of the stall, so at most `stall` of them fall into it
  have ahead : s.now < 5000 * (expiries s.log + 1) := onTime _ (by rw [clock.timer]; rfl)
  have past := clock'.past
  have expired : expiries s'.log ≤ expiries s.log + stall := by omega
  have account := posts_eq reached
  have account' := posts_eq reached'
  exact ((absorbs_of_runAll ran).2 (by omega)).1

/-- Two expiries of the sensor timer, and between them a command for the heater, a push, a release and an
    LED update, with the main thread getting nothing done. -/
def stalled : List Action :=
  [.elapse 1, .expiry .sSensorTimer, .write Actuator.heater.onOffPath 1, .callback, .button 1 1,
   .button 0 1, .ledUpdate 0, .elapse 5000, .expiry .sSensorTimer]

/-- `stall_tolerated` on a stall that fills the queue to the last place. -/
theorem stall_tolerated_stalled :
    (after step (stateAfter [.elapse 4999]) stalled).queue.Full ∧
      drops (after step (stateAfter [.elapse 4999]) stalled).log = 0 :=
  ⟨by decide, stall_tolerated (stateAfter [.elapse 4999]) _ (reachable_stateAfter _)
    (fun d scheduled => by obtain rfl : _ = d := Option.some.inj scheduled; decide) stalled rfl 2 4
    (by decide) (by decide) (by decide)⟩

end DeviceWifi
