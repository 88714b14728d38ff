/-
Module: DeviceWifi.Proofs.FeederCut
Layer: Proofs
Purpose: When no feed is cut short by an older activation's timer. The deactivate events that wait look
  ahead to the feed they will find the servo driven by: each was posted for an off command issued after
  that feed's on command, or by an expiry two seconds after that feed's run. An expiry that `CutGuard`
  allows posts behind a feed that has restarted the timer, so its event is of the second kind.
Imports: DeviceWifi.Proofs.Feeder
Trusted boundary: none (fully proved)
Main exports: CutInv, cutInv_step, feed_not_cut, feed_not_cut_fails
Open obligations: none
-/
import DeviceWifi.Proofs.Feeder

namespace DeviceWifi

open Reactive

/-! ### Feeds in a growing log -/

/-- An entry that records no feeder call. -/
def Entry.Foreign (entry : Entry) : Prop :=
  match entry.obs with
  | .called _ c _ => isFeederCall c = false
  | _ => True

section Log

variable {log more : List Entry} {entry : Entry} {j : Nat} {on : Bool}

theorem feedAfter_foreign (foreign : entry.Foreign) (feed : Option Feed) :
    feedAfter feed entry = feed := by
  obtain ⟨time, obs⟩ := entry
  cases obs with
  | called cause c response =>
      cases c with
      | pwmSetPulseDt width => simp [Entry.Foreign, isFeederCall] at foreign
      | kTimerStart t duration period => cases t <;> simp_all [Entry.Foreign, isFeederCall, feedAfter]
      | _ => rfl
  | _ => rfl

theorem feedOf_concat : feedOf (log ++ [entry]) = feedAfter (feedOf log) entry := by
  simp [feedOf]

/-- Entries without feeder calls leave the feed alone. -/
theorem feedOf_append (foreign : ∀ entry ∈ more, entry.Foreign) :
    feedOf (log ++ more) = feedOf log := by
  induction more generalizing log with
  | nil => rw [List.append_nil]
  | cons entry rest ih =>
      rw [List.append_cons, ih fun entry new => foreign entry (List.mem_cons_of_mem _ new),
        feedOf_concat, feedAfter_foreign (foreign entry (List.mem_cons_self ..))]

theorem FeederCommand.append (command : FeederCommand log j on) :
    FeederCommand (log ++ more) j on := by
  obtain ⟨entry, found, commands⟩ := command
  exact ⟨entry, getElem?_append_of_some found, commands⟩

theorem FeederCommand.lt_length (command : FeederCommand log j on) : j < log.length := by
  obtain ⟨entry, found, _⟩ := command
  exact (List.getElem?_eq_some_iff.mp found).1

/-- No feed is cut by an entry that is no stop, nor by a stop that has a reason. -/
theorem FeedNotCut.concat (notCut : FeedNotCut log)
    (reason : ∀ cause response, entry.obs = .called cause (feederDrive false) response →
      ∀ feed ∈ feedOf log, FeederCommand log feed.cause true ∧
        ((∃ j, feed.cause < j ∧ FeederCommand log j false) ∨
          ∃ t ∈ feed.ended, t + 2000 ≤ entry.time)) : FeedNotCut (log ++ [entry]) := by
  intro n entry' found cause response stops feed fed
  rcases Nat.lt_or_ge n log.length with old | new
  · rw [Option.mem_def, List.getElem?_append_left old] at found
    rw [List.take_append_of_le_length (Nat.le_of_lt old)] at fed
    obtain ⟨commanded, why⟩ := notCut n entry' found cause response stops feed fed
    refine ⟨commanded.append, why.imp_left ?_⟩
    rintro ⟨j, before, after, off⟩
    exact ⟨j, before, after, off.append⟩
  · obtain rfl : n = log.length := by
      have inside := (List.getElem?_eq_some_iff.mp found).1
      simp only [List.length_append, List.length_singleton] at inside
      omega
    rw [Option.mem_def, List.getElem?_concat_length, Option.some.injEq] at found
    subst found
    rw [List.take_left] at fed
    obtain ⟨commanded, why⟩ := reason cause response stops feed fed
    refine ⟨commanded.append, why.imp_left ?_⟩
    rintro ⟨j, after, off⟩
    exact ⟨j, off.lt_length, after, off.append⟩

/-- Entries without feeder calls cut no feed. -/
theorem FeedNotCut.append (notCut : FeedNotCut log) (foreign : ∀ entry ∈ more, entry.Foreign) :
    FeedNotCut (log ++ more) := by
  induction more generalizing log with
  | nil => rwa [List.append_nil]
  | cons entry rest ih =>
      rw [List.append_cons]
      refine ih (notCut.concat fun cause response stops => ?_)
        fun entry new => foreign entry (List.mem_cons_of_mem _ new)
      have hidden := foreign entry (List.mem_cons_self ..)
      simp [Entry.Foreign, stops, feederDrive, isFeederCall] at hidden

end Log

/-! ### What the waiting feeder events will find -/

/-- The feed after a waiting event has been handled. -/
def feedNext (feed : Option Feed) (posted : Posted) : Option Feed :=
  match Actuator.feeder.command? posted.event with
  | some true => some ⟨posted.cause, none⟩
  | some false => none
  | none => feed

/-- A waiting feeder event and the feed it will find. An activate event was posted for an on command; a
    deactivate event for an off command issued after the feed's on command, or by an expiry two seconds
    after the feed's run. -/
def FeedJustified (log : List Entry) (feed : Option Feed) (posted : Posted) : Prop :=
  match Actuator.feeder.command? posted.event with
  | some true => FeederCommand log posted.cause true
  | some false => ∀ f ∈ feed, (f.cause < posted.cause ∧ FeederCommand log posted.cause false) ∨
      ∃ t ∈ f.ended, ∃ entry ∈ log[posted.cause]?, t + 2000 ≤ entry.time
  | none => True

theorem FeedJustified.append {log more : List Entry} {feed : Option Feed} {posted : Posted}
    (justified : FeedJustified log feed posted) : FeedJustified (log ++ more) feed posted := by
  unfold FeedJustified at justified ⊢
  split at justified
  · exact justified.append
  · intro f found
    rcases justified f found with ⟨after, off⟩ | ⟨t, ended, entry, caused, long⟩
    · exact Or.inl ⟨after, off.append⟩
    · exact Or.inr ⟨t, ended, entry, getElem?_append_of_some caused, long⟩
  · trivial

/-- The event in hand, while the handler has still to drive the servo. -/
def MainThread.toDrive (main : MainThread) : List Posted :=
  match main with
  | .waiting _ => []
  | .handling posted _ => if main.feederCalls.length = 2 then [posted] else []

theorem toDrive_eq_nil {main : MainThread} (driven : main.feederCalls.length ≠ 2) :
    main.toDrive = [] := by
  cases main with
  | waiting vars => rfl
  | handling posted rest => exact if_neg driven

theorem toDrive_of_both {main : MainThread} {posted : Posted} {c c' : Call}
    {rest : Prog Call Response (Unit × AppVars)} (running : main = .handling posted rest)
    (both : main.feederCalls = [c, c']) : main.toDrive = [posted] := by
  subst running
  exact if_pos (by rw [both]; rfl)

/-- The events that have still to drive the servo: the one in hand and those in the queue. -/
def State.backlog (s : State) : List Posted := s.main.toDrive ++ s.queue.items

/-- The feed once everything in hand and waiting has been handled. -/
def State.nextFeed (s : State) : Option Feed := Backlog.settle feedNext (feedOf s.log) s.backlog

/-- A bound on the causes of the commands that have reached the queue: the position of the store whose
    callback is still to come, or else the end of the log. -/
def State.commandBound (s : State) : Nat := (s.pendingWrite.map (·.cause)).getD s.log.length

/-- The invariant of runs whose steps meet `CutGuard` and in which every `pwm_set_pulse_dt` succeeds. -/
structure CutInv (s : State) : Prop where
  /-- No entry of the log lies in the future. -/
  past : ∀ entry ∈ s.log, entry.time ≤ s.now
  /-- The write under way is in the log. -/
  stored : ∀ w ∈ s.pendingWrite, ∃ entry ∈ s.log[w.cause]?, entry.obs = .written w.path w.value
  /-- The feed was caused by an on command. -/
  commanded : ∀ f ∈ feedOf s.log, FeederCommand s.log f.cause true
  /-- The feed's run has ended unless it is the one in hand, which has still to restart the timer. -/
  inRun : ∀ f ∈ feedOf s.log, f.ended = none ↔ s.main.feederCalls = [feederTimer true]
  /-- The timer is not due before two seconds after the feed's run. -/
  scheduled : ∀ f ∈ feedOf s.log, ∀ t ∈ f.ended, ∀ d ∈ (s.device.timer .sFeederMonoTimer).next,
    t + 2000 ≤ d
  /-- The waiting feeder events are justified by what they will find. -/
  justified : Backlog.EachFinds feedNext (FeedJustified s.log) (feedOf s.log) s.backlog
  /-- The last feed is older than the write under way. -/
  ordered : ∀ f ∈ s.nextFeed, f.cause < s.commandBound
  /-- No feed has been cut so far. -/
  notCut : FeedNotCut s.log

theorem cutInv_initial : CutInv State.initial where
  past := fun _ member => absurd member List.not_mem_nil
  stored := fun _ member => by simp [State.initial] at member
  commanded := fun _ member => by simp [State.initial, feedOf] at member
  inRun := fun _ member => by simp [State.initial, feedOf] at member
  scheduled := fun _ member => by simp [State.initial, feedOf] at member
  justified := trivial
  ordered := fun _ member => by
    simp [State.initial, State.nextFeed, State.backlog, MainThread.toDrive, feedOf,
      BoundedQueue.empty] at member
  notCut := fun _ _ member => by simp [State.initial] at member

section Environment

variable {s s' : State} {more : List Entry}

/-- The write under way stays in a longer log. -/
theorem CutInv.stored_append (inv : CutInv s) : ∀ w ∈ s.pendingWrite,
    ∃ entry ∈ (s.log ++ more)[w.cause]?, entry.obs = .written w.path w.value := by
  intro w writing
  obtain ⟨entry, found, written⟩ := inv.stored w writing
  exact ⟨entry, getElem?_append_of_some found, written⟩

/-- While the main thread's feeder calls stay and the log grows by entries without feeder calls, the
    invariant asks only what becomes of the queue, the feeder's timer and the write under way. -/
theorem CutInv.grow (inv : CutInv s) (main : s'.main.feederCalls = s.main.feederCalls)
    (log : s'.log = s.log ++ more) (later : s.now ≤ s'.now)
    (recent : ∀ entry ∈ more, entry.time ≤ s'.now ∧ entry.Foreign)
    (stored : ∀ w ∈ s'.pendingWrite, ∃ entry ∈ s'.log[w.cause]?, entry.obs = .written w.path w.value)
    (timer : (s'.device.timer .sFeederMonoTimer).NoSooner (s.device.timer .sFeederMonoTimer))
    (justified : Backlog.EachFinds feedNext (FeedJustified s'.log) (feedOf s.log) s'.backlog)
    (ordered : ∀ f ∈ Backlog.settle feedNext (feedOf s.log) s'.backlog, f.cause < s'.commandBound) :
    CutInv s' := by
  have feed : feedOf s'.log = feedOf s.log := by
    rw [log]
    exact feedOf_append fun entry new => (recent entry new).2
  constructor
  case past =>
    rw [log, List.forall_mem_append]
    exact ⟨fun entry old => Nat.le_trans (inv.past entry old) later,
      fun entry new => (recent entry new).1⟩
  case stored => exact stored
  case commanded =>
    intro f found
    rw [log]
    exact (inv.commanded f (feed ▸ found)).append
  case inRun =>
    rw [feed, main]
    exact inv.inRun
  case scheduled => exact fun f found t ended => timer.le (inv.scheduled f (feed ▸ found) t ended)
  case justified => exact feed ▸ justified
  case ordered =>
    rw [State.nextFeed, feed]
    exact ordered
  case notCut =>
    rw [log]
    exact inv.notCut.append fun entry new => (recent entry new).2

/-- A longer log moves the bound on command causes up. -/
theorem commandBound_le (pending : s'.pendingWrite = s.pendingWrite)
    (log : s.log.length ≤ s'.log.length) : s.commandBound ≤ s'.commandBound := by
  unfold State.commandBound
  rw [pending]
  cases s.pendingWrite with
  | none => exact log
  | some w => exact Nat.le_refl _

/-- An action that leaves the queue, the main thread, the write under way and the feeder's timer alone
    and records no feeder call keeps the invariant. -/
theorem CutInv.extend (inv : CutInv s) (main : s'.main = s.main) (queue : s'.queue = s.queue)
    (pending : s'.pendingWrite = s.pendingWrite) (log : s'.log = s.log ++ more)
    (later : s.now ≤ s'.now) (recent : ∀ entry ∈ more, entry.time ≤ s'.now ∧ entry.Foreign)
    (timer : (s'.device.timer .sFeederMonoTimer).NoSooner (s.device.timer .sFeederMonoTimer)) :
    CutInv s' := by
  have backlog : s'.backlog = s.backlog := by rw [State.backlog, main, queue]; rfl
  refine inv.grow (by rw [main]) log later recent ?_ timer ?_ ?_
  · rw [pending, log]
    exact inv.stored_append
  · rw [backlog, log]
    exact inv.justified.imp FeedJustified.append
  · rw [backlog]
    exact fun f found => Nat.lt_of_lt_of_le (inv.ordered f found)
      (commandBound_le pending (by rw [log]; simp))

/-- Recording an occurrence that is no feeder call keeps the invariant. -/
theorem CutInv.note (inv : CutInv s) (obs : Obs) (foreign : Entry.Foreign ⟨s.now, obs⟩) :
    CutInv (s.note obs) := by
  refine inv.extend rfl rfl rfl rfl (Nat.le_refl _) (fun entry new => ?_)
    (.refl _)
  obtain rfl := List.mem_singleton.mp new
  exact ⟨Nat.le_refl _, foreign⟩

/-- Changing the device without bringing the feeder's timer forward keeps the invariant. -/
theorem CutInv.withDevice (inv : CutInv s) {d : Device}
    (timer : (d.timer .sFeederMonoTimer).NoSooner (s.device.timer .sFeederMonoTimer)) :
    CutInv (s.withDevice d) :=
  inv.extend rfl rfl rfl (List.append_nil _).symm (Nat.le_refl _)
    (fun _ new => absurd new List.not_mem_nil) timer

/-- The invariant does not speak of `ChipEventHandler`. -/
theorem CutInv.withChip (inv : CutInv s) (chip : Prog Call Response Unit) :
    CutInv { s with chip := chip } :=
  inv.extend rfl rfl rfl (List.append_nil _).symm (Nat.le_refl _)
    (fun _ new => absurd new List.not_mem_nil) (.refl _)

/-- The expiry of a timer keeps the invariant. -/
theorem CutInv.rearm (inv : CutInv s) (t : TimerId) : CutInv (s.rearm t) := by
  have rearmed : CutInv (s.withDevice (s.device.setTimer t (s.device.timer t).expire)) :=
    inv.withDevice (setTimer_expire_noSooner _ _ _)
  exact rearmed.note (.expired t) trivial

/-- Posting an event that is justified by what it will find keeps the invariant. -/
theorem CutInv.post (inv : CutInv s) (producer : Producer) {cause : Nat} {event : AppEvent}
    (justified : FeedJustified s.log s.nextFeed ⟨event, cause⟩)
    (newest : Actuator.feeder.command? event = some true →
      s.pendingWrite = none ∧ cause < s.log.length) :
    CutInv (postEvent producer cause event s) := by
  rcases postEvent_cases producer cause event s with ⟨_, items, log⟩ | ⟨_, queue, log⟩
  · have backlog : (postEvent producer cause event s).backlog = s.backlog ++ [⟨event, cause⟩] := by
      rw [State.backlog, postEvent_main, items, ← List.append_assoc]
      rfl
    have bound : s.commandBound ≤ (postEvent producer cause event s).commandBound :=
      commandBound_le (by simp) (by rw [log]; simp)
    refine inv.grow (by simp) log (by simp) (fun entry new => ?_) ?_ (.of_eq (by simp)) ?_ ?_
    · obtain rfl := List.mem_singleton.mp new
      exact ⟨by simp, trivial⟩
    · rw [postEvent_pendingWrite, log]
      exact inv.stored_append
    · rw [backlog, log]
      exact (inv.justified.imp FeedJustified.append).concat justified.append
    · rw [backlog, Backlog.settle_concat]
      intro f found
      unfold feedNext at found
      split at found
      next on =>
        obtain ⟨idle, old⟩ := newest on
        obtain rfl := Option.some.inj found
        simp only [State.commandBound, postEvent_pendingWrite, idle, Option.map_none,
          Option.getD_none, log, List.length_append]
        omega
      next => simp at found
      next => exact Nat.lt_of_lt_of_le (inv.ordered f found) bound
  · refine inv.extend (by simp) queue (by simp) log (by simp) (fun entry new => ?_)
      (.of_eq (by simp))
    obtain rfl := List.mem_singleton.mp new
    exact ⟨by simp, trivial⟩

/-- Posting an event that is no feeder event keeps the invariant. -/
theorem CutInv.postSilent (inv : CutInv s) (producer : Producer) (cause : Nat) {event : AppEvent}
    (silent : Actuator.feeder.command? event = none) : CutInv (postEvent producer cause event s) :=
  inv.post producer (by simp [FeedJustified, silent]) (by simp [silent])

end Environment

/-! ### The producers of feeder events -/

section Producers

variable {s : State}

theorem nextFeed_note (obs : Obs) (foreign : Entry.Foreign ⟨s.now, obs⟩) :
    (s.note obs).nextFeed = s.nextFeed := by
  have feed : feedOf (s.note obs).log = feedOf s.log :=
    feedOf_append fun entry new => by rwa [List.mem_singleton.mp new]
  rw [State.nextFeed, feed]
  rfl

/-- A store begins a write that is newer than every command before it. -/
theorem CutInv.write (inv : CutInv s) (path : ConcreteAttributePath) (value : UInt8)
    (idle : s.pendingWrite = none) :
    CutInv ({ s with
      device := s.device.setAttribute path value
      pendingWrite := some ⟨path, value, s.log.length⟩ }.note (.written path value)) := by
  refine inv.grow rfl rfl (Nat.le_refl _) (fun entry new => ?_) (fun w writing => ?_)
    (.refl _) (inv.justified.imp FeedJustified.append)
    fun f found => ?_
  · obtain rfl := List.mem_singleton.mp new
    exact ⟨Nat.le_refl _, trivial⟩
  · obtain rfl := Option.some.inj writing
    exact ⟨⟨s.now, .written path value⟩, by simp, rfl⟩
  · have older := inv.ordered f found
    simpa [State.commandBound, idle] using older

/-- The callback ends the write under way. -/
theorem CutInv.deliver (inv : CutInv s) {w : PendingWrite} (pending : s.pendingWrite = some w) :
    CutInv ({ s with pendingWrite := none }.note (.delivered w.path w.value)) := by
  refine inv.grow rfl rfl (Nat.le_refl _) (fun entry new => ?_) nofun
    (.refl _) (inv.justified.imp FeedJustified.append)
    fun f found => ?_
  · obtain rfl := List.mem_singleton.mp new
    exact ⟨Nat.le_refl _, trivial⟩
  · have older := inv.ordered f found
    obtain ⟨entry, stored, _⟩ := inv.stored w pending
    have inside : w.cause < s.log.length := (List.getElem?_eq_some_iff.mp stored).1
    simp only [State.commandBound, pending, Option.map_some, Option.getD_some] at older
    simp only [State.commandBound, note_pendingWrite, Option.map_none, Option.getD_none, note_log,
      List.length_append]
    omega

/-- The event of a callback is justified: an off command of the feeder is newer than the feed its event
    will find. -/
theorem CutInv.callback (inv : CutInv s) {w : PendingWrite} (e : Actuator)
    (pending : s.pendingWrite = some w) (load : w.path = e.onOffPath) :
    CutInv (postEvent (.attributeChange e.onOffPath w.value) w.cause (e.event (isOn w.value))
      ({ s with pendingWrite := none }.note (.delivered e.onOffPath w.value))) := by
  have delivered : CutInv ({ s with pendingWrite := none }.note (.delivered e.onOffPath w.value)) :=
    load ▸ inv.deliver pending
  obtain ⟨entry, stored, written⟩ := inv.stored w pending
  by_cases own : e = .feeder
  · subst own
    have command : FeederCommand s.log w.cause (isOn w.value) :=
      ⟨entry, stored, by simp [written, load, Obs.feederCommand?]⟩
    refine delivered.post _ ?_ fun _ => ⟨rfl, ?_⟩
    · rw [FeedJustified]
      simp only [command?_event, if_true]
      cases on : isOn w.value with
      | true => exact (on ▸ command).append
      | false =>
          intro f found
          refine Or.inl ⟨?_, (on ▸ command).append⟩
          have same : State.nextFeed ({ s with pendingWrite := none }.note
              (.delivered Actuator.feeder.onOffPath w.value)) = s.nextFeed := nextFeed_note _ trivial
          have older := inv.ordered f (same ▸ found)
          simpa [State.commandBound, pending] using older
    · exact Nat.lt_of_lt_of_le command.lt_length (by simp)
  · exact delivered.postSilent _ _ (by simp [own])

/-- Where no activation is still to restart the timer, what the last waiting event will find is the
    present feed, and its run has ended. -/
theorem feed_of_not_pending (inv : CutInv s) (settled : HandlerSettled s.main)
    (restarted : s.activationPending = false) {f : Feed} (found : f ∈ s.nextFeed) :
    f ∈ feedOf s.log ∧ f.ended ≠ none := by
  have related : s.activationPending = false →
      ∀ f ∈ s.nextFeed, f ∈ feedOf s.log ∧ f.ended ≠ none := by
    unfold State.activationPending State.nextFeed State.backlog
    rw [Backlog.settle_append]
    refine Backlog.settle_rel (R := fun pending feed => pending = false →
      ∀ f ∈ feed, f ∈ feedOf s.log ∧ f.ended ≠ none) (fun idle f held => ?_)
      fun posted _ keeps idle f held => ?_
    · -- what the event in hand leaves
      have ended (last : s.main.feederCalls ≠ [feederTimer true]) (fed : f ∈ feedOf s.log) :
          f ∈ feedOf s.log ∧ f.ended ≠ none :=
        ⟨fed, fun running => last ((inv.inRun f fed).mp running)⟩
      rcases feederCalls_cases settled with none | ⟨posted, rest, on, main, command, both | one⟩
      · rw [toDrive_eq_nil (by simp [none])] at held
        exact ended (by simp [none]) held
      · cases on with
        | true => simp [both] at idle
        | false => simp [toDrive_of_both main both, feedNext, command] at held
      · cases on with
        | true => simp [one] at idle
        | false =>
            rw [toDrive_eq_nil (by simp [one])] at held
            exact ended (by simp [one, feederTimer]) held
    · -- what each event in the queue leaves
      cases command : Actuator.feeder.command? posted.event with
      | none =>
          simp only [activationNext, feedNext, command, Option.getD_none] at idle held
          exact keeps idle f held
      | some on => cases on <;> simp [activationNext, feedNext, command] at idle held
  exact related restarted f found

/-- An expiry of the feeder's timer keeps the invariant unless an activation is still to restart the
    timer: its event is posted two seconds after the run of the feed it will find. -/
theorem CutInv.expiry (inv : CutInv s) (settled : HandlerSettled s.main)
    (due : (s.device.timer .sFeederMonoTimer).Due s.now) (restarted : s.activationPending = false) :
    CutInv
      (postEvent (.attributeChange Actuator.feeder.onOffPath 0) s.log.length
        (Actuator.feeder.event false)
        (((s.rearm .sFeederMonoTimer).withDevice
          ((s.rearm .sFeederMonoTimer).device.setAttribute Actuator.feeder.onOffPath 0)).note
          (.delivered Actuator.feeder.onOffPath 0))) := by
  have rearmed : CutInv ((s.rearm .sFeederMonoTimer).withDevice
      ((s.rearm .sFeederMonoTimer).device.setAttribute Actuator.feeder.onOffPath 0)) :=
    (inv.rearm .sFeederMonoTimer).withDevice (.refl _)
  refine (rearmed.note (.delivered Actuator.feeder.onOffPath 0) trivial).post _ ?_ (by simp)
  rw [FeedJustified]
  simp only [command?_event, if_true]
  intro f found
  have same : State.nextFeed (((s.rearm .sFeederMonoTimer).withDevice
      ((s.rearm .sFeederMonoTimer).device.setAttribute Actuator.feeder.onOffPath 0)).note
      (.delivered Actuator.feeder.onOffPath 0)) = s.nextFeed :=
    (nextFeed_note (.delivered Actuator.feeder.onOffPath 0) trivial).trans
      (nextFeed_note (.expired .sFeederMonoTimer) trivial)
  obtain ⟨fed, ended⟩ := feed_of_not_pending inv settled restarted (same ▸ found)
  obtain ⟨t, atEnd⟩ := Option.ne_none_iff_exists'.mp ended
  obtain ⟨d, scheduled, reached⟩ := due
  refine Or.inr ⟨t, atEnd, ⟨s.now, .expired .sFeederMonoTimer⟩, by simp, ?_⟩
  exact Nat.le_trans (inv.scheduled f fed t atEnd d scheduled) reached

end Producers

/-! ### The steps of the main thread -/

section Main

variable {s : State} {posted : Posted} {vars : AppVars}

/-- Taking an event into its handler keeps the invariant: what waited is in hand. -/
theorem CutInv.get (inv : CutInv s) {queue : BoundedQueue Posted kAppEventQueueSize}
    (main : s.main = .waiting vars) (items : s.queue.items = posted :: queue.items) :
    CutInv { s with
      queue := queue
      main := .handling posted ((dispatchEvent posted.event).run vars) } := by
  have before : s.backlog = posted :: queue.items := by
    rw [State.backlog, main, items]
    rfl
  have notLast : (MainThread.handling posted ((dispatchEvent posted.event).run vars)).feederCalls ≠
      [feederTimer true] := by
    rw [feederCalls_get]
    split <;> simp
  have inRun : ∀ f ∈ feedOf s.log, f.ended ≠ none := by
    intro f fed ended
    have last := (inv.inRun f fed).mp ended
    simp [main] at last
  have moved : Backlog.EachFinds feedNext (FeedJustified s.log) (feedOf s.log)
        ((MainThread.handling posted ((dispatchEvent posted.event).run vars)).toDrive ++
          queue.items) ∧
      Backlog.settle feedNext (feedOf s.log)
        ((MainThread.handling posted ((dispatchEvent posted.event).run vars)).toDrive ++
          queue.items) = s.nextFeed := by
    have justified := inv.justified
    rw [State.nextFeed]
    rw [before] at justified ⊢
    cases command : Actuator.feeder.command? posted.event with
    | some on =>
        rw [toDrive_of_both rfl (by rw [feederCalls_get, command])]
        exact ⟨justified, rfl⟩
    | none =>
        have keeps : feedNext (feedOf s.log) posted = feedOf s.log := by simp [feedNext, command]
        rw [toDrive_eq_nil (by simp [command])]
        rw [Backlog.settle_cons, keeps]
        exact ⟨keeps ▸ justified.2, rfl⟩
  exact ⟨inv.past, inv.stored, inv.commanded,
    fun f fed => iff_of_false (inRun f fed) notLast, inv.scheduled, moved.1,
    fun f found => inv.ordered f (moved.2 ▸ found), inv.notCut⟩

/-- The second feed is the first, whose run may have ended in between. -/
def SameFeed (feed feed' : Option Feed) : Prop :=
  ∀ g ∈ feed', ∃ f ∈ feed, f.cause = g.cause ∧ (f.ended = none ∨ f.ended = g.ended)

theorem SameFeed.next {feed feed' : Option Feed} (same : SameFeed feed feed') (posted : Posted) :
    SameFeed (feedNext feed posted) (feedNext feed' posted) := by
  unfold feedNext
  split
  · exact fun g found => ⟨g, found, rfl, Or.inr rfl⟩
  · exact fun g found => absurd found nofun
  · exact same

/-- What justifies an event for a feed still does so after the feed's run. -/
theorem FeedJustified.sameFeed {log : List Entry} {feed feed' : Option Feed} {posted : Posted}
    (same : SameFeed feed feed') (justified : FeedJustified log feed posted) :
    FeedJustified log feed' posted := by
  unfold FeedJustified at justified ⊢
  split at justified
  · exact justified
  · intro g found
    obtain ⟨f, fed, cause, ended⟩ := same g found
    rcases justified f fed with ⟨after, off⟩ | ⟨t, atEnd, entry, caused, long⟩
    · exact Or.inl ⟨cause ▸ after, off⟩
    · rcases ended with none | ended
      · simp [none] at atEnd
      · exact Or.inr ⟨t, ended ▸ atEnd, entry, caused, long⟩
  · trivial

/-- A successful call on the servo makes of the feed what was seen ahead for the event in hand. -/
theorem feedOf_drive {log : List Entry} {now : Nat} {r : Response} {on : Bool} (success : r.rc = 0)
    (command : Actuator.feeder.command? posted.event = some on) :
    feedOf (log ++ [⟨now, .called posted.cause (feederDrive on) r⟩]) =
      feedNext (feedOf log) posted := by
  cases on <;> simp [feedOf_concat, feedAfter, feederDrive, success, feedNext, command, pulse]

/-- Starting the feeder's timer ends the run of the feed, stopping it changes nothing. -/
theorem feedOf_timer (log : List Entry) (now cause : Nat) (r : Response) (on : Bool) :
    feedOf (log ++ [⟨now, .called cause (feederTimer on) r⟩]) =
      if on then (feedOf log).map fun f => { f with ended := some now } else feedOf log := by
  cases on <;> rw [feedOf_concat] <;> rfl

/-- A call on the feeder's timer keeps the feed, whose run has not ended before its timer is started. -/
theorem CutInv.sameFeed (inv : CutInv s) {now cause : Nat} {r : Response} {on : Bool}
    (one : s.main.feederCalls = [feederTimer on]) :
    SameFeed (feedOf s.log) (feedOf (s.log ++ [⟨now, .called cause (feederTimer on) r⟩])) := by
  rw [feedOf_timer]
  cases on with
  | true =>
      intro g found
      obtain ⟨f, fed, rfl⟩ := Option.map_eq_some_iff.mp found
      exact ⟨f, fed, rfl, Or.inl ((inv.inRun f fed).mpr one)⟩
  | false => exact fun g found => ⟨g, found, rfl, Or.inr rfl⟩

/-- A call on the servo keeps the invariant: the event in hand drives it as it was seen to do. -/
theorem CutInv.drive (inv : CutInv s) (on : Bool)
    {k : Response → Prog Call Response (Unit × AppVars)} {r : Response} (success : r.rc = 0)
    (main : s.main = .handling posted (.call (feederDrive on) k))
    (command : Actuator.feeder.command? posted.event = some on)
    (both : s.main.feederCalls = [feederDrive on, feederTimer on])
    (one : (MainThread.handling posted (k r)).feederCalls = [feederTimer on]) :
    CutInv { s with
      main := .handling posted (k r)
      device := effect s.now (feederDrive on) r s.device
      log := s.log ++ [⟨s.now, .called posted.cause (feederDrive on) r⟩] } := by
  have before : s.backlog = posted :: s.queue.items := by
    rw [State.backlog, toDrive_of_both main both]
    rfl
  have after : (MainThread.handling posted (k r)).toDrive = [] := toDrive_eq_nil (by simp [one])
  have feed : feedOf (s.log ++ [⟨s.now, .called posted.cause (feederDrive on) r⟩]) =
      feedNext (feedOf s.log) posted := feedOf_drive success command
  have justified := inv.justified
  rw [before] at justified
  have bound : s.commandBound ≤ State.commandBound { s with
      log := s.log ++ [⟨s.now, .called posted.cause (feederDrive on) r⟩] } :=
    commandBound_le rfl (by simp)
  have head := justified.1
  simp only [FeedJustified, command] at head
  constructor
  case past => exact List.forall_mem_append.mpr ⟨inv.past, by simp⟩
  case stored => exact inv.stored_append
  case commanded =>
    rw [feed]
    cases on with
    | true =>
        intro f found
        simp only [feedNext, command, Option.mem_def, Option.some.injEq] at found
        exact found ▸ head.append
    | false => simp [feedNext, command]
  case inRun =>
    rw [feed, one]
    cases on with
    | true =>
        intro f found
        simp only [feedNext, command, Option.mem_def, Option.some.injEq] at found
        exact iff_of_true (found ▸ rfl) rfl
    | false => simp [feedNext, command]
  case scheduled =>
    rw [feed]
    cases on <;> simp [feedNext, command]
  case justified =>
    rw [feed, State.backlog, after]
    exact Backlog.EachFinds.imp justified.2 FeedJustified.append
  case ordered =>
    rw [State.nextFeed, State.backlog, after, feed]
    intro f found
    refine Nat.lt_of_lt_of_le (inv.ordered f ?_) bound
    rwa [State.nextFeed, before]
  case notCut =>
    refine inv.notCut.concat fun cause response stops f fed => ⟨inv.commanded f fed, ?_⟩
    cases on with
    | true => simp [feederDrive, pulse] at stops
    | false =>
        rcases head f fed with ⟨after, off⟩ | ⟨t, ended, entry, caused, long⟩
        · exact Or.inl ⟨posted.cause, after, off⟩
        · exact Or.inr ⟨t, ended, Nat.le_trans long (inv.past _ (List.mem_of_getElem? caused))⟩

/-- A call on the feeder's timer keeps the invariant: starting it ends the run of the feed in hand. -/
theorem CutInv.timer (inv : CutInv s) (on : Bool)
    {k : Response → Prog Call Response (Unit × AppVars)} {r : Response}
    (one : s.main.feederCalls = [feederTimer on])
    (done : (MainThread.handling posted (k r)).feederCalls = []) :
    CutInv { s with
      main := .handling posted (k r)
      device := effect s.now (feederTimer on) r s.device
      log := s.log ++ [⟨s.now, .called posted.cause (feederTimer on) r⟩] } := by
  have before : s.backlog = s.queue.items := by
    rw [State.backlog, toDrive_eq_nil (by simp [one])]
    rfl
  have after : (MainThread.handling posted (k r)).toDrive = [] := toDrive_eq_nil (by simp [done])
  have feed := feedOf_timer s.log s.now posted.cause r on
  have same : SameFeed (feedOf s.log)
      (feedOf (s.log ++ [⟨s.now, .called posted.cause (feederTimer on) r⟩])) := inv.sameFeed one
  have justified := inv.justified
  rw [before] at justified
  constructor
  case past => exact List.forall_mem_append.mpr ⟨inv.past, by simp⟩
  case stored => exact inv.stored_append
  case commanded =>
    intro g found
    obtain ⟨f, fed, cause, _⟩ := same g found
    exact cause ▸ (inv.commanded f fed).append
  case inRun =>
    intro g found
    rw [feed] at found
    rw [done]
    cases on with
    | true =>
        obtain ⟨f, _, rfl⟩ := Option.map_eq_some_iff.mp found
        simp
    | false =>
        refine iff_of_false (fun ended => ?_) (by simp)
        have last := (inv.inRun g found).mp ended
        simp [one, feederTimer] at last
  case scheduled =>
    intro g found
    rw [feed] at found
    cases on with
    | true =>
        obtain ⟨f, _, rfl⟩ := Option.map_eq_some_iff.mp found
        simp [feederTimer, effect_timer]
    | false => simp [feederTimer, effect_timer]
  case justified =>
    rw [State.backlog, after]
    exact Backlog.EachFinds.sim justified same (fun same => same.next _)
      fun same justified => justified.append.sameFeed same
  case ordered =>
    intro g found
    rw [State.nextFeed, State.backlog, after] at found
    have last : SameFeed s.nextFeed (Backlog.settle feedNext (feedOf (s.log ++
        [⟨s.now, .called posted.cause (feederTimer on) r⟩])) s.queue.items) := by
      rw [State.nextFeed, before]
      exact Backlog.settle_rel same fun posted _ same => same.next posted
    obtain ⟨f, held, cause, _⟩ := last g found
    rw [← cause]
    exact Nat.lt_of_lt_of_le (inv.ordered f held) (commandBound_le rfl (by simp))
  case notCut =>
    apply inv.notCut.concat
    intro cause response stops
    cases on <;> simp [feederTimer, feederDrive] at stops

/-- A call of the running handler keeps the invariant, if a call on the servo succeeds. -/
theorem CutInv.call (inv : CutInv s) {c : Call}
    {k : Response → Prog Call Response (Unit × AppVars)} {r : Response} {rest : List Entry}
    (main : s.main = .handling posted (.call c k)) (settled : HandlerSettled s.main)
    (success : Obs.pwmFailed (.called posted.cause c r) = false)
    (reports : ∀ entry ∈ rest, entry.time ≤ s.now ∧ entry.Foreign) :
    CutInv { s with
      main := .handling posted (k r)
      device := effect s.now c r s.device
      log := s.log ++ (⟨s.now, .called posted.cause c r⟩ :: rest) } := by
  have made : CutInv { s with
      main := .handling posted (k r)
      device := effect s.now c r s.device
      log := s.log ++ [⟨s.now, .called posted.cause c r⟩] } := by
    cases feederCallStep (main ▸ settled) r with
    | foreign hidden same =>
        rw [← main] at same
        have backlog : (MainThread.handling posted (k r)).toDrive ++ s.queue.items = s.backlog := by
          rw [main] at same
          simp only [State.backlog, MainThread.toDrive, main, same]
        refine inv.grow same rfl (Nat.le_refl _) (fun entry new => ?_) inv.stored_append
          (.of_eq (effect_foreign _ _ _ hidden).2) ?_ ?_
        · rw [List.mem_singleton.mp new]
          exact ⟨Nat.le_refl _, hidden⟩
        · rw [State.backlog, backlog]
          exact inv.justified.imp FeedJustified.append
        · rw [State.backlog, backlog]
          exact fun f found => Nat.lt_of_lt_of_le (inv.ordered f found)
            (commandBound_le rfl (by simp))
    | drive on command made both one =>
        subst made
        have passed : r.rc = 0 := by simpa [Obs.pwmFailed, feederDrive] using success
        exact inv.drive on passed main command (main ▸ both) one
    | timer on command made one none =>
        subst made
        exact inv.timer on (main ▸ one) none
  exact made.extend rfl rfl rfl (List.append_cons ..) (Nat.le_refl _) reports
    (.refl _)

/-- A handler that returns keeps the invariant. -/
theorem CutInv.ret (inv : CutInv s) {u : Unit} (main : s.main = .handling posted (.pure (u, vars)))
    (settled : HandlerSettled s.main) : CutInv { s with main := .waiting vars } := by
  have done : s.main.feederCalls = [] := by rw [main, feederCalls_ret (main ▸ settled)]
  have same : State.backlog { s with main := .waiting vars } = s.backlog := by
    rw [State.backlog, State.backlog,
      toDrive_eq_nil (by simp [done] : s.main.feederCalls.length ≠ 2)]
    rfl
  refine inv.grow done.symm (List.append_nil _).symm (Nat.le_refl _)
    (fun _ new => absurd new List.not_mem_nil) inv.stored (.refl _) ?_ ?_
  · rw [same]
    exact inv.justified
  · rw [same]
    exact inv.ordered

end Main

/-! ### Whole runs -/

/-- Every step that meets the guard and in which no `pwm_set_pulse_dt` fails keeps the invariant. -/
theorem cutInv_step {s s' : State} {a : Action} (settled : HandlerSettled s.main) (inv : CutInv s)
    (guarded : CutGuard s a) (succeeds : PwmSucceeds s'.log) (taken : step s a = some s') :
    CutInv s' := by
  cases stepEffect taken with
  | elapse duration =>
      exact inv.extend rfl rfl rfl (List.append_nil _).symm (Nat.le_add_right _ _)
        (fun _ new => absurd new List.not_mem_nil) (.refl _)
  | write path value idle => exact inv.write path value idle
  | loadCallback w e pending load => exact inv.callback e pending load
  | otherCallback w pending other => exact inv.deliver pending
  | functionExpiry due => exact (inv.rearm .sFunctionTimer).postSilent _ _ (by simp)
  | sensorExpiry due =>
      exact postAll_induction (I := CutInv) (inv.rearm .sSensorTimer) fun t event posted inv' =>
        inv'.postSilent _ _ (command?_sensorTimerHandler .feeder posted)
  | feederExpiry due => exact inv.expiry settled due (guarded rfl)
  | edge buttonState hasChanged pushed changed level =>
      exact (inv.note (.edge pushed) trivial).postSilent _ _ (by simp)
  | noEdge buttonState hasChanged unchanged => exact inv
  | ledUpdate ledWidget => exact (inv.note (.ledUpdate ledWidget) trivial).postSilent _ _ (by simp)
  | chip event => exact inv.withChip _
  | chipCall access k chip => exact (inv.withDevice (d := access.effect s.device) (.of_eq (by simp))).withChip _
  | get vars posted queue main items => exact inv.get main items
  | call posted c k r rest main reports =>
      refine inv.call main settled (succeeds ⟨s.now, .called posted.cause c r⟩ (by simp))
        fun entry new => ?_
      rcases reports with rfl | ⟨path, value, _, rfl⟩
      · exact absurd new List.not_mem_nil
      · rw [List.mem_singleton.mp new]
        exact ⟨Nat.le_refl _, trivial⟩
  | ret posted u vars main => exact inv.ret main settled

/-- No feed is cut short: in every run whose steps meet `CutGuard` and in which every
    `pwm_set_pulse_dt` succeeds, a stop of a feed's servo follows an off command issued after the feed's
    on command, or the end of the feed's run by at least two seconds. -/
theorem feed_not_cut (s : State) (reached : ReachableWhen CutGuard s)
    (succeeds : PwmSucceeds s.log) : FeedNotCut s.log := by
  have inv : CutInv s := by
    refine reached.invariant_with (I := fun s => PwmSucceeds s.log → CutInv s)
      (fun run => settled_of_reachable (ReachableWhen.reachable run)) (fun _ => cutInv_initial)
      (fun settled inv guarded taken succeeds => ?_) succeeds
    have before := succeeds.of_prefix (log_prefix_of_step taken)
    exact cutInv_step settled (inv before) guarded succeeds taken
  exact inv.notCut

/-- The hypotheses of `feed_not_cut` are met by a run whose feed is stopped by its timer. -/
theorem feed_not_cut_feedOnce :
    FeedNotCut (stateAfter feedOnce).log ∧
      ⟨2000, .called 5 (feederDrive false) default⟩ ∈ (stateAfter feedOnce).log := by
  have guarded : Along step CutGuard State.initial feedOnce := by decide
  exact ⟨feed_not_cut _ (reachableWhen_stateAfter guarded) (by decide), by decide⟩

/-- The feeder runs; an off and then an on command are queued behind a slow handler, and before they are
    handled the timer of the first feed expires. Then all three events are handled. -/
def overtaken : List Action :=
  [.write Actuator.feeder.onOffPath 1, .callback, .get, .call default, .call default, .ret,
    .elapse 1900, .write Actuator.feeder.onOffPath 0, .callback,
    .elapse 50, .write Actuator.feeder.onOffPath 1, .callback,
    .elapse 50, .expiry .sFeederMonoTimer,
    .get, .call default, .call default, .ret, .get, .call default, .call default, .ret,
    .get, .call default, .call default, .ret]

/-- Feeds are cut short: the second feed, started at 2000 ms, is stopped at once by the expiry of the
    first one's timer. -/
theorem feed_not_cut_fails :
    ¬ ∀ s, Reachable s → NoPutFails s.log → PwmSucceeds s.log → FeedNotCut s.log := by
  intro notCut
  have held := notCut (stateAfter overtaken) (reachable_stateAfter _) (by decide +kernel)
    (by decide +kernel)
  have stop : (stateAfter overtaken).log[18]? =
      some ⟨2000, .called 11 (feederDrive false) default⟩ := by decide +kernel
  have feed : feedOf ((stateAfter overtaken).log.take 18) = some ⟨8, some 2000⟩ := by
    decide +kernel
  exact absurd (held 18 _ stop 11 default rfl _ feed) (by decide +kernel)

end DeviceWifi
