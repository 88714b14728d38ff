/-
Module: DeviceWifi.Proofs.Provenance
Layer: Proofs
Purpose: Every effect has its occurrence. What waits in the queue or is in the hand of the main thread was
  posted for an occurrence in the log, so every SDK call was made for an occurrence that licenses it. The
  pairs of cause and call site that have been used, and those the waiting events may still use, are all
  different, so no occurrence leads to a call twice.
Imports: DeviceWifi.Spec.Provenance, DeviceWifi.Proofs.Sequential, DeviceWifi.Proofs.Pipeline
Trusted boundary: none (fully proved)
Main exports: licenses_of_mayCall, Provenance, provenance_of_reachable, calls_licensed, calls_once
Open obligations: none
-/
import DeviceWifi.Spec.Provenance
import DeviceWifi.Proofs.Sequential
import DeviceWifi.Proofs.Pipeline

namespace DeviceWifi

open Reactive

/-! ### From occurrences to call sites -/

/-- What a load's event calls for, by its sites. -/
theorem sites_event (e : Actuator) (on : Bool) :
    (e.event on).sites =
      match e.relay? with
      | some spec => [.gpioPinSetDt spec (level on)]
      | none => [feederDrive on, feederTimer on] := by
  cases e <;> cases on <;> rfl

/-- A call is its own site, or publishes a measured value, or has the status LED blink. -/
theorem site_cases (c : Call) :
    c.site = c ∨ (∃ endpoint value, c = .temperatureMeasuredValueSet endpoint value) ∨
      (∃ endpoint value, c = .humidityMeasuredValueSet endpoint value) ∨
        ∃ rate, c = .status (.ledBlink rate) := by
  cases c with
  | temperatureMeasuredValueSet endpoint value => exact Or.inr (Or.inl ⟨endpoint, value, rfl⟩)
  | humidityMeasuredValueSet endpoint value => exact Or.inr (Or.inr (Or.inl ⟨endpoint, value, rfl⟩))
  | status access =>
      cases access with
      | ledBlink rate => exact Or.inr (Or.inr (Or.inr ⟨rate, rfl⟩))
      | _ => exact Or.inl rfl
  | _ => exact Or.inl rfl

/-- A call at a site of a DHT sensor's event reads the sensor or publishes on its endpoints. -/
theorem licenses_dht (sensor : Sensor) (channels : sensor.channels = [.ambientTemp, .humidity])
    {c : Call} (site : c.site ∈ dhtSites sensor.device (sensor.endpoint .ambientTemp)
      (sensor.endpoint .humidity)) : Licenses (.expired .sSensorTimer) c := by
  simp only [dhtSites, List.mem_cons, List.not_mem_nil, or_false] at site
  rcases site_cases c with same | ⟨endpoint, value, rfl⟩ | ⟨endpoint, value, rfl⟩ | ⟨rate, rfl⟩
  · rw [same] at site
    rcases site with rfl | rfl | rfl | rfl | rfl
    · exact .fetch sensor
    · exact .read sensor .ambientTemp (by simp [channels])
    · exact .read sensor .humidity (by simp [channels])
    · exact .publishTemperature sensor 0
    · exact .publishHumidity sensor 0 (by simp [channels])
  · simp only [Call.site, Call.temperatureMeasuredValueSet.injEq, and_true, reduceCtorEq, false_or,
      or_false] at site
    exact site ▸ .publishTemperature sensor value
  · simp only [Call.site, Call.humidityMeasuredValueSet.injEq, and_true, reduceCtorEq,
      false_or] at site
    exact site ▸ .publishHumidity sensor value (by simp [channels])
  · simp [Call.site] at site

/-- A call at a site of a sensor's event is what the sensor timer is for. -/
theorem licenses_sensor (sensor : Sensor) {c : Call} (site : c.site ∈ sensor.event.sites) :
    Licenses (.expired .sSensorTimer) c := by
  cases sensor with
  | hot => exact licenses_dht .hot rfl site
  | cold => exact licenses_dht .cold rfl site
  | waterTemp =>
      have sites : Sensor.waterTemp.event.sites = [.sensorSampleFetch .ds18b20,
          .sensorChannelGet .ds18b20 .ambientTemp, .temperatureMeasuredValueSet 11 0] := rfl
      simp only [sites, List.mem_cons, List.not_mem_nil, or_false] at site
      rcases site_cases c with same | ⟨endpoint, value, rfl⟩ | ⟨endpoint, value, rfl⟩ | ⟨rate, rfl⟩
      · rw [same] at site
        rcases site with rfl | rfl | rfl
        · exact .fetch .waterTemp
        · exact .read .waterTemp .ambientTemp (by decide)
        · exact .publishTemperature .waterTemp 0
      · simp only [Call.site, Call.temperatureMeasuredValueSet.injEq, and_true, reduceCtorEq,
          false_or] at site
        exact site ▸ .publishTemperature .waterTemp value
      · simp [Call.site] at site
      · simp [Call.site] at site

/-- At the sites of every other event a call is its own site. -/
theorem eq_of_site {c : Call} {sites : List Call} (site : c.site ∈ sites)
    (plain : ∀ endpoint, .temperatureMeasuredValueSet endpoint 0 ∉ sites ∧
      .humidityMeasuredValueSet endpoint 0 ∉ sites ∧ .status (.ledSet true) ∉ sites) : c ∈ sites := by
  rcases site_cases c with same | ⟨endpoint, value, rfl⟩ | ⟨endpoint, value, rfl⟩ | ⟨rate, rfl⟩
  · exact same ▸ site
  · exact absurd site (plain endpoint).1
  · exact absurd site (plain endpoint).2.1
  · exact absurd site (plain 0).2.2

/-- A call at a site of a load's event is what the command is for. -/
theorem licenses_written (e : Actuator) (value : UInt8) {c : Call}
    (site : c.site ∈ (e.event (isOn value)).sites) : Licenses (.written e.onOffPath value) c := by
  have own : c ∈ (e.event (isOn value)).sites := by
    refine eq_of_site site fun endpoint => ?_
    cases e <;> cases isOn value <;> simp [sites_event, Actuator.relay?, feederDrive, feederTimer]
  rw [sites_event] at own
  cases relay : e.relay? with
  | some spec =>
      simp only [relay, List.mem_singleton] at own
      exact own ▸ .relay e spec value relay
  | none =>
      have feeder : e = .feeder := by cases e <;> first | rfl | simp [Actuator.relay?] at relay
      subst feeder
      simp only [relay, List.mem_cons, List.not_mem_nil, or_false] at own
      exact .feeder value c own

/-- A call that may be made for an event: one at a site of the event. Of those at the status LED's site the
    function timer's handler makes only its own, which does not blink. -/
structure AppEvent.MayCall (event : AppEvent) (c : Call) : Prop where
  site : c.site ∈ event.sites
  ofTimer : event.functionInput? = some .timer → c ∈ FunctionInput.timer.sites

/-- A call that may be made for an event is licensed by every occurrence that leads to the event. -/
theorem licenses_of_mayCall {obs : Obs} {event : AppEvent} {c : Call} (leads : event ∈ obs.events)
    (mayCall : event.MayCall c) : Licenses obs c := by
  have site := mayCall.site
  cases obs with
  | written path value =>
      simp only [Obs.events] at leads
      by_cases load : ∃ e : Actuator, path = e.onOffPath
      · obtain ⟨e, rfl⟩ := load
        rw [attributePosts_onOffPath, List.mem_singleton] at leads
        exact licenses_written e value (leads ▸ site)
      · have other : ∀ e : Actuator, path ≠ e.onOffPath := fun e same => load ⟨e, same⟩
        simp [attributePosts_other value other] at leads
  | expired t =>
      cases t with
      | sSensorTimer =>
          simp only [Obs.events, sensorTimerHandler, List.mem_cons, List.not_mem_nil, or_false] at leads
          rcases leads with rfl | rfl | rfl
          · exact licenses_sensor .hot site
          · exact licenses_sensor .cold site
          · exact licenses_sensor .waterTemp site
      | sFunctionTimer =>
          obtain rfl := List.mem_singleton.mp leads
          exact .reset c (mayCall.ofTimer rfl)
      | sFeederMonoTimer =>
          obtain rfl := List.mem_singleton.mp leads
          have own := eq_of_site site fun endpoint => by
            simp [sites_event, Actuator.relay?, feederDrive, feederTimer]
          exact .feederOff c (by simpa [sites_event, Actuator.relay?] using own)
  | edge pushed =>
      obtain rfl := List.mem_singleton.mp leads
      cases pushed with
      | true =>
          have own : c ∈ FunctionInput.push.sites :=
            eq_of_site site fun endpoint => by simp [FunctionInput.sites]
          exact List.mem_singleton.mp own ▸ .push
      | false =>
          exact .release c site
  | ledUpdate ledWidget =>
      obtain rfl := List.mem_singleton.mp leads
      have own : c ∈ [Call.ledWidgetUpdateState ledWidget] :=
        eq_of_site site fun endpoint => by simp
      exact List.mem_singleton.mp own ▸ .ledUpdate ledWidget
  | delivered path value => simp [Obs.events] at leads
  | posted producer event accepted => simp [Obs.events] at leads
  | called cause c r => simp [Obs.events] at leads

/-! ### The invariant -/

section Grow

variable {log log' : List Entry} {posted : Posted}

/-- What an event was posted for stays in the log. -/
theorem Posted.From.mono (grown : log <+: log') (origin : posted.From log) : posted.From log' := by
  obtain ⟨more, rfl⟩ := grown
  obtain ⟨entry, present, leads⟩ := origin
  exact ⟨entry, getElem?_append_of_some present, leads⟩

/-- An event posted for the occurrence just recorded. -/
theorem Posted.from_last {event : AppEvent} {entry : Entry} (leads : event ∈ entry.obs.events) :
    Posted.From (log ++ [entry]) ⟨event, log.length⟩ := ⟨entry, by simp, leads⟩

/-- Entries that record no call need no license. -/
theorem CallsLicensed.append (licensed : CallsLicensed log)
    (silent : ∀ entry ∈ log', ∀ cause c r, entry.obs ≠ .called cause c r) :
    CallsLicensed (log ++ log') := by
  intro n entry present cause c r called
  by_cases early : n < log.length
  · rw [List.getElem?_append_left early] at present
    rw [List.take_append_of_le_length (Nat.le_of_lt early)]
    exact licensed n entry present cause c r called
  · rw [List.getElem?_append_right (Nat.le_of_not_lt early)] at present
    exact absurd called (silent entry (List.mem_of_getElem? present) cause c r)

/-- A call made for an occurrence in the log that licenses it. -/
theorem CallsLicensed.call (licensed : CallsLicensed log) {time cause : Nat} {c : Call} {r : Response}
    {origin : Entry} (present : log[cause]? = some origin) (license : Licenses origin.obs c) :
    CallsLicensed (log ++ [⟨time, .called cause c r⟩]) := by
  intro n entry member cause' c' r' called
  by_cases early : n < log.length
  · rw [List.getElem?_append_left early] at member
    rw [List.take_append_of_le_length (Nat.le_of_lt early)]
    exact licensed n entry member cause' c' r' called
  · have last : n = log.length := by
      have inside := (List.getElem?_eq_some_iff.mp member).1
      simp only [List.length_append, List.length_singleton] at inside
      omega
    subst last
    simp only [List.getElem?_concat_length, Option.mem_def, Option.some.injEq] at member
    subst member
    simp only [Obs.called.injEq] at called
    obtain ⟨rfl, rfl, rfl⟩ := called
    exact ⟨origin, by simpa using present, license⟩

end Grow

/-- Every event waiting or in hand was posted for an occurrence in the log, a write in progress is in the
    log, and every call made was licensed. -/
structure Provenance (s : State) : Prop where
  pending : ∀ w ∈ s.pendingWrite, ∃ origin ∈ s.log[w.cause]?, origin.obs = .written w.path w.value
  inHand : ∀ posted ∈ s.main.inHandPosted, posted.From s.log
  queued : ∀ posted ∈ s.queue.items, posted.From s.log
  called : CallsLicensed s.log

section Provenance

variable {s s' : State} {a : Action}

/-- Occurrences that are no calls keep the invariant. -/
theorem Provenance.grow (provenance : Provenance s) {more : List Entry}
    (log : s'.log = s.log ++ more) (main : s'.main = s.main) (queue : s'.queue = s.queue)
    (pending : ∀ w ∈ s'.pendingWrite, w ∈ s.pendingWrite)
    (silent : ∀ entry ∈ more, ∀ cause c r, entry.obs ≠ .called cause c r) : Provenance s' := by
  have grown : s.log <+: s'.log := log ▸ List.prefix_append _ _
  refine ⟨?_, ?_, ?_, ?_⟩
  · intro w stored
    obtain ⟨origin, present, written⟩ := provenance.pending w (pending w stored)
    exact ⟨origin, log ▸ getElem?_append_of_some present, written⟩
  · rw [main]
    exact fun posted member => (provenance.inHand posted member).mono grown
  · rw [queue]
    exact fun posted member => (provenance.queued posted member).mono grown
  · exact log ▸ provenance.called.append silent

/-- Posting an event for an occurrence in the log keeps the invariant, whether or not it is dropped. -/
theorem Provenance.post (provenance : Provenance s) (producer : Producer) {cause : Nat}
    {event : AppEvent} (origin : Posted.From s.log ⟨event, cause⟩) :
    Provenance (postEvent producer cause event s) := by
  rcases postEvent_cases producer cause event s with ⟨_, items, log⟩ | ⟨_, queue, log⟩
  · have grown : s.log <+: (postEvent producer cause event s).log := log ▸ List.prefix_append _ _
    refine ⟨?_, ?_, ?_, ?_⟩
    · intro w stored
      rw [postEvent_pendingWrite] at stored
      obtain ⟨entry, present, written⟩ := provenance.pending w stored
      exact ⟨entry, log ▸ getElem?_append_of_some present, written⟩
    · rw [postEvent_main]
      exact fun posted member => (provenance.inHand posted member).mono grown
    · intro posted member
      rw [items, List.mem_append, List.mem_singleton] at member
      rcases member with earlier | rfl
      · exact (provenance.queued posted earlier).mono grown
      · exact origin.mono grown
    · exact log ▸ provenance.called.append (by simp)
  · exact provenance.grow log (postEvent_main ..) queue (by simp) (by simp)

/-- A posted event stays posted for its occurrence while further events are. -/
theorem Provenance.postAll (provenance : Provenance s) (producer : Producer) {cause : Nat}
    {events : List AppEvent} (origin : ∀ event ∈ events, Posted.From s.log ⟨event, cause⟩) :
    Provenance (postAll producer cause events s) := by
  refine (postAll_induction (I := fun t => Provenance t ∧ s.log <+: t.log)
    ⟨provenance, List.prefix_refl _⟩ ?_).1
  intro t event member ⟨kept, grown⟩
  exact ⟨kept.post producer ((origin event member).mono grown),
    postEvent_log_prefix producer cause event grown⟩

/-- Noting an occurrence that is no call keeps the invariant. -/
theorem Provenance.note (provenance : Provenance s) {obs : Obs}
    (silent : ∀ cause c r, obs ≠ .called cause c r) : Provenance (s.note obs) :=
  provenance.grow (note_log s obs) rfl rfl (fun _ stored => stored) (by simpa using silent)

theorem Provenance.withDevice (provenance : Provenance s) (d : Device) :
    Provenance (s.withDevice d) :=
  ⟨provenance.pending, provenance.inHand, provenance.queued, provenance.called⟩

theorem Provenance.rearm (provenance : Provenance s) (t : TimerId) : Provenance (s.rearm t) :=
  (provenance.withDevice _).note (by simp)

/-- The Matter thread goes on to its callback. -/
theorem Provenance.clear (provenance : Provenance s) : Provenance { s with pendingWrite := none } :=
  ⟨by simp, provenance.inHand, provenance.queued, provenance.called⟩

theorem provenance_initial : Provenance State.initial where
  pending w stored := by simp [State.initial] at stored
  inHand posted running := by simp [State.initial, MainThread.inHandPosted] at running
  queued posted member := by simp [State.initial, BoundedQueue.empty] at member
  called n entry present := by simp [State.initial] at present

/-- The running handler makes a call that may be made for its event. -/
theorem mayCall_of_handling {handled : List Handled} (runs : RunsSequentially s handled)
    {posted : Posted} {c : Call} {k : Response → Prog Call Response (Unit × AppVars)}
    (main : s.main = .handling posted (.call c k)) : posted.event.MayCall c := by
  have thread := runs.thread
  simp only [main] at thread
  obtain ⟨made, leads, _⟩ := thread
  refine ⟨(dispatchEvent_callsAmong (varsAfter handled) posted.event).label_mem leads, fun timer => ?_⟩
  exact (timer_callsAmong (varsAfter handled) timer).label_mem leads

/-- Every step keeps the invariant. -/
theorem provenance_step {handled : List Handled} (runs : RunsSequentially s handled)
    (provenance : Provenance s) (taken : step s a = some s') : Provenance s' := by
  cases stepEffect taken with
  | elapse duration => exact ⟨provenance.pending, provenance.inHand, provenance.queued, provenance.called⟩
  | chip event => exact ⟨provenance.pending, provenance.inHand, provenance.queued, provenance.called⟩
  | chipCall access k chip =>
      exact ⟨provenance.pending, provenance.inHand, provenance.queued, provenance.called⟩
  | noEdge buttonState hasChanged unchanged => exact provenance
  | write path value idle =>
      have noted : Provenance (s.note (.written path value)) := provenance.note (by simp)
      refine ⟨?_, noted.inHand, noted.queued, noted.called⟩
      intro w stored
      obtain rfl : _ = w := Option.some.inj stored
      exact ⟨⟨s.now, .written path value⟩, by simp, rfl⟩
  | loadCallback w e pending load =>
      obtain ⟨origin, present, written⟩ := provenance.pending w pending
      refine (provenance.clear.note (by simp)).post _ ⟨origin, getElem?_append_of_some present, ?_⟩
      simp [written, Obs.events, load, attributePosts_onOffPath]
  | otherCallback w pending other =>
      exact provenance.clear.note (by simp)
  | functionExpiry due =>
      apply (provenance.rearm _).post
      rw [rearm_log]
      exact Posted.from_last (by simp [Obs.events])
  | sensorExpiry due =>
      apply (provenance.rearm _).postAll
      intro event member
      rw [rearm_log]
      exact Posted.from_last (by simpa [Obs.events] using member)
  | feederExpiry due =>
      apply ((Provenance.withDevice (provenance.rearm _) _).note (by simp)).post
      rw [note_log, withDevice_log, rearm_log]
      exact (Posted.from_last (by simp [Obs.events])).mono (List.prefix_append _ _)
  | edge buttonState hasChanged pushed changed level =>
      apply (provenance.note (by simp)).post
      rw [note_log]
      exact Posted.from_last (by simp [Obs.events])
  | ledUpdate ledWidget =>
      apply (provenance.note (by simp)).post
      rw [note_log]
      exact Posted.from_last (by simp [Obs.events])
  | get vars posted queue main items =>
      have queued := provenance.queued
      rw [items] at queued
      refine ⟨provenance.pending, ?_, fun posted' member => queued posted' (by simp [member]),
        provenance.called⟩
      intro posted' taken
      obtain rfl := List.mem_singleton.mp taken
      exact queued posted' (by simp)
  | call posted c k r rest main reports =>
      obtain ⟨origin, present, leads⟩ := provenance.inHand posted (by simp [main, MainThread.inHandPosted])
      have license := licenses_of_mayCall leads (mayCall_of_handling runs main)
      have grown : s.log <+: s.log ++ (⟨s.now, .called posted.cause c r⟩ :: rest) :=
        List.prefix_append _ _
      refine ⟨?_, ?_, ?_, ?_⟩
      · intro w stored
        obtain ⟨entry, kept, written⟩ := provenance.pending w stored
        exact ⟨entry, getElem?_append_of_some kept, written⟩
      · intro posted' running
        obtain rfl := List.mem_singleton.mp running
        exact Posted.From.mono grown ⟨origin, present, leads⟩
      · exact fun posted' member => (provenance.queued posted' member).mono grown
      · have one : CallsLicensed (s.log ++ [⟨s.now, .called posted.cause c r⟩]) :=
          provenance.called.call present license
        dsimp only
        rw [List.append_cons]
        refine one.append ?_
        rcases reports with rfl | ⟨path, value, _, rfl⟩ <;> simp
  | ret posted u vars main =>
      refine ⟨provenance.pending, ?_, provenance.queued, provenance.called⟩
      simp [MainThread.inHandPosted]

theorem provenance_of_reachable (reached : Reachable s) : Provenance s :=
  reached.invariant_with (J := fun s => ∃ handled, RunsSequentially s handled)
    sequential_of_reachable provenance_initial
    fun ⟨_, runs⟩ provenance _ taken => provenance_step runs provenance taken

end Provenance

/-- Every effect has its occurrence: in every reachable state each event in hand or waiting was posted for
    an occurrence in the log that leads to it, and each SDK call so far was made for an earlier
    occurrence that licenses it. -/
theorem calls_licensed (s : State) (reached : Reachable s) :
    (∀ posted ∈ s.main.inHandPosted ++ s.queue.items, posted.From s.log) ∧ CallsLicensed s.log := by
  have provenance := provenance_of_reachable reached
  refine ⟨fun posted member => ?_, provenance.called⟩
  rcases List.mem_append.mp member with running | waiting
  · exact provenance.inHand posted running
  · exact provenance.queued posted waiting

/-- The feeder is switched on and, two seconds later, stopped by its timer. -/
def feedAndStop : List Action :=
  [.write Actuator.feeder.onOffPath 1, .callback, .get, .call ⟨0, default⟩, .call ⟨0, default⟩, .ret,
   .elapse 2000, .expiry .sFeederMonoTimer, .get, .call ⟨0, default⟩, .call ⟨0, default⟩, .ret]

/-- `calls_licensed` on the pulse that stops the servo: the expiry licenses it. -/
theorem calls_licensed_feedAndStop :
    ∃ origin ∈ ((stateAfter feedAndStop).log.take 8)[5]?, Licenses origin.obs (.pwmSetPulseDt 0) :=
  (calls_licensed _ (reachable_stateAfter feedAndStop)).2 8
    ⟨2000, .called 5 (.pwmSetPulseDt 0) ⟨0, default⟩⟩ (by decide) 5 _ _ rfl

/-! ### No occurrence leads to a call twice -/

/-- The pairs of cause and site an event may still use. -/
def Posted.pairs (posted : Posted) : List (Nat × Call) := posted.event.sites.map (Prod.mk posted.cause)

/-- The pairs the running handler may still use. -/
def MainThread.MayUse (main : MainThread) (pairs : List (Nat × Call)) : Prop :=
  match main with
  | .waiting _ => pairs = []
  | .handling posted rest => ∃ later, rest.CallsAmong Call.site later ∧
      pairs = later.map (Prod.mk posted.cause)

/-- The pairs are all different, their causes are in the log, and the write in progress, which is there
    too, is none of them. -/
structure Unrepeated (s : State) (pairs : List (Nat × Call)) : Prop where
  distinct : pairs.Nodup
  known : ∀ pair ∈ pairs, pair.1 < s.log.length
  written : ∀ w ∈ s.pendingWrite, w.cause < s.log.length ∧ ∀ pair ∈ pairs, pair.1 ≠ w.cause

/-- The pairs used and those that may still be, by the running handler and the waiting events. -/
def Once (s : State) : Prop :=
  ∃ left, s.main.MayUse left ∧
    Unrepeated s (callPairs s.log ++ left ++ s.queue.items.flatMap Posted.pairs)

@[simp] theorem callPairs_append (log log' : List Entry) :
    callPairs (log ++ log') = callPairs log ++ callPairs log' := List.filterMap_append

@[simp] theorem callPairs_cons (entry : Entry) (log : List Entry) :
    callPairs (entry :: log) = entry.obs.callPair?.toList ++ callPairs log := by
  cases read : entry.obs.callPair? <;> simp [callPairs, read]

@[simp] theorem callPairs_nil : callPairs [] = [] := rfl

section Once

variable {s s' : State} {a : Action} {pairs pairs' : List (Nat × Call)}

/-- Fewer pairs in a longer log. -/
theorem Unrepeated.weaken (unrepeated : Unrepeated s pairs) (fewer : pairs'.Sublist pairs)
    (longer : s.log.length ≤ s'.log.length) (pending : s'.pendingWrite = s.pendingWrite) :
    Unrepeated s' pairs' where
  distinct := unrepeated.distinct.sublist fewer
  known pair member := Nat.lt_of_lt_of_le (unrepeated.known pair (fewer.subset member)) longer
  written w stored := by
    rw [pending] at stored
    obtain ⟨inLog, apart⟩ := unrepeated.written w stored
    exact ⟨Nat.lt_of_lt_of_le inLog longer, fun pair member => apart pair (fewer.subset member)⟩

/-- The pairs of a cause that has not been used are new. -/
theorem Unrepeated.add (unrepeated : Unrepeated s pairs) {cause : Nat} {sites : List Call}
    (distinct : sites.Nodup) (unused : ∀ pair ∈ pairs, pair.1 ≠ cause)
    (longer : s.log.length ≤ s'.log.length) (inLog : cause < s'.log.length)
    (pending : ∀ w ∈ s'.pendingWrite, w ∈ s.pendingWrite ∧ w.cause ≠ cause) :
    Unrepeated s' (pairs ++ sites.map (Prod.mk cause)) where
  distinct := by
    refine List.nodup_append.mpr ⟨unrepeated.distinct, ?_, ?_⟩
    · exact distinct.map fun site site' same => (Prod.mk.inj same).2
    · intro pair member pair' member' same
      obtain ⟨site, _, rfl⟩ := List.mem_map.mp member'
      exact unused pair member (congrArg Prod.fst same)
  known pair member := by
    rcases List.mem_append.mp member with earlier | own
    · exact Nat.lt_of_lt_of_le (unrepeated.known pair earlier) longer
    · obtain ⟨site, _, rfl⟩ := List.mem_map.mp own
      exact inLog
  written w stored := by
    obtain ⟨before, other⟩ := pending w stored
    obtain ⟨early, apart⟩ := unrepeated.written w before
    refine ⟨Nat.lt_of_lt_of_le early longer, fun pair member => ?_⟩
    rcases List.mem_append.mp member with earlier | own
    · exact apart pair earlier
    · obtain ⟨site, _, rfl⟩ := List.mem_map.mp own
      exact other.symm

/-- Posting adds at most the pairs of the events posted. -/
theorem postAll_pairs (producer : Producer) (cause : Nat) (events : List AppEvent) (s : State) :
    callPairs (postAll producer cause events s).log = callPairs s.log ∧
      ((postAll producer cause events s).queue.items.flatMap Posted.pairs).Sublist
        (s.queue.items.flatMap Posted.pairs ++
          (events.flatMap AppEvent.sites).map (Prod.mk cause)) := by
  induction events generalizing s with
  | nil => simp
  | cons event rest ih =>
      rw [postAll_cons]
      obtain ⟨calls, fewer⟩ := ih (postEvent producer cause event s)
      rcases postEvent_cases producer cause event s with ⟨_, items, log⟩ | ⟨_, queue, log⟩
      · refine ⟨by simp [calls, log, Obs.callPair?], ?_⟩
        simpa [items, Posted.pairs] using fewer
      · refine ⟨by simp [calls, log, Obs.callPair?], ?_⟩
        rw [queue] at fewer
        simp only [List.flatMap_cons, List.map_append]
        exact fewer.trans ((List.Sublist.refl _).append (List.sublist_append_right _ _))

/-- Events posted for a cause not used before: one just recorded, or that of the write in progress, which
    is then over. -/
theorem Once.post (once : Once s) {t : State} (main : t.main = s.main) (queue : t.queue = s.queue)
    (calls : callPairs t.log = callPairs s.log) (longer : s.log.length < t.log.length)
    {producer : Producer} {cause : Nat} {events : List AppEvent}
    (distinct : (events.flatMap AppEvent.sites).Nodup)
    (unused : cause = s.log.length ∧ t.pendingWrite = s.pendingWrite ∨
      t.pendingWrite = none ∧ ∃ w ∈ s.pendingWrite, w.cause = cause) :
    Once (postAll producer cause events t) := by
  obtain ⟨left, mayUse, unrepeated⟩ := once
  obtain ⟨same, fewer⟩ := postAll_pairs producer cause events t
  have appended : t.log <+: (postAll producer cause events t).log :=
    postAll_log_prefix producer cause events (List.prefix_refl _)
  have grown := appended.length_le
  refine ⟨left, by rwa [postAll_main, main], ?_⟩
  have added : Unrepeated (postAll producer cause events t)
      (callPairs s.log ++ left ++ s.queue.items.flatMap Posted.pairs ++
        (events.flatMap AppEvent.sites).map (Prod.mk cause)) := by
    rcases unused with ⟨rfl, pending⟩ | ⟨ended, w, stored, rfl⟩
    · refine unrepeated.add distinct ?_ (by omega) (by omega) ?_
      · exact fun pair member => Nat.ne_of_lt (unrepeated.known pair member)
      · intro w stored
        rw [postAll_pendingWrite, pending] at stored
        exact ⟨stored, Nat.ne_of_lt (unrepeated.written w stored).1⟩
    · obtain ⟨early, apart⟩ := unrepeated.written w stored
      refine unrepeated.add distinct apart (by omega) (by omega) ?_
      simp [ended]
  rw [same, calls]
  refine added.weaken ?_ (Nat.le_refl _) rfl
  rw [← queue, List.append_assoc _ _ (List.map _ _)]
  exact (List.Sublist.refl _).append fewer

/-- One event posted for such a cause. -/
theorem Once.postOne (once : Once s) {t : State} {producer : Producer} {cause : Nat} {event : AppEvent}
    (main : t.main = s.main) (queue : t.queue = s.queue)
    (calls : callPairs t.log = callPairs s.log) (longer : s.log.length < t.log.length)
    (unused : cause = s.log.length ∧ t.pendingWrite = s.pendingWrite ∨
      t.pendingWrite = none ∧ ∃ w ∈ s.pendingWrite, w.cause = cause) :
    Once (postEvent producer cause event t) := by
  have distinct : ([event].flatMap AppEvent.sites).Nodup := by simpa using sites_nodup event
  exact once.post main queue calls longer distinct unused

/-- One event posted for the occurrence just recorded. -/
theorem Once.recorded (once : Once s) {t : State} {producer : Producer} {event : AppEvent}
    {entry : Entry} {more : List Entry} (log : t.log = s.log ++ entry :: more)
    (noCalls : callPairs (entry :: more) = []) (main : t.main = s.main) (queue : t.queue = s.queue)
    (pending : t.pendingWrite = s.pendingWrite) :
    Once (postEvent producer s.log.length event t) := by
  apply once.postOne main queue
  · rw [log, callPairs_append, noCalls, List.append_nil]
  · rw [log, List.length_append, List.length_cons]
    omega
  · exact Or.inl ⟨rfl, pending⟩

/-- Nothing but the time and the device changes. -/
theorem Once.of_same (once : Once s) (main : s'.main = s.main) (queue : s'.queue = s.queue)
    (log : s'.log = s.log) (pending : s'.pendingWrite = s.pendingWrite) : Once s' := by
  obtain ⟨left, mayUse, unrepeated⟩ := once
  refine ⟨left, by rwa [main], ?_⟩
  rw [log, queue]
  exact unrepeated.weaken (List.Sublist.refl _) (by rw [log]) pending

theorem once_initial : Once State.initial := by
  refine ⟨[], rfl, ?_, ?_, ?_⟩ <;> simp [State.initial, callPairs, BoundedQueue.empty]

/-- Every step keeps the pairs different. -/
theorem once_step (once : Once s) (taken : step s a = some s') : Once s' := by
  cases stepEffect taken with
  | elapse duration => exact once.of_same rfl rfl rfl rfl
  | chip event => exact once.of_same rfl rfl rfl rfl
  | chipCall access k chip => exact once.of_same rfl rfl rfl rfl
  | noEdge buttonState hasChanged unchanged => exact once
  | write path value idle =>
      obtain ⟨left, mayUse, unrepeated⟩ := once
      refine ⟨left, mayUse, ?_⟩
      have noted : callPairs (s.log ++ [⟨s.now, .written path value⟩]) = callPairs s.log := by
        simp [Obs.callPair?]
      simp only [note_log, note_queue, noted]
      refine ⟨unrepeated.distinct, ?_, ?_⟩
      · intro pair member
        simpa using Nat.lt_succ_of_lt (unrepeated.known pair member)
      · intro w stored
        obtain rfl : _ = w := Option.some.inj stored
        exact ⟨by simp, fun pair member => Nat.ne_of_lt (unrepeated.known pair member)⟩
  | loadCallback w e pending load =>
      apply once.postOne
      · rfl
      · rfl
      · simp [Obs.callPair?]
      · simp
      · exact Or.inr ⟨rfl, w, pending, rfl⟩
  | otherCallback w pending other =>
      obtain ⟨left, mayUse, unrepeated⟩ := once
      refine ⟨left, mayUse, ?_⟩
      have noted : callPairs (s.log ++ [⟨s.now, .delivered w.path w.value⟩]) = callPairs s.log := by
        simp [Obs.callPair?]
      simp only [note_log, note_queue, noted]
      refine ⟨unrepeated.distinct, ?_, by simp⟩
      intro pair member
      simpa using Nat.lt_succ_of_lt (unrepeated.known pair member)
  | sensorExpiry due =>
      apply once.post
      · rfl
      · rfl
      · simp [Obs.callPair?]
      · simp
      · decide
      · exact Or.inl ⟨rfl, rfl⟩
  | functionExpiry due => exact once.recorded rfl rfl rfl rfl rfl
  | feederExpiry due => exact once.recorded (List.append_assoc ..) rfl rfl rfl rfl
  | edge buttonState hasChanged pushed changed level => exact once.recorded rfl rfl rfl rfl rfl
  | ledUpdate ledWidget => exact once.recorded rfl rfl rfl rfl rfl
  | get vars posted queue main items =>
      obtain ⟨left, mayUse, unrepeated⟩ := once
      simp only [main, MainThread.MayUse] at mayUse
      subst mayUse
      refine ⟨posted.pairs, ⟨_, dispatchEvent_callsAmong vars posted.event, rfl⟩, ?_⟩
      refine unrepeated.weaken ?_ (Nat.le_refl _) rfl
      simp [items]
  | call posted c k r rest main reports =>
      obtain ⟨left, mayUse, unrepeated⟩ := once
      simp only [main, MainThread.MayUse] at mayUse
      obtain ⟨sites, among, rfl⟩ := mayUse
      obtain ⟨later, sublist, continues⟩ := among.call
      have silent : callPairs rest = [] := by
        rcases reports with rfl | ⟨path, value, _, rfl⟩ <;> rfl
      have one : callPairs (s.log ++ (⟨s.now, .called posted.cause c r⟩ :: rest)) =
          callPairs s.log ++ [(posted.cause, c.site)] := by
        simp [silent, Obs.callPair?]
      refine ⟨later.map (Prod.mk posted.cause), ⟨later, continues r, rfl⟩, ?_⟩
      refine unrepeated.weaken ?_ (by simp) rfl
      simp only [one, List.append_assoc, List.singleton_append]
      exact (List.Sublist.refl _).append
        ((sublist.map (Prod.mk posted.cause)).append (List.Sublist.refl _))
  | ret posted u vars main =>
      obtain ⟨left, _, unrepeated⟩ := once
      refine ⟨[], rfl, unrepeated.weaken ?_ (Nat.le_refl _) rfl⟩
      rw [List.append_nil]
      exact (List.sublist_append_left _ _).append (List.Sublist.refl _)

end Once

/-- No occurrence leads to a call twice: in every reachable state the calls made so far, each taken by the
    occurrence it was made for and its site, are all different. -/
theorem calls_once (s : State) (reached : Reachable s) : (callPairs s.log).Nodup := by
  obtain ⟨left, _, unrepeated⟩ := reached.invariant (I := Once) once_initial
    fun once _ taken => once_step once taken
  exact unrepeated.distinct.sublist (by simp)

/-- `calls_once` on a feeding time: its four calls are for two occurrences. -/
theorem calls_once_feedAndStop :
    (callPairs (stateAfter feedAndStop).log).Nodup ∧
      callPairs (stateAfter feedAndStop).log =
        [(0, feederDrive true), (0, feederTimer true), (5, feederDrive false), (5, feederTimer false)] :=
  ⟨calls_once _ (reachable_stateAfter feedAndStop), by decide⟩

end DeviceWifi
