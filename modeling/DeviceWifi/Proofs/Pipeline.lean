/-
Module: DeviceWifi.Proofs.Pipeline
Layer: Proofs
Purpose: The event pipeline refines one command channel per load. Every step of the device is one
  operation of the load's channel: the change callback accepts, a handler's output call executes, and
  everything else leaves the channel alone. Conservation of channels then gives the law of the pipeline.
Imports: DeviceWifi.Spec.History, DeviceWifi.Proofs.Handlers
Trusted boundary: none (fully proved)
Main exports: channel_step, delivered_step, accepted_eq_channel, pipeline_conserves, executed_of_idle
Open obligations: none
-/
import DeviceWifi.Spec.History
import DeviceWifi.Proofs.Handlers

namespace DeviceWifi

open Reactive

/-! ### Events and their commands -/

/-- A load's event carries its command for that load and none for another. -/
@[simp] theorem command?_event (e e' : Actuator) (on : Bool) :
    e.command? (e'.event on) = if e' = e then some on else none := by
  cases e <;> cases e' <;> cases on <;> rfl

@[simp] theorem command?_timerEvent (e : Actuator) : e.command? timerEvent = none := by
  cases e <;> rfl

@[simp] theorem command?_buttonEvent (e : Actuator) (pushed : Bool) :
    e.command? (buttonEvent pushed) = none := by
  cases e <;> rfl

@[simp] theorem command?_updateLedEvent (e : Actuator) (ledWidget : Nat) :
    e.command? (updateLedEvent ledWidget) = none := by
  cases e <;> rfl

theorem command?_sensorTimerHandler (e : Actuator) {event : AppEvent}
    (posted : event ∈ sensorTimerHandler) : e.command? event = none := by
  simp only [sensorTimerHandler, List.mem_cons, List.not_mem_nil, or_false] at posted
  rcases posted with rfl | rfl | rfl <;> cases e <;> rfl

/-- The commands among the output calls of an input of the function button: none. -/
theorem filterMap_driven_input (e : Actuator) (input : FunctionInput) (mFunction : FunctionEvent) :
    (input.outputs mFunction).filterMap e.driven = [] := by
  cases input <;> cases mFunction <;> rfl

/-- Handling an event executes exactly the command it carries, on the load it is for. -/
theorem filterMap_driven_handlerOutputs (e : Actuator) (event : AppEvent)
    (mFunction : FunctionEvent) :
    (handlerOutputs event mFunction).filterMap e.driven = (e.command? event).toList := by
  by_cases button : event.handler = some .functionHandler
  · have silent : e.command? event = none := by cases e <;> simp [Actuator.command?, button, Actuator.event]
    unfold handlerOutputs
    split
    · rw [filterMap_driven_input, silent]; rfl
    · simp [button, actuatorOutputs, silent]
  by_cases timer : event.handler = some .functionTimerEventHandler
  · have silent : e.command? event = none := by cases e <;> simp [Actuator.command?, timer, Actuator.event]
    unfold handlerOutputs
    split
    · rw [filterMap_driven_input, silent]; rfl
    · simp [timer, actuatorOutputs, silent]
  · simp only [handlerOutputs, functionInput?_eq_none button timer]
    cases handler : event.handler with
    | none => simp [Actuator.command?, handler]; cases e <;> rfl
    | some h =>
        simp only [Actuator.command?, handler, Option.map_some, Option.getD_some]
        cases h <;> cases e <;> rfl

/-! ### What a post adds to the readings -/

section Post

variable (e : Actuator) (producer : Producer) (cause : Nat) (event : AppEvent) (s : State)

@[simp] theorem executed_postEvent :
    executed e (postEvent producer cause event s).log = executed e s.log := by
  rcases postEvent_cases producer cause event s with ⟨_, _, log⟩ | ⟨_, _, log⟩ <;>
    simp [log, Actuator.executedIn]

@[simp] theorem delivered_postEvent :
    delivered e (postEvent producer cause event s).log = delivered e s.log := by
  rcases postEvent_cases producer cause event s with ⟨_, _, log⟩ | ⟨_, _, log⟩ <;>
    simp [log, Actuator.deliveredIn]

/-- An accepted event's command waits behind the others. -/
theorem waiting_postEvent :
    waiting e (postEvent producer cause event s).queue =
      waiting e s.queue ++ if s.queue.Full then [] else (e.command? event).toList := by
  rcases postEvent_cases producer cause event s with ⟨room, items, _⟩ | ⟨full, queue, _⟩
  · rw [if_neg room, waiting, items, List.filterMap_append]
    cases command : e.command? event <;> simp [waiting, command]
  · rw [if_pos full, queue, List.append_nil]

/-- Only an accepted event is recorded as accepted. -/
theorem accepted_postEvent :
    accepted e (postEvent producer cause event s).log =
      accepted e s.log ++
        if s.queue.Full then [] else (e.acceptedIn (.posted producer event true)).toList := by
  rcases postEvent_cases producer cause event s with ⟨room, _, log⟩ | ⟨full, _, log⟩
  · simp [log, room]
  · simp [log, full, Actuator.acceptedIn]

theorem accepted_postEvent_silent (silent : e.acceptedIn (.posted producer event true) = none) :
    accepted e (postEvent producer cause event s).log = accepted e s.log := by
  rw [accepted_postEvent, silent, Option.toList_none, ite_self, List.append_nil]

/-- Posting an event that carries no command for the load leaves its channel alone. -/
theorem channel_postEvent_silent (silent : e.command? event = none) :
    channel e (postEvent producer cause event s) = channel e s := by
  simp [channel, waiting_postEvent, silent]

/-- Posting for a load's attribute change is accepting the value, unless the queue is full. -/
theorem channel_postEvent_load (e' : Actuator) (on : Bool) :
    channel e (postEvent producer cause (e'.event on) s) =
      (channel e s).apply
        (if ¬ s.queue.Full ∧ e' = e then .accept on else .skip) := by
  by_cases full : s.queue.Full
  · simp [channel, waiting_postEvent, full]
  · by_cases same : e' = e <;> simp [channel, waiting_postEvent, full, same]

end Post

/-! ### What each action offers -/

section Offered

variable (e : Actuator) {s : State} {w : PendingWrite}

theorem onOffPath_eq_iff {e' : Actuator} : e'.onOffPath = e.onOffPath ↔ e' = e :=
  ⟨Actuator.onOffPath_injective, fun same => same ▸ rfl⟩

theorem offered_loadCallback {e' : Actuator} (pending : s.pendingWrite = some w)
    (load : w.path = e'.onOffPath) :
    s.offered e .callback = if e' = e then some (isOn w.value) else none := by
  simp only [State.offered, pending, load, onOffPath_eq_iff]

theorem offered_otherCallback (pending : s.pendingWrite = some w)
    (other : ∀ e : Actuator, w.path ≠ e.onOffPath) : s.offered e .callback = none := by
  simp [State.offered, pending, other e]

theorem offered_feederExpiry :
    s.offered e (.expiry .sFeederMonoTimer) =
      if Actuator.feeder = e then some false else none := by
  simp only [State.offered, eq_comm]

end Offered

/-! ### Every step is an operation of the channel -/

/-- What an action does to a load's channel: an output call of the running handler executes, and the
    change callback accepts what the queue has room for. -/
def channelOp (e : Actuator) (s : State) (a : Action) : ChannelOp Bool :=
  match s.executes e a, s.admitted e a with
  | some _, _ => .execute
  | none, some on => .accept on
  | none, none => .skip

section Step

variable {e : Actuator} {s s' : State} {a : Action}

/-- Outside the main thread's calls the channel accepts what the action puts into the queue. -/
theorem channelOp_environment (environment : s.executes e a = none) :
    channelOp e s a = match s.admitted e a with
      | some on => .accept on
      | none => .skip := by
  cases admits : s.admitted e a <;> simp [channelOp, environment, admits]

/-- An action that executes and offers nothing leaves the channel alone. -/
theorem channelOp_silent (environment : s.executes e a = none) (silent : s.offered e a = none) :
    channelOp e s a = .skip := by
  rw [channelOp_environment environment, State.admitted, silent]
  rfl

/-- No action both executes and offers. -/
theorem offered_of_executes {on : Bool} (executes : s.executes e a = some on) :
    s.offered e a = none := by
  cases a with
  | call r => rfl
  | _ => exact nomatch executes

/-- A command is answered by the SDK. -/
theorem reply_of_driven {c : Call} {on : Bool} (d : Device) (response : Response)
    (drives : e.driven c = some on) : d.reply c response = response := by
  cases c with
  | status access => exact nomatch drives
  | _ => rfl

/-- The channel accepts exactly what an action puts into the queue. -/
theorem accepts_channelOp : (channelOp e s a).accepts = (s.admitted e a).toList := by
  cases executes : s.executes e a with
  | none => cases admits : s.admitted e a <;> simp [channelOp, executes, admits, ChannelOp.accepts]
  | some on =>
      simp [channelOp, executes, State.admitted, offered_of_executes executes, ChannelOp.accepts]

/-- The commands a handler has in hand before a call are the call's own and those after it. -/
theorem inHand_call {posted : Posted} {c : Call}
    {k : Response → Prog Call Response (Unit × AppVars)}
    (settled : HandlerSettled (.handling posted (.call c k))) (r : Response) :
    (MainThread.handling posted (.call c k)).inHand e =
      (e.driven c).toList ++ (MainThread.handling posted (k r)).inHand e := by
  have outputs := (settled_call settled r).2.2
  have visible : (outputCall? c).toList.filterMap e.driven = (e.driven c).toList := by
    cases driven : e.driven c <;> cases c <;> simp_all [outputCall?, Actuator.driven]
  rw [MainThread.inHand, outputs, List.filterMap_append, visible]
  rfl

/-- Refinement: each step of the device is one operation of the load's channel. -/
theorem channel_step (settled : HandlerSettled s.main) (taken : step s a = some s') :
    channel e s' = (channel e s).apply (channelOp e s a) := by
  cases stepEffect taken with
  | loadCallback w e' pending load =>
      rw [channel_postEvent_load, channelOp_environment (a := .callback) rfl, State.admitted,
        offered_loadCallback e pending load]
      by_cases full : s.queue.Full <;> by_cases same : e' = e <;>
        simp [channel, full, same, Actuator.executedIn]
  | otherCallback w pending other =>
      rw [channelOp_silent (a := .callback) rfl (offered_otherCallback e pending other)]
      simp [channel, Actuator.executedIn]
  | feederExpiry due =>
      rw [channel_postEvent_load, channelOp_environment (a := .expiry .sFeederMonoTimer) rfl,
        State.admitted, offered_feederExpiry]
      by_cases full : s.queue.Full <;> by_cases same : Actuator.feeder = e <;>
        simp [channel, full, same, Actuator.executedIn]
  | functionExpiry due =>
      rw [channelOp_silent (a := .expiry .sFunctionTimer) rfl rfl,
        channel_postEvent_silent _ _ _ _ _ (by simp)]
      simp [channel, Actuator.executedIn]
  | sensorExpiry due =>
      rw [channelOp_silent (a := .expiry .sSensorTimer) rfl rfl, Channel.apply_skip]
      refine postAll_induction (I := fun t => channel e t = channel e s) ?_ ?_
      · simp [channel, Actuator.executedIn]
      · intro t event posted same
        rw [channel_postEvent_silent _ _ _ _ _ (command?_sensorTimerHandler e posted), same]
  | edge buttonState hasChanged pushed changed level =>
      rw [channelOp_silent (a := .button buttonState hasChanged) rfl rfl,
        channel_postEvent_silent _ _ _ _ _ (by simp)]
      simp [channel, Actuator.executedIn]
  | ledUpdate ledWidget =>
      rw [channelOp_silent (a := .ledUpdate ledWidget) rfl rfl,
        channel_postEvent_silent _ _ _ _ _ (by simp)]
      simp [channel, Actuator.executedIn]
  | get vars posted queue main items =>
      rw [channelOp_silent (a := .get) rfl rfl, Channel.apply_skip]
      have taken : (e.command? posted.event).toList ++ waiting e queue = waiting e s.queue := by
        cases command : e.command? posted.event <;> simp [waiting, items, command]
      have idle : s.main.inHand e = [] := by simp [main, MainThread.inHand, MainThread.outputs]
      have entered : (MainThread.handling posted ((dispatchEvent posted.event).run vars)).inHand e =
          (e.command? posted.event).toList := by
        rw [MainThread.inHand, outputs_get, filterMap_driven_handlerOutputs]
      simp only [channel, entered, idle, taken, List.nil_append]
  | call posted c k r rest main reports =>
      have recorded : executed e rest = [] := by
        rcases reports with rfl | ⟨path, value, _, rfl⟩ <;> simp [Actuator.executedIn]
      have inHand := inHand_call (e := e) (main ▸ settled) r
      cases driven : e.driven c <;>
        simp [channel, channelOp, State.executes, State.admitted, State.offered, main, driven, inHand,
          recorded, Actuator.executedIn]
  | ret posted u vars main =>
      rw [channelOp_silent (a := .ret) rfl rfl, Channel.apply_skip]
      have done := (settled_ret (main ▸ settled)).1
      have idle : (MainThread.waiting vars).inHand e = [] := rfl
      have returned : s.main.inHand e = [] := by simp [main, MainThread.inHand, done]
      simp only [channel, idle, returned]
  | elapse duration => rw [channelOp_silent (a := .elapse duration) rfl rfl]; rfl
  | write path value idle =>
      rw [channelOp_silent (a := .write path value) rfl rfl]
      simp [channel, Actuator.executedIn]
  | noEdge buttonState hasChanged unchanged =>
      rw [channelOp_silent (a := .button buttonState hasChanged) rfl rfl]; rfl
  | chip event => rw [channelOp_silent (a := .chip event) rfl rfl]; rfl
  | chipCall access k chip => rw [channelOp_silent (a := .chipCall) rfl rfl]; rfl

/-- What the queue accepts in a step is what the action admits. -/
theorem accepted_step (taken : step s a = some s') :
    accepted e s'.log = accepted e s.log ++ (s.admitted e a).toList := by
  cases stepEffect taken with
  | loadCallback w e' pending load =>
      rw [accepted_postEvent, State.admitted, offered_loadCallback e pending load]
      by_cases full : s.queue.Full <;> by_cases same : e' = e <;>
        simp [full, same, onOffPath_eq_iff, Actuator.acceptedIn]
  | otherCallback w pending other =>
      simp [State.admitted, offered_otherCallback e pending other, Actuator.acceptedIn]
  | feederExpiry due =>
      rw [accepted_postEvent, State.admitted, offered_feederExpiry]
      by_cases full : s.queue.Full <;> by_cases same : Actuator.feeder = e <;>
        simp [full, same, onOffPath_eq_iff, Actuator.acceptedIn, isOn]
  | functionExpiry due =>
      rw [accepted_postEvent_silent _ _ _ _ _ rfl]
      simp [State.admitted, State.offered, Actuator.acceptedIn]
  | edge buttonState hasChanged pushed changed level =>
      rw [accepted_postEvent_silent _ _ _ _ _ rfl]
      simp [State.admitted, State.offered, Actuator.acceptedIn]
  | ledUpdate ledWidget =>
      rw [accepted_postEvent_silent _ _ _ _ _ rfl]
      simp [State.admitted, State.offered, Actuator.acceptedIn]
  | sensorExpiry due =>
      refine postAll_induction (I := fun t => accepted e t.log = accepted e s.log ++ _) ?_ ?_
      · simp [State.admitted, State.offered, Actuator.acceptedIn]
      · intro t event posted same
        rw [accepted_postEvent_silent _ _ _ _ _ rfl, same]
  | call posted c k r rest main reports =>
      rcases reports with rfl | ⟨path, value, _, rfl⟩ <;>
        simp [State.admitted, State.offered, Actuator.acceptedIn]
  | _ => simp [State.admitted, State.offered, Actuator.acceptedIn]

/-- What is executed in a step is the command of the running handler's call. -/
theorem executed_step (taken : step s a = some s') :
    executed e s'.log = executed e s.log ++ (s.executes e a).toList := by
  cases stepEffect taken with
  | sensorExpiry due =>
      refine postAll_induction (I := fun t => executed e t.log = executed e s.log ++ _) ?_ ?_
      · simp [State.executes, Actuator.executedIn]
      · intro t event posted same
        rw [executed_postEvent, same]
  | call posted c k r rest main reports =>
      rcases reports with rfl | ⟨path, value, _, rfl⟩ <;>
        simp [State.executes, main, Actuator.executedIn]
  | _ => simp [State.executes, Actuator.executedIn]

/-- What is delivered for a load in a step is what the action offers. -/
theorem delivered_step (taken : step s a = some s') :
    delivered e s'.log = delivered e s.log ++ (s.offered e a).toList := by
  cases stepEffect taken with
  | loadCallback w e' pending load =>
      rw [delivered_postEvent, offered_loadCallback e pending load]
      by_cases same : e' = e <;> simp [same, onOffPath_eq_iff, Actuator.deliveredIn]
  | otherCallback w pending other =>
      simp [offered_otherCallback e pending other, Actuator.deliveredIn, other e]
  | feederExpiry due =>
      rw [delivered_postEvent, offered_feederExpiry]
      by_cases same : Actuator.feeder = e <;>
        simp [same, onOffPath_eq_iff, Actuator.deliveredIn, isOn]
  | sensorExpiry due =>
      refine postAll_induction (I := fun t => delivered e t.log = delivered e s.log ++ _) ?_ ?_
      · simp [State.offered, Actuator.deliveredIn]
      · intro t event posted same
        rw [delivered_postEvent, same]
  | call posted c k r rest main reports =>
      rcases reports with rfl | ⟨path, value, other, rfl⟩ <;>
        simp_all [State.offered, Actuator.deliveredIn]
  | _ => simp [State.offered, Actuator.deliveredIn]

end Step

/-! ### The law of the pipeline -/

section Reached

variable {e : Actuator} {s : State}

/-- In every reachable state the accepted commands are those executed, in hand and waiting. -/
theorem accepted_eq_channel (reached : Reachable s) :
    accepted e s.log = (channel e s).accepted := by
  refine Channel.conserved (channel e) (fun t => accepted e t.log) (channelOp e) reached rfl
    fun run taken => ⟨?_, ?_⟩
  · exact channel_step (settled_of_reachable run) taken
  · rw [accepts_channelOp]
    exact accepted_step taken

/-- In a resting state everything accepted has been executed. -/
theorem executed_of_idle (reached : Reachable s) (idle : Idle s) :
    executed e s.log = accepted e s.log := by
  obtain ⟨empty, vars, main⟩ := idle
  have conserved := accepted_eq_channel (e := e) reached
  simpa [channel, Channel.accepted, main, MainThread.inHand, MainThread.outputs, waiting, empty]
    using conserved.symm

end Reached

/-- The event pipeline neither loses, duplicates, reorders nor misroutes what it accepted: for every
    load, in every reachable state, the commands executed, in the hand of the running handler and
    waiting in the queue are the accepted OnOff values in acceptance order. Only the delivery of a
    change of the load's own attribute adds one, and only when the queue has room. -/
theorem pipeline_conserves (e : Actuator) :
    (∀ s, Reachable s →
      executed e s.log ++ s.main.inHand e ++ waiting e s.queue = accepted e s.log ∧
      (s.main.inHand e = [] → executed e s.log ++ waiting e s.queue = accepted e s.log) ∧
      s.queue.items.length ≤ 10) ∧
    ∀ s a s', Reachable s → step s a = some s' →
      accepted e s'.log = accepted e s.log ++ (s.admitted e a).toList := by
  refine ⟨fun s reached => ?_, fun s a s' _ taken => accepted_step taken⟩
  have conserved : executed e s.log ++ s.main.inHand e ++ waiting e s.queue = accepted e s.log := by
    rw [accepted_eq_channel reached, Channel.accepted, channel, List.append_assoc]
  refine ⟨conserved, fun none => ?_, s.queue.bounded⟩
  rw [← conserved, none, List.append_nil]

/-- The heater is switched on and handled, then switched off with the event still waiting. -/
def heaterOffWaiting : List Action :=
  [.write Actuator.heater.onOffPath 1, .callback, .get, .call default, .ret,
    .write Actuator.heater.onOffPath 0, .callback]

/-- `pipeline_conserves` on a run with one command executed and one waiting. -/
theorem pipeline_conserves_heaterOffWaiting :
    accepted .heater (stateAfter heaterOffWaiting).log = [true, false] ∧
      executed .heater (stateAfter heaterOffWaiting).log ++
        waiting .heater (stateAfter heaterOffWaiting).queue = [true, false] := by
  have recorded : accepted .heater (stateAfter heaterOffWaiting).log = [true, false] := by decide
  have conserved := (pipeline_conserves .heater).1 (stateAfter heaterOffWaiting)
    (reachable_stateAfter _)
  exact ⟨recorded, recorded ▸ conserved.2.1 (by decide)⟩

end DeviceWifi
