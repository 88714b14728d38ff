/-
Module: DeviceWifi.Spec.History
Layer: Spec
Purpose: What a run's log says about one load: the OnOff values delivered to the change callback, those
  whose event the queue accepted, and the commands executed on the load's output. With the commands that
  are still waiting or in the hand of the running handler these give the load's command channel.
Imports: DeviceWifi.Lib.Channel, DeviceWifi.Spec.Outputs
Trusted boundary: human-reviewed spec
Main exports: delivered, accepted, executed, waiting, channel, State.offered,
  State.admitted, State.executes, Idle, Quiescent
Open obligations: none
-/
import DeviceWifi.Lib.Channel
import DeviceWifi.Spec.Outputs

namespace DeviceWifi

open Reactive

/-! ### Commands of a load -/

/-- The relay that switches a load; the feeder is a servo and has none. -/
def Actuator.relay? : Actuator → Option GpioSpec
  | .hotLamp => some .rel1
  | .uvbLamp => some .rel2
  | .heater => some .rel3
  | .filter => some .rel4
  | .feeder => none

/-- The level a relay is driven to: relays are on at low level. -/
def level (on : Bool) : Nat := if on then 0 else 1

/-- The command an SDK call gives a load: its relay set to 0 (on) or 1 (off), or the feeder's servo set
    to the feeding pulse (on) or to none (off). -/
def Actuator.driven (e : Actuator) : Call → Option Bool
  | .gpioPinSetDt spec value =>
      if e.relay? = some spec then
        if value = 0 then some true else if value = 1 then some false else none
      else none
  | .pwmSetPulseDt width =>
      if e = .feeder then
        if width = pulse then some true else if width = 0 then some false else none
      else none
  | _ => none

/-- The command an event carries for a load, by the handler it points to. -/
def Actuator.command? (e : Actuator) (event : AppEvent) : Option Bool :=
  if event.handler = (e.event true).handler then some true
  else if event.handler = (e.event false).handler then some false
  else none

/-! ### Readings of the log -/

/-- The OnOff value of the load that an occurrence delivers to the change callback. -/
def Actuator.deliveredIn (e : Actuator) : Obs → Option Bool
  | .delivered path value => if path = e.onOffPath then some (isOn value) else none
  | _ => none

/-- The OnOff value of the load whose event an occurrence puts into the queue. -/
def Actuator.acceptedIn (e : Actuator) : Obs → Option Bool
  | .posted (.attributeChange path value) _ true =>
      if path = e.onOffPath then some (isOn value) else none
  | _ => none

/-- The command that an occurrence executes on the load's output. -/
def Actuator.executedIn (e : Actuator) : Obs → Option Bool
  | .called _ c _ => e.driven c
  | _ => none

/-- The values delivered for a load so far. -/
def delivered (e : Actuator) (log : List Entry) : List Bool :=
  log.filterMap fun entry => e.deliveredIn entry.obs

/-- The values for a load that the queue accepted so far, in acceptance order. -/
def accepted (e : Actuator) (log : List Entry) : List Bool :=
  log.filterMap fun entry => e.acceptedIn entry.obs

/-- The commands executed on a load's output so far. -/
def executed (e : Actuator) (log : List Entry) : List Bool :=
  log.filterMap fun entry => e.executedIn entry.obs

/-- The commands for a load waiting in the queue, in queue order. -/
def waiting (e : Actuator) (queue : BoundedQueue Posted kAppEventQueueSize) : List Bool :=
  queue.items.filterMap fun posted => e.command? posted.event

/-- The commands for a load that the running handler has taken and not yet executed. -/
def MainThread.inHand (e : Actuator) (main : MainThread) : List Bool :=
  main.outputs.filterMap e.driven

/-- The last value of a sequence of OnOff values, off when there is none. -/
def latest (values : List Bool) : Bool := values.getLast?.getD false

/-- A load's command channel. -/
def channel (e : Actuator) (s : State) : Channel Bool where
  executed := executed e s.log
  pending := s.main.inHand e ++ waiting e s.queue

/-- The OnOff value of a load that an action hands to the change callback: the Matter thread's pending
    write, or the false that an expiry of the feeder's timer stores. No other action offers one. -/
def State.offered (e : Actuator) (s : State) : Action → Option Bool
  | .callback =>
      match s.pendingWrite with
      | some w => if w.path = e.onOffPath then some (isOn w.value) else none
      | none => none
  | .expiry .sFeederMonoTimer => if e = .feeder then some false else none
  | _ => none

/-- The value an action puts into the queue: what it offers, unless the queue is full. -/
def State.admitted (e : Actuator) (s : State) (a : Action) : Option Bool :=
  (s.offered e a).bind fun on => if s.queue.Full then none else some on

/-- The command for a load that an action executes: the running handler's next call. -/
def State.executes (e : Actuator) (s : State) (a : Action) : Option Bool :=
  match a, s.main with
  | .call _, .handling _ (.call c _) => e.driven c
  | _, _ => none

/-! ### Resting states -/

/-- The queue is empty and no handler is running. -/
def Idle (s : State) : Prop := s.queue.items = [] ∧ ∃ vars, s.main = .waiting vars

/-- The queue is empty and neither a handler, a write nor a callback is in progress. -/
def Quiescent (s : State) : Prop := Idle s ∧ s.pendingWrite = none

/-! ### Reading one more entry -/

section Append

variable (e : Actuator) (log log' : List Entry) (entry : Entry)

@[simp] theorem delivered_append :
    delivered e (log ++ log') = delivered e log ++ delivered e log' := List.filterMap_append

@[simp] theorem accepted_append :
    accepted e (log ++ log') = accepted e log ++ accepted e log' := List.filterMap_append

@[simp] theorem executed_append :
    executed e (log ++ log') = executed e log ++ executed e log' := List.filterMap_append

@[simp] theorem delivered_cons :
    delivered e (entry :: log) = (e.deliveredIn entry.obs).toList ++ delivered e log := by
  cases read : e.deliveredIn entry.obs <;> simp [delivered, read]

@[simp] theorem accepted_cons :
    accepted e (entry :: log) = (e.acceptedIn entry.obs).toList ++ accepted e log := by
  cases read : e.acceptedIn entry.obs <;> simp [accepted, read]

@[simp] theorem executed_cons :
    executed e (entry :: log) = (e.executedIn entry.obs).toList ++ executed e log := by
  cases read : e.executedIn entry.obs <;> simp [executed, read]

@[simp] theorem delivered_nil : delivered e [] = [] := rfl
@[simp] theorem accepted_nil : accepted e [] = [] := rfl
@[simp] theorem executed_nil : executed e [] = [] := rfl

end Append

@[simp] theorem latest_concat (values : List Bool) (value : Bool) :
    latest (values ++ [value]) = value := by simp [latest]

end DeviceWifi
