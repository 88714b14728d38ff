/-
Module: DeviceWifi.Spec.Progress
Layer: Spec
Purpose: The main thread left to itself. Its steps are the get, the calls of the running handler and the
  return; with the SDK's answers given it has one next step in every state. The rank of a state bounds
  the steps it can make before it waits on an empty queue: eight for every queued event, and those
  left to the running handler.
Imports: DeviceWifi.Spec.Sequential, DeviceWifi.Spec.History
Trusted boundary: human-reviewed spec
Main exports: MainOnly, AnsweredBy, MainRank, ServeRank, Served, State.stored
Open obligations: none
-/
import DeviceWifi.Spec.Sequential
import DeviceWifi.Spec.History

namespace DeviceWifi

open Reactive

/-- An action of the main thread. -/
def Action.ofMain : Action → Bool
  | .get | .call _ | .ret => true
  | _ => false

/-- The steps of the main thread. -/
def MainOnly (_ : State) (a : Action) : Prop := a.ofMain = true

/-- The main thread's next action when the SDK answers as given. -/
def State.mainAction (s : State) (answer : State → Response) : Action :=
  match s.main with
  | .waiting _ => .get
  | .handling _ (.call _ _) => .call (answer s)
  | .handling _ (.pure _) => .ret

/-- The steps of the main thread when the SDK answers as given. -/
def AnsweredBy (answer : State → Response) (s : State) (a : Action) : Prop := a = s.mainAction answer

/-- A bound on the main thread's steps before it is idle: a queued event takes its get, at most six calls
    and its return; the running handler takes a call for every site still ahead and its return. -/
def MainRank (s : State) (n : Nat) : Prop :=
  match s.main with
  | .waiting _ => n = 8 * s.queue.items.length
  | .handling _ rest => ∃ later, rest.CallsAmong Call.site later ∧
      n = 8 * s.queue.items.length + later.length + 1

/-- Of the first `count` accepted events, those that wait in the queue. -/
def State.unserved (s : State) (count : Nat) : Nat :=
  count + s.queue.items.length - (acceptedEvents s.log).length

/-- A bound on the main thread's steps before the first `count` accepted events are handled: the rank that
    leaves out what was accepted behind them. -/
def ServeRank (count : Nat) (s : State) (n : Nat) : Prop :=
  match s.main with
  | .waiting _ => n = 8 * s.unserved count
  | .handling _ rest => ∃ later, rest.CallsAmong Call.site later ∧
      n = 8 * s.unserved count + later.length + 1

/-- The first `count` accepted events have been handled: neither in hand nor waiting, they have room among
    the others. -/
def Served (count : Nat) (s : State) : Prop :=
  count + s.main.inHandEvent.length + s.queue.items.length ≤ (acceptedEvents s.log).length

/-- The OnOff value last stored for a load: that of the Matter thread's write in progress, or else the one
    delivered last. -/
def State.stored (e : Actuator) (s : State) : Bool :=
  match s.pendingWrite with
  | some w => if w.path = e.onOffPath then isOn w.value else latest (delivered e s.log)
  | none => latest (delivered e s.log)

end DeviceWifi
