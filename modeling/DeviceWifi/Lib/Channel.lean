/-
Module: DeviceWifi.Lib.Channel
Layer: Lib
Purpose: A command channel seen from outside: the commands executed so far and those accepted and not yet
  executed, oldest first. Accepting adds at the back, executing moves the oldest one over. What a
  channel accepted is by construction what it executed followed by what is pending, so a system that
  refines a channel step by step neither loses, duplicates nor reorders commands (`Channel.conserved`).
Imports: DeviceWifi.Lib.Transition
Trusted boundary: none (fully proved)
Main exports: Channel, ChannelOp, Channel.apply, Channel.accepted, Channel.conserved
Open obligations: none
-/
import DeviceWifi.Lib.Transition

namespace Reactive

variable {α σ β : Type}

/-- The commands a channel has executed and those still pending. -/
structure Channel (α : Type) where
  executed : List α
  pending : List α
deriving DecidableEq, Repr

/-- What one step of a system does to a channel. -/
inductive ChannelOp (α : Type) where
  | accept (x : α)
  | execute
  | skip
deriving DecidableEq, Repr

/-- The commands an operation accepts. -/
def ChannelOp.accepts : ChannelOp α → List α
  | .accept x => [x]
  | _ => []

namespace Channel

/-- Carry out an operation; executing on a channel with nothing pending does nothing. -/
def apply : Channel α → ChannelOp α → Channel α
  | c, .accept x => { c with pending := c.pending ++ [x] }
  | ⟨done, x :: rest⟩, .execute => ⟨done ++ [x], rest⟩
  | c, _ => c

/-- Everything the channel has accepted. -/
def accepted (c : Channel α) : List α := c.executed ++ c.pending

@[simp] theorem apply_skip (c : Channel α) : c.apply .skip = c := by
  rcases c with ⟨_, _ | _⟩ <;> rfl

@[simp] theorem apply_accept (c : Channel α) (x : α) :
    c.apply (.accept x) = ⟨c.executed, c.pending ++ [x]⟩ := by
  rcases c with ⟨_, _ | _⟩ <;> rfl

@[simp] theorem apply_execute (done : List α) (x : α) (rest : List α) :
    Channel.apply ⟨done, x :: rest⟩ .execute = ⟨done ++ [x], rest⟩ := rfl

/-- Only accepting changes what has been accepted, and it adds at the end. -/
theorem accepted_apply (c : Channel α) (op : ChannelOp α) :
    (c.apply op).accepted = c.accepted ++ op.accepts := by
  obtain ⟨done, pending⟩ := c
  cases op with
  | accept x => simp [accepted, ChannelOp.accepts]
  | skip => simp [ChannelOp.accepts]
  | execute =>
      cases pending with
      | nil => simp [apply, ChannelOp.accepts]
      | cons x rest => simp [accepted, ChannelOp.accepts]

/-- Conservation: where every step of a system is an operation on its channel, and what the system
    records as accepted follows these operations, the record is what was executed followed by what is
    pending. -/
theorem conserved {step : σ → β → Option σ} {ok : σ → β → Prop} {start s : σ}
    (channel : σ → Channel α) (record : σ → List α) (op : σ → β → ChannelOp α)
    (reached : Reaches step ok start s) (base : record start = (channel start).accepted)
    (refines : ∀ {t t' : σ} {b : β}, Reaches step ok start t → step t b = some t' →
      channel t' = (channel t).apply (op t b) ∧ record t' = record t ++ (op t b).accepts) :
    record s = (channel s).accepted := by
  refine reached.invariant_with (J := Reaches step ok start)
    (I := fun t => record t = (channel t).accepted) id base ?_
  intro t t' b run same _ taken
  obtain ⟨applied, recorded⟩ := refines run taken
  rw [applied, accepted_apply, recorded, same]

end Channel

end Reactive
