/-
Module: DeviceWifi.Lib.Program
Layer: Lib
Purpose: Finite programs that interact with their environment by calls. A `Prog C R α` either returns a
  value or makes a call `c : C` and continues with the response. The same program has two readings:
  executed to completion against a table of responses (`result`, `trace`), or suspended between any two
  of its calls so that other contexts can run in between. For the second reading `Performs view p L Q`
  is the program logic: whatever the environment answers, `p` makes exactly the viewed calls `L`, in that
  order, and returns a value satisfying `Q`.
Imports: Mathlib.Logic.Basic
Trusted boundary: none (fully proved)
Main exports: Prog, Prog.perform, Prog.result, Prog.trace, Prog.Performs, Performs.next,
  Performs.filterMap_trace, Performs.result
Open obligations: none
-/
import Mathlib.Logic.Basic

namespace Reactive

/-- A program that returns, or makes a call and continues with the environment's response. -/
inductive Prog (C R α : Type) where
  | pure (a : α)
  | call (c : C) (k : R → Prog C R α)

namespace Prog

variable {C R α β γ O : Type}

/-- Sequential composition. -/
def bind : Prog C R α → (α → Prog C R β) → Prog C R β
  | .pure a, f => f a
  | .call c k, f => .call c fun r => bind (k r) f

instance : Monad (Prog C R) where
  pure := .pure
  bind := bind

/-- The program that makes one call and returns the response. -/
def perform (c : C) : Prog C R R := .call c .pure

@[simp] theorem pure_eq (a : α) : (Pure.pure a : Prog C R α) = .pure a := rfl

@[simp] theorem pure_bind' (a : α) (f : α → Prog C R β) : (Prog.pure a >>= f) = f a := rfl

@[simp] theorem call_bind (c : C) (k : R → Prog C R α) (f : α → Prog C R β) :
    (Prog.call c k >>= f) = .call c fun r => k r >>= f := rfl

@[simp] theorem perform_bind (c : C) (f : R → Prog C R β) :
    (perform c >>= f) = .call c f := rfl

/-- The order in which three programs are composed makes no difference. -/
theorem bind_assoc (p : Prog C R α) (f : α → Prog C R β) (g : β → Prog C R γ) :
    (p >>= f) >>= g = p >>= fun a => f a >>= g := by
  induction p with
  | pure a => rfl
  | call c k ih => exact congrArg (Prog.call c) (funext ih)

/-- Returning what was returned adds nothing. -/
theorem bind_pure (p : Prog C R α) : p >>= .pure = p := by
  induction p with
  | pure a => rfl
  | call c k ih => exact congrArg (Prog.call c) (funext ih)

/-- What follows a choice follows either alternative. -/
theorem ite_bind (condition : Prop) [Decidable condition] (p q : Prog C R α) (f : α → Prog C R β) :
    (if condition then p else q) >>= f = if condition then p >>= f else q >>= f :=
  apply_ite (· >>= f) condition p q

/-- Nothing is left to do. -/
def returned : Prog C R α → Bool
  | .pure _ => true
  | .call _ _ => false

/-! ### Execution against a table of responses -/

/-- The value returned when every call `c` is answered by `o c`. -/
def result (o : C → R) : Prog C R α → α
  | .pure a => a
  | .call c k => result o (k (o c))

/-- The calls made, with their responses, when every call `c` is answered by `o c`. -/
def trace (o : C → R) : Prog C R α → List (C × R)
  | .pure _ => []
  | .call c k => (c, o c) :: trace o (k (o c))

@[simp] theorem result_pure (o : C → R) (a : α) : (Prog.pure a : Prog C R α).result o = a := rfl

@[simp] theorem result_call (o : C → R) (c : C) (k : R → Prog C R α) :
    (Prog.call c k).result o = (k (o c)).result o := rfl

@[simp] theorem trace_pure (o : C → R) (a : α) : (Prog.pure a : Prog C R α).trace o = [] := rfl

@[simp] theorem trace_call (o : C → R) (c : C) (k : R → Prog C R α) :
    (Prog.call c k).trace o = (c, o c) :: (k (o c)).trace o := rfl

/-- A composition returns what its second part returns. -/
theorem result_bind (o : C → R) (p : Prog C R α) (f : α → Prog C R β) :
    (p >>= f).result o = (f (p.result o)).result o := by
  induction p with
  | pure a => rfl
  | call c k ih => exact ih (o c)

/-- A composition makes the calls of its parts in order. -/
theorem trace_bind (o : C → R) (p : Prog C R α) (f : α → Prog C R β) :
    (p >>= f).trace o = p.trace o ++ (f (p.result o)).trace o := by
  induction p with
  | pure a => rfl
  | call c k ih => exact congrArg ((c, o c) :: ·) (ih (o c))

/-- The calls of an execution carry the answers of its table. -/
theorem answer_of_mem_trace {p : Prog C R α} {o : C → R} {c : C} {r : R}
    (made : (c, r) ∈ p.trace o) : r = o c := by
  induction p with
  | pure a => exact nomatch made
  | call c' k ih =>
      rcases List.mem_cons.mp made with same | later
      · obtain ⟨rfl, rfl⟩ := Prod.mk.inj same
        rfl
      · exact ih _ later

/-! ### The logic of viewed calls -/

/-- Whatever the responses, the program makes exactly the viewed calls `L` and returns a value
    satisfying `Q`. Calls that `view` maps to `none` are unconstrained. -/
def Performs (view : C → Option O) : Prog C R α → List O → (α → Prop) → Prop
  | .pure a, L, Q => L = [] ∧ Q a
  | .call c k, L, Q =>
      match view c with
      | none => ∀ r, Performs view (k r) L Q
      | some o => ∃ rest, L = o :: rest ∧ ∀ r, Performs view (k r) rest Q

section Performs

variable {view : C → Option O} {L : List O} {Q : α → Prop}

@[simp] theorem performs_pure {a : α} :
    (Prog.pure a : Prog C R α).Performs view L Q ↔ L = [] ∧ Q a := Iff.rfl

/-- A call outside the view leaves the expected calls unchanged. -/
theorem performs_hidden {c : C} {k : R → Prog C R α} (hidden : view c = none) :
    (Prog.call c k).Performs view L Q ↔ ∀ r, (k r).Performs view L Q := by
  simp [Performs, hidden]

/-- A call inside the view is the first of the expected calls. -/
theorem performs_visible {c : C} {k : R → Prog C R α} {o : O} (visible : view c = some o) :
    (Prog.call c k).Performs view L Q ↔
      ∃ rest, L = o :: rest ∧ ∀ r, (k r).Performs view rest Q := by
  simp [Performs, visible]

/-- What one answered call does to the expected calls: a hidden call keeps them, a viewed call is
    consumed from their front. -/
theorem Performs.next {c : C} {k : R → Prog C R α}
    (performs : (Prog.call c k).Performs view L Q) (r : R) :
    (view c = none ∧ (k r).Performs view L Q) ∨
      ∃ o rest, view c = some o ∧ L = o :: rest ∧ (k r).Performs view rest Q := by
  cases viewed : view c with
  | none => exact Or.inl ⟨rfl, (performs_hidden viewed).mp performs r⟩
  | some o =>
      obtain ⟨rest, split, continues⟩ := (performs_visible viewed).mp performs
      exact Or.inr ⟨o, rest, rfl, split, continues r⟩

/-- Run to completion, the program makes exactly the viewed calls it performs. -/
theorem Performs.filterMap_trace {p : Prog C R α} (performs : p.Performs view L Q) (o : C → R) :
    (p.trace o).filterMap (fun made => view made.1) = L := by
  induction p generalizing L with
  | pure a => exact performs.1.symm
  | call c k ih =>
      rcases performs.next (o c) with ⟨hidden, rest⟩ | ⟨b, rest, visible, rfl, continues⟩
      · simp [hidden, ih _ rest]
      · simp [visible, ih _ continues]

/-- Run to completion, the program returns a value satisfying its postcondition. -/
theorem Performs.result {p : Prog C R α} (performs : p.Performs view L Q) (o : C → R) :
    Q (p.result o) := by
  induction p generalizing L with
  | pure a => exact performs.2
  | call c k ih =>
      rcases performs.next (o c) with ⟨_, rest⟩ | ⟨_, _, _, _, continues⟩
      · exact ih _ rest
      · exact ih _ continues

end Performs

end Prog

end Reactive
