/-
Module: DeviceWifi.Lib.Backlog
Layer: Lib
Purpose: Looking ahead through a backlog. Items wait in order and each, when its turn comes, moves a state
  by `next`. `settle` is the state once the whole backlog has been handled. `EachFinds` says of every
  waiting item what holds of it in the state it will find, which is not the present one. A producer that
  appends an item needs to know only the settled state; a consumer that handles the first item learns
  its property in the present state.
Imports: none
Trusted boundary: none (fully proved)
Main exports: Backlog.settle, Backlog.settle_rel, Backlog.EachFinds, Backlog.EachFinds.concat,
  Backlog.EachFinds.sim, Backlog.EachFinds.imp
Open obligations: none
-/

namespace Reactive.Backlog

variable {σ α : Type} {next : σ → α → σ} {x : σ} {a : α} {items : List α}

/-- The state once every waiting item has been handled. -/
def settle (next : σ → α → σ) (x : σ) (items : List α) : σ := items.foldl next x

@[simp] theorem settle_nil : settle next x [] = x := rfl

@[simp] theorem settle_cons : settle next x (a :: items) = settle next (next x a) items := rfl

theorem settle_append (more : List α) :
    settle next x (items ++ more) = settle next (settle next x items) more := by
  simp [settle]

@[simp] theorem settle_concat :
    settle next x (items ++ [a]) = next (settle next x items) a := by
  simp [settle]

/-- Every waiting item satisfies `P` with the state it will find when its turn comes. -/
def EachFinds (next : σ → α → σ) (P : σ → α → Prop) : σ → List α → Prop
  | _, [] => True
  | x, a :: rest => P x a ∧ EachFinds next P (next x a) rest

variable {P Q : σ → α → Prop}

/-- Producer rule: an item appended to the backlog will find the settled state. -/
theorem EachFinds.concat (waiting : EachFinds next P x items) (last : P (settle next x items) a) :
    EachFinds next P x (items ++ [a]) := by
  induction items generalizing x with
  | nil => exact ⟨last, trivial⟩
  | cons first rest ih => exact ⟨waiting.1, ih waiting.2 last⟩

/-- Two states related at the start are related once the same backlog has been handled. -/
theorem settle_rel {τ : Type} {next' : τ → α → τ} {R : σ → τ → Prop} {y : τ} (start : R x y)
    (keeps : ∀ {x y}, ∀ a ∈ items, R x y → R (next x a) (next' y a)) :
    R (settle next x items) (settle next' y items) := by
  induction items generalizing x y with
  | nil => exact start
  | cons first rest ih =>
      exact ih (keeps first (List.mem_cons_self ..) start)
        fun a member => keeps a (List.mem_cons_of_mem _ member)

/-- Change of the present state: what each item finds in a related state is as good. -/
theorem EachFinds.sim {R : σ → σ → Prop} {y : σ} (waiting : EachFinds next P x items)
    (start : R x y) (keeps : ∀ {x y a}, R x y → R (next x a) (next y a))
    (weaker : ∀ {x y a}, R x y → P x a → Q y a) : EachFinds next Q y items := by
  induction items generalizing x y with
  | nil => exact trivial
  | cons first rest ih => exact ⟨weaker start waiting.1, ih waiting.2 (keeps start)⟩

/-- What the waiting items satisfy may be weakened. -/
theorem EachFinds.imp (waiting : EachFinds next P x items) (weaker : ∀ {x a}, P x a → Q x a) :
    EachFinds next Q x items :=
  waiting.sim (R := Eq) rfl (fun same => same ▸ rfl) fun same found => same ▸ weaker found

end Reactive.Backlog
