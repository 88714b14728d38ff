/-
Module: DeviceWifi.Lib.Progress
Layer: Lib
Purpose: Runs that must come to rest. A rank bounds the inner steps still possible from a state: each of
  them lowers it. Then no run of inner steps is longer than the rank, and where every state at work has
  an inner step, a run of them reaches a state at rest. Where the rank counts only work that was there
  from the start, so that other steps keep it, the inner steps get that work done in any run, however
  many other steps lie between them.
Imports: DeviceWifi.Lib.Transition
Trusted boundary: none (fully proved)
Main exports: Lowers, runAll_append, Lowers.length_le, Lowers.settles, done_of_inner_steps
Open obligations: none
-/
import DeviceWifi.Lib.Transition

namespace Reactive

variable {σ α : Type} {step : σ → α → Option σ} {inner : σ → α → Prop} {rank : σ → Nat → Prop}

/-- Every inner step lowers the rank, which is a relation: a state may be known to have several. -/
def Lowers (step : σ → α → Option σ) (inner : σ → α → Prop) (rank : σ → Nat → Prop) : Prop :=
  ∀ {s s' : σ} {a : α} {n : Nat}, rank s n → inner s a → step s a = some s' →
    ∃ m, rank s' m ∧ m < n

/-- Two runs one after the other. -/
theorem runAll_append {s s' s'' : σ} {as as' : List α} (ran : runAll step s as = some s')
    (ran' : runAll step s' as' = some s'') : runAll step s (as ++ as') = some s'' := by
  induction as generalizing s with
  | nil => exact Option.some.inj ran ▸ ran'
  | cons a as ih =>
      obtain ⟨next, taken, ranRest⟩ := Option.bind_eq_some_iff.mp ran
      rw [List.cons_append, runAll, taken, Option.bind_some, ih ranRest]

/-- A run of inner steps is no longer than the rank of its start. -/
theorem Lowers.length_le (lowers : Lowers step inner rank) {s s' : σ} {as : List α} {n : Nat}
    (ranked : rank s n) (along : Along step inner s as) (ran : runAll step s as = some s') :
    as.length ≤ n := by
  induction as generalizing s n with
  | nil => exact Nat.zero_le n
  | cons a as ih =>
      obtain ⟨isInner, rest⟩ := along
      obtain ⟨next, taken, ranRest⟩ := Option.bind_eq_some_iff.mp ran
      obtain ⟨m, ranked', lower⟩ := lowers ranked isInner taken
      exact Nat.lt_of_le_of_lt (ih ranked' (rest next taken) ranRest) lower

/-- Where every ranked state at work has an inner step, inner steps lead to a state at rest, in at most as
    many steps as the rank. -/
theorem Lowers.settles (lowers : Lowers step inner rank) {rest : σ → Prop}
    (progress : ∀ {s : σ} {n : Nat}, rank s n → ¬ rest s → ∃ a s', inner s a ∧ step s a = some s')
    {s : σ} {n : Nat} (ranked : rank s n) :
    ∃ as s', Along step inner s as ∧ runAll step s as = some s' ∧ rest s' ∧ as.length ≤ n := by
  induction n using Nat.strongRecOn generalizing s with
  | ind n ih =>
      by_cases atRest : rest s
      · exact ⟨[], s, trivial, rfl, atRest, Nat.zero_le n⟩
      obtain ⟨a, next, isInner, taken⟩ := progress ranked atRest
      obtain ⟨m, ranked', lower⟩ := lowers ranked isInner taken
      obtain ⟨as, last, along, ran, rests, short⟩ := ih m lower ranked'
      refine ⟨a :: as, last, ⟨isInner, ?_⟩, ?_, rests, Nat.lt_of_le_of_lt short lower⟩
      · intro next' taken'
        obtain rfl : next' = next := Option.some.inj (taken'.symm.trans taken)
        exact along
      · rw [runAll, taken, Option.bind_some, ran]

/-- What every step keeps a run keeps. -/
theorem kept_of_runAll {I : σ → Prop} (keeps : ∀ {s s' : σ} {a : α}, I s → step s a = some s' → I s')
    {s s' : σ} {as : List α} (start : I s) (ran : runAll step s as = some s') : I s' := by
  have run : Reaches step (fun _ _ => True) s s' :=
    Reaches.refl.of_runAll (along_of_forall (fun _ _ => trivial) s as) ran
  exact run.invariant start fun before _ taken => keeps before taken

/-- When inner steps lower a rank that the other steps keep, and rank zero is done, a run with as many
    inner steps as the rank of its start is done, wherever these steps lie in it. -/
theorem done_of_inner_steps {isInner : α → Bool} {done : σ → Prop}
    (finished : ∀ {s : σ}, rank s 0 → done s)
    (stays : ∀ {s s' : σ} {a : α}, done s → step s a = some s' → done s')
    (lowers : ∀ {s s' : σ} {a : α} {n : Nat}, rank s (n + 1) → isInner a = true →
      step s a = some s' → ∃ m ≤ n, rank s' m)
    (keeps : ∀ {s s' : σ} {a : α} {n : Nat}, rank s n → isInner a = false →
      step s a = some s' → rank s' n)
    {s s' : σ} {as : List α} {n : Nat} (ranked : rank s n) (ran : runAll step s as = some s')
    (enough : n ≤ as.countP isInner) : done s' := by
  induction as generalizing s n with
  | nil =>
      obtain rfl : s = s' := Option.some.inj ran
      obtain rfl : n = 0 := Nat.le_zero.mp enough
      exact finished ranked
  | cons a as ih =>
      cases n with
      | zero => exact kept_of_runAll stays (finished ranked) ran
      | succ n =>
          obtain ⟨next, taken, ranRest⟩ := Option.bind_eq_some_iff.mp ran
          cases inner : isInner a with
          | true =>
              obtain ⟨m, lower, ranked'⟩ := lowers ranked inner taken
              rw [List.countP_cons, inner, if_pos rfl] at enough
              exact ih ranked' ranRest (Nat.le_trans lower (Nat.le_of_succ_le_succ enough))
          | false =>
              rw [List.countP_cons, inner, if_neg Bool.false_ne_true] at enough
              exact ih (keeps ranked inner taken) ranRest enough

end Reactive
