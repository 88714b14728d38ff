/-
Module: DeviceWifi.Lib.Coupling
Layer: Lib
Purpose: A relational logic of interactive programs. `Couples own Q p q` says that two programs run in
  lockstep outside the calls of `own`: they make the same calls there, whatever the environment answers,
  and return values related by `Q`. A call of `own` is a step of its program alone, and where the answer
  leads makes no difference. Tables that differ at most on `own` then give the two the same execution,
  so the answers to `own` have no influence on what such programs do.
Imports: DeviceWifi.Lib.Program
Trusted boundary: none (fully proved)
Main exports: AnswerAlike, foreign, Prog.Couples, Prog.Couples.symm, Prog.Couples.trace_result
Open obligations: none
-/
import DeviceWifi.Lib.Program

namespace Reactive

variable {C R α β : Type}

/-- Two tables give the same answer to every call outside `own`. -/
def AnswerAlike (own : C → Bool) (o o' : C → R) : Prop := ∀ c, own c = false → o c = o' c

/-- The calls outside `own` among those made. -/
def foreign (own : C → Bool) (made : List (C × R)) : List (C × R) :=
  made.filter fun call => !own call.1

section Foreign

variable {own : C → Bool} {made made' : List (C × R)} {c : C}

@[simp] theorem foreign_append :
    foreign own (made ++ made') = foreign own made ++ foreign own made' := List.filter_append ..

theorem foreign_cons_own (owned : own c = true) (r : R) : foreign own ((c, r) :: made) = foreign own made :=
  List.filter_cons_of_neg (by simp [owned])

theorem foreign_cons_foreign (outside : own c = false) (r : R) :
    foreign own ((c, r) :: made) = (c, r) :: foreign own made :=
  List.filter_cons_of_pos (by simp [outside])

/-- Calls of `own` alone leave nothing outside it. -/
theorem foreign_eq_nil (owned : ∀ call ∈ made, own call.1 = true) : foreign own made = [] := by
  simpa [foreign] using owned

end Foreign

namespace Prog

/-- The programs make the same calls outside `own`, and return related values. -/
inductive Couples (own : C → Bool) (Q : α → β → Prop) : Prog C R α → Prog C R β → Prop where
  | pure {a : α} {b : β} (related : Q a b) : Couples own Q (.pure a) (.pure b)
  /-- Outside `own` both make the same call. -/
  | call {c : C} {k : R → Prog C R α} {k' : R → Prog C R β} (outside : own c = false)
      (continues : ∀ r, Couples own Q (k r) (k' r)) : Couples own Q (.call c k) (.call c k')
  /-- A call of `own` is made on one side. -/
  | left {c : C} {k : R → Prog C R α} {q : Prog C R β} (owned : own c = true)
      (continues : ∀ r, Couples own Q (k r) q) : Couples own Q (.call c k) q
  | right {c : C} {p : Prog C R α} {k : R → Prog C R β} (owned : own c = true)
      (continues : ∀ r, Couples own Q p (k r)) : Couples own Q p (.call c k)

section Couples

variable {own : C → Bool} {Q : α → β → Prop} {p : Prog C R α} {q : Prog C R β}

/-- Which program stands on which side makes no difference. -/
theorem Couples.symm (couples : Couples own Q p q) : Couples own (fun b a => Q a b) q p := by
  induction couples with
  | pure related => exact .pure related
  | call outside _ ih => exact .call outside ih
  | left owned _ ih => exact .right owned ih
  | right owned _ ih => exact .left owned ih

/-- Answered alike outside `own`, coupled programs have the same execution, outside `own`, and return
    related values. -/
theorem Couples.trace_result (couples : Couples own Q p q) {o o' : C → R}
    (alike : AnswerAlike own o o') :
    foreign own (p.trace o) = foreign own (q.trace o') ∧ Q (p.result o) (q.result o') := by
  induction couples with
  | pure related => exact ⟨rfl, related⟩
  | @call c k k' outside _ ih =>
      have answered : o c = o' c := alike c outside
      obtain ⟨calls, related⟩ := ih (o c)
      rw [trace_call, trace_call, result_call, result_call, ← answered, foreign_cons_foreign outside,
        foreign_cons_foreign outside, calls]
      exact ⟨rfl, related⟩
  | @left c k q owned _ ih =>
      rw [trace_call, result_call, foreign_cons_own owned]
      exact ih (o c)
  | @right c p k owned _ ih =>
      rw [trace_call, result_call, foreign_cons_own owned]
      exact ih (o' c)

end Couples

end Prog

end Reactive
