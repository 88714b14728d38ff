/-
Module: DeviceWifi.Lib.Execution
Layer: Lib
Purpose: Partial executions of interactive programs. `Leads p made q` says that `p`, its first calls
  answered as in `made`, has `q` still to do: this is how a program suspended between two calls is
  described. `CallsAmong label p sites` bounds what any execution calls: the labels of its calls are
  among the sites, in their order and each at most once. A program that repeats no call cannot tell
  where its answers come from, so each of its executions is one against a fixed table of answers.
Imports: Mathlib.Data.List.Nodup, DeviceWifi.Lib.Program
Trusted boundary: none (fully proved)
Main exports: Prog.Leads, Prog.Leads.answer, Prog.Leads.completed, Prog.CallsAmong,
  Prog.CallsAmong.sublist, Prog.CallsAmong.remaining, Prog.CallsAmong.performs_nil,
  Prog.Leads.exists_table
Open obligations: none
-/
import Mathlib.Data.List.Nodup
import DeviceWifi.Lib.Program

namespace Reactive.Prog

variable {C R α K : Type}

/-! ### Suspended programs -/

/-- With its first calls answered as listed, the program has another one still to do. -/
inductive Leads : Prog C R α → List (C × R) → Prog C R α → Prop where
  | refl (p : Prog C R α) : Leads p [] p
  | call {c : C} {k : R → Prog C R α} {r : R} {made : List (C × R)} {q : Prog C R α}
      (rest : Leads (k r) made q) : Leads (.call c k) ((c, r) :: made) q

section Leads

variable {p q : Prog C R α} {made : List (C × R)}

/-- Answering the next call extends the execution by it. -/
theorem Leads.answer {c : C} {k : R → Prog C R α} (leads : Leads p made (.call c k)) (r : R) :
    Leads p (made ++ [(c, r)]) (k r) := by
  generalize suspended : Prog.call c k = q at leads
  induction leads with
  | refl p => exact suspended ▸ .call (.refl _)
  | call rest ih => exact .call (ih suspended)

/-- An execution against a table that gives the answers already received goes on from where the program
    is suspended. -/
theorem Leads.trace_result (leads : Leads p made q) {o : C → R}
    (agrees : ∀ call ∈ made, o call.1 = call.2) :
    p.trace o = made ++ q.trace o ∧ p.result o = q.result o := by
  induction leads with
  | refl p => exact ⟨rfl, rfl⟩
  | @call c k r made q rest ih =>
      obtain ⟨now, later⟩ := List.forall_mem_cons.mp agrees
      obtain ⟨calls, value⟩ := ih later
      rw [trace_call, result_call, now]
      exact ⟨congrArg ((c, r) :: ·) calls, value⟩

/-- A suspended program completed against a table is an execution of the whole program. -/
theorem Leads.completed (leads : Leads p made q) (o : C → R) :
    Leads p (made ++ q.trace o) (.pure (q.result o)) := by
  induction leads with
  | refl p =>
      induction p with
      | pure a => exact .refl _
      | call c k ih => exact .call (ih (o c))
  | call rest ih => exact .call ih

end Leads

/-! ### The call sites of a program -/

/-- Along every execution the labels of the calls are among the sites, in their order and each at most
    once. -/
def CallsAmong [DecidableEq K] (label : C → K) : Prog C R α → List K → Prop
  | .pure _, _ => True
  | .call c k, sites =>
      match sites.dropWhile fun site => site ≠ label c with
      | [] => False
      | _ :: later => ∀ r, CallsAmong label (k r) later

section Sites

variable [DecidableEq K] {label : C → K} {p q : Prog C R α} {sites : List K}
  {made : List (C × R)}

@[simp] theorem callsAmong_pure {a : α} : (Prog.pure a : Prog C R α).CallsAmong label sites := trivial

/-- A call at the first site. -/
theorem callsAmong_head {c : C} {k : R → Prog C R α} {later : List K} :
    (Prog.call c k).CallsAmong label (label c :: later) ↔
      ∀ r, (k r).CallsAmong label later := by
  simp [CallsAmong]

/-- The sites a call leaves are those behind its own. -/
theorem CallsAmong.call {c : C} {k : R → Prog C R α}
    (among : (Prog.call c k).CallsAmong label sites) :
    ∃ later, (label c :: later).Sublist sites ∧ ∀ r, (k r).CallsAmong label later := by
  unfold CallsAmong at among
  split at among
  next => exact among.elim
  next site later behind =>
    have own : site = label c := by
      have notDropped := List.head?_dropWhile_not (fun site => site ≠ label c) sites
      rw [behind] at notDropped
      simpa using notDropped
    refine ⟨later, ?_, among⟩
    rw [← own, ← behind]
    exact List.dropWhile_sublist _

/-- The calls made so far are at different sites, and the program still to do calls from those behind
    them. -/
theorem CallsAmong.remaining (among : p.CallsAmong label sites) (leads : Leads p made q) :
    ∃ later, q.CallsAmong label later ∧
      (made.map (fun call => label call.1) ++ later).Sublist sites := by
  induction leads generalizing sites with
  | refl p => exact ⟨sites, among, List.Sublist.refl _⟩
  | call rest ih =>
      obtain ⟨behind, own, continues⟩ := among.call
      obtain ⟨later, still, sublist⟩ := ih (continues _)
      exact ⟨later, still, (sublist.cons_cons _).trans own⟩

/-- A program none of whose sites is in a view makes no viewed call. -/
theorem CallsAmong.performs_nil {O : Type} {view : C → Option O} (among : p.CallsAmong label sites)
    (hidden : ∀ c, label c ∈ sites → view c = none) : p.Performs view [] fun _ => True := by
  induction p generalizing sites with
  | pure a => exact ⟨rfl, trivial⟩
  | call c k ih =>
      obtain ⟨later, own, continues⟩ := among.call
      rw [performs_hidden (hidden c (own.subset (List.mem_cons_self ..)))]
      exact fun r => ih r (continues r) fun c behind =>
        hidden c (own.subset (List.mem_cons_of_mem _ behind))

/-- The next call of a suspended program is at a site of the whole program. -/
theorem CallsAmong.label_mem {c : C} {k : R → Prog C R α} (among : p.CallsAmong label sites)
    (leads : Leads p made (.call c k)) : label c ∈ sites := by
  obtain ⟨later, rest, sublist⟩ := among.remaining leads
  obtain ⟨behind, own, _⟩ := rest.call
  exact sublist.subset (List.mem_append_right _ (own.subset (List.mem_cons_self ..)))

/-- An execution calls at sites of the program, in their order. -/
theorem CallsAmong.sublist (among : p.CallsAmong label sites) (leads : Leads p made q) :
    (made.map fun call => label call.1).Sublist sites := by
  obtain ⟨later, _, sublist⟩ := among.remaining leads
  exact (List.sublist_append_left _ _).trans sublist

/-- Where no site occurs twice, no execution repeats a call. -/
theorem CallsAmong.nodup (among : p.CallsAmong label sites) (distinct : sites.Nodup)
    (leads : Leads p made q) : (made.map Prod.fst).Nodup := by
  have labels : ((made.map Prod.fst).map label).Nodup := by
    rw [List.map_map]
    exact distinct.sublist (among.sublist leads)
  exact List.Nodup.of_map label labels

end Sites

/-! ### Tables of answers -/

/-- The table that answers each listed call as listed. -/
def tableOf [DecidableEq C] [Inhabited R] (made : List (C × R)) (c : C) : R :=
  (made.lookup c).getD default

theorem tableOf_of_mem [DecidableEq C] [Inhabited R] {made : List (C × R)} {call : C × R}
    (distinct : (made.map Prod.fst).Nodup) (member : call ∈ made) :
    tableOf made call.1 = call.2 := by
  obtain ⟨before, later, rfl⟩ := List.append_of_mem member
  have first : call.1 ∉ before.map Prod.fst := by
    rw [List.map_append, List.map_cons] at distinct
    exact fun earlier => List.disjoint_of_nodup_append distinct earlier (List.mem_cons_self ..)
  have found : (before ++ call :: later).lookup call.1 = some call.2 := by
    rw [List.lookup_eq_some_iff]
    refine ⟨before, later, rfl, fun other earlier => ?_⟩
    have apart : call.1 ≠ other.1 := fun same => first (same ▸ List.mem_map_of_mem earlier)
    simpa using apart
  rw [tableOf, found, Option.getD_some]

/-- An execution that repeats no call is one against a table of answers. -/
theorem Leads.exists_table [DecidableEq C] [Inhabited R] {p : Prog C R α} {made : List (C × R)}
    {a : α} (leads : Leads p made (.pure a)) (distinct : (made.map Prod.fst).Nodup) :
    ∃ o : C → R, p.trace o = made ∧ p.result o = a := by
  obtain ⟨calls, value⟩ := leads.trace_result fun call => tableOf_of_mem distinct
  exact ⟨tableOf made, by simpa using calls, value⟩

end Reactive.Prog
