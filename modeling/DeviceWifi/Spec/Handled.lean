/-
Module: DeviceWifi.Spec.Handled
Layer: Spec
Purpose: The main loop on its own: a sequence of events handled one after the other, each with the answers
  the SDK gives to its handler's calls. Between two handlers nothing happens to the main thread's
  variables, so the sequence determines them and every call.
Imports: DeviceWifi.Firmware.AppTask
Trusted boundary: human-reviewed spec
Main exports: Handled, Handled.exchanges, Handled.varsAfter, varsOver, varsAfter, exchangesOver, callsOver,
  callsAt
Open obligations: none
-/
import DeviceWifi.Firmware.AppTask

namespace DeviceWifi

open Reactive

/-- An event taken from the queue, and the answers to the SDK calls made while it is handled. -/
structure Handled where
  event : AppEvent
  answers : Call → Response

namespace Handled

/-- The calls made while the event is handled, with their answers. -/
def exchanges (h : Handled) (vars : AppVars) : List (Call × Response) :=
  ((dispatchEvent h.event).run vars).trace h.answers

/-- The calls alone. -/
def calls (h : Handled) (vars : AppVars) : List Call := (h.exchanges vars).map Prod.fst

/-- The main thread's variables after the event has been handled. -/
def varsAfter (h : Handled) (vars : AppVars) : AppVars :=
  (((dispatchEvent h.event).run vars).result h.answers).2

end Handled

/-- The main thread's variables after a sequence of events, from given ones. -/
def varsOver (vars : AppVars) (handled : List Handled) : AppVars :=
  handled.foldl (fun vars h => h.varsAfter vars) vars

/-- The main thread's variables after a sequence of events, from the entry of the loop. -/
def varsAfter (handled : List Handled) : AppVars := varsOver .initial handled

/-- The calls made over a sequence of events handled one after the other, with their answers. -/
def exchangesOver : AppVars → List Handled → List (Call × Response)
  | _, [] => []
  | vars, h :: hs => h.exchanges vars ++ exchangesOver (h.varsAfter vars) hs

/-- The calls alone. -/
def callsOver (vars : AppVars) (handled : List Handled) : List Call :=
  (exchangesOver vars handled).map Prod.fst

/-- The calls made while the n-th event of a sequence is handled; none past its end. -/
def callsAt (handled : List Handled) (n : Nat) : List Call :=
  match handled[n]? with
  | some h => h.calls (varsAfter (handled.take n))
  | none => []

@[simp] theorem varsAfter_concat (handled : List Handled) (h : Handled) :
    varsAfter (handled ++ [h]) = h.varsAfter (varsAfter handled) := by
  simp [varsAfter, varsOver]

/-- The calls over a longer sequence. -/
theorem exchangesOver_concat (vars : AppVars) (handled : List Handled) (h : Handled) :
    exchangesOver vars (handled ++ [h]) =
      exchangesOver vars handled ++ h.exchanges (varsOver vars handled) := by
  induction handled generalizing vars with
  | nil => simp [exchangesOver, varsOver]
  | cons h' rest ih => simp [exchangesOver, ih, varsOver]

theorem callsOver_concat (vars : AppVars) (handled : List Handled) (h : Handled) :
    callsOver vars (handled ++ [h]) = callsOver vars handled ++ h.calls (varsOver vars handled) := by
  rw [callsOver, exchangesOver_concat, List.map_append]
  rfl

theorem varsAfter_take_succ (handled : List Handled) (n : Nat) :
    varsAfter (handled.take (n + 1)) =
      match handled[n]? with
      | some h => h.varsAfter (varsAfter (handled.take n))
      | none => varsAfter (handled.take n) := by
  rw [List.take_add_one]
  cases handled[n]? with
  | none => simp
  | some h => simp

end DeviceWifi
