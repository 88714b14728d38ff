/-
Module: DeviceWifi.Lib.Latch
Layer: Lib
Purpose: A latch that a set arms, a clear disarms, and a trigger uses up when it is armed. `FiresAt inputs
  n` says that the n-th input is a trigger that finds the latch armed. The law of the latch describes the
  firings by the inputs alone: a trigger fires exactly when the last set or clear before it is a set that
  no earlier trigger has used up.
Imports: Mathlib.Logic.Basic
Trusted boundary: none (fully proved)
Main exports: Latch.FiresAt, Latch.firesAt_iff, Latch.not_firesAt_of_clear, Latch.firesAt_unique,
  Latch.exists_firesAt
Open obligations: none
-/
import Mathlib.Logic.Basic

namespace Reactive

/-- The inputs of a latch. -/
inductive LatchInput where
  | set | clear | trigger
deriving DecidableEq, Repr

namespace Latch

/-- Whether the latch is armed after an input. -/
def next : Bool → LatchInput → Bool
  | _, .set => true
  | _, .clear => false
  | _, .trigger => false

/-- Whether the latch is armed after a sequence of inputs. -/
def armed (inputs : List LatchInput) : Bool := inputs.foldl next false

/-- The n-th input is a trigger and finds the latch armed. -/
def FiresAt (inputs : List LatchInput) (n : Nat) : Prop :=
  inputs[n]? = some .trigger ∧ armed (inputs.take n) = true

instance (inputs : List LatchInput) (n : Nat) : Decidable (FiresAt inputs n) :=
  inferInstanceAs (Decidable (_ ∧ _))

/-- Between `m` and `n` no input sets or clears the latch. -/
def Untouched (inputs : List LatchInput) (m n : Nat) : Prop :=
  ∀ k, m < k → k < n → inputs[k]? ≠ some .set ∧ inputs[k]? ≠ some .clear

variable {inputs : List LatchInput} {m n : Nat}

/-- One more input. -/
theorem armed_take_succ :
    armed (inputs.take (n + 1)) =
      match inputs[n]? with
      | some input => next (armed (inputs.take n)) input
      | none => armed (inputs.take n) := by
  unfold armed
  rw [List.take_add_one, List.foldl_append]
  cases inputs[n]? <;> rfl

/-- The latch is armed exactly when its last set has been neither cleared nor used up. -/
theorem armed_take_iff :
    armed (inputs.take n) = true ↔
      ∃ m < n, inputs[m]? = some .set ∧ Untouched inputs m n ∧
        ∀ k, m < k → k < n → ¬ FiresAt inputs k := by
  induction n with
  | zero => simp [armed]
  | succ n ih =>
      -- a witness below `n` stays one unless the n-th input disarms the latch
      have extend : (∃ m < n, inputs[m]? = some .set ∧ Untouched inputs m n ∧
            ∀ k, m < k → k < n → ¬ FiresAt inputs k) →
          inputs[n]? ≠ some .set → inputs[n]? ≠ some .clear → ¬ FiresAt inputs n →
          ∃ m < n + 1, inputs[m]? = some .set ∧ Untouched inputs m (n + 1) ∧
            ∀ k, m < k → k < n + 1 → ¬ FiresAt inputs k := by
        rintro ⟨m, before, isSet, untouched, unused⟩ noSet noClear noFire
        refine ⟨m, by omega, isSet, fun k after below => ?_, fun k after below => ?_⟩
        · rcases Nat.lt_succ_iff_lt_or_eq.mp below with below | rfl
          · exact untouched k after below
          · exact ⟨noSet, noClear⟩
        · rcases Nat.lt_succ_iff_lt_or_eq.mp below with below | rfl
          · exact unused k after below
          · exact noFire
      have restrict : (∃ m < n + 1, inputs[m]? = some .set ∧ Untouched inputs m (n + 1) ∧
            ∀ k, m < k → k < n + 1 → ¬ FiresAt inputs k) → inputs[n]? ≠ some .set →
          inputs[n]? ≠ some .clear ∧ ¬ FiresAt inputs n ∧ armed (inputs.take n) = true := by
        rintro ⟨m, before, isSet, untouched, unused⟩ noSet
        have below : m < n := by
          rcases Nat.lt_succ_iff_lt_or_eq.mp before with below | rfl
          · exact below
          · exact absurd isSet noSet
        refine ⟨(untouched n below (by omega)).2, unused n below (by omega), ih.mpr ⟨m, below, isSet,
          fun k after lt => untouched k after (by omega),
          fun k after lt => unused k after (by omega)⟩⟩
      rw [armed_take_succ]
      cases input : inputs[n]? with
      | none =>
          have noFire : ¬ FiresAt inputs n := by simp [FiresAt, input]
          constructor
          · intro isArmed
            exact extend (ih.mp isArmed) (by simp [input]) (by simp [input]) noFire
          · intro witness
            exact (restrict witness (by simp [input])).2.2
      | some i =>
          cases i with
          | set =>
              refine ⟨fun _ => ⟨n, by omega, input, fun k after below => ?_, fun k after below => ?_⟩,
                fun _ => rfl⟩ <;> omega
          | clear =>
              refine ⟨nofun, fun witness => ?_⟩
              exact absurd input (restrict witness (by simp [input])).1
          | trigger =>
              refine ⟨nofun, fun witness => ?_⟩
              obtain ⟨_, noFire, isArmed⟩ := restrict witness (by simp [input])
              exact absurd ⟨input, isArmed⟩ noFire

/-- The law of the latch: a trigger fires exactly when the last set or clear before it is a set, and no
    trigger since that set has fired. -/
theorem firesAt_iff :
    FiresAt inputs n ↔
      inputs[n]? = some .trigger ∧ ∃ m < n, inputs[m]? = some .set ∧ Untouched inputs m n ∧
        ∀ k, m < k → k < n → ¬ FiresAt inputs k :=
  and_congr_right fun _ => armed_take_iff

/-- Nothing fires between a clear and the next set. -/
theorem not_firesAt_of_clear (cleared : inputs[m]? = some .clear) (after : m < n)
    (noSet : ∀ k, m < k → k < n → inputs[k]? ≠ some .set) : ¬ FiresAt inputs n := by
  intro fires
  obtain ⟨_, m', before, isSet, untouched, _⟩ := firesAt_iff.mp fires
  rcases Nat.lt_trichotomy m' m with below | rfl | above
  · exact (untouched m below after).2 cleared
  · simp [isSet] at cleared
  · exact noSet m' above before isSet

/-- Without a set in between, the latch fires at most once. -/
theorem firesAt_unique {n' : Nat} (fires : FiresAt inputs n) (fires' : FiresAt inputs n')
    (after : m < n) (after' : m < n')
    (noSet : ∀ k, m < k → (k < n ∨ k < n') → inputs[k]? ≠ some .set) : n = n' := by
  -- the set behind the later firing would lie before the earlier one, which used it up
  have ordered : ∀ {a b : Nat}, FiresAt inputs a → FiresAt inputs b → m < a →
      (∀ k, m < k → k < b → inputs[k]? ≠ some .set) → ¬ a < b := by
    intro a b firesA firesB afterA quiet lt
    obtain ⟨_, m', before, isSet, _, unused⟩ := firesAt_iff.mp firesB
    have early : m' ≤ m := Nat.le_of_not_lt fun late => quiet m' late before isSet
    exact unused a (by omega) lt firesA
  have notLt := ordered fires fires' after fun k late below => noSet k late (Or.inr below)
  have notGt := ordered fires' fires after' fun k late below => noSet k late (Or.inl below)
  omega

/-- A set that meets a trigger before any other set or clear makes the latch fire by then. -/
theorem exists_firesAt (isSet : inputs[m]? = some .set) (after : m < n)
    (triggers : inputs[n]? = some .trigger) (untouched : Untouched inputs m n) :
    ∃ k, m < k ∧ k ≤ n ∧ FiresAt inputs k := by
  by_cases used : ∃ k, m < k ∧ k < n ∧ FiresAt inputs k
  · obtain ⟨k, late, below, fires⟩ := used
    exact ⟨k, late, Nat.le_of_lt below, fires⟩
  · refine ⟨n, after, Nat.le_refl n, firesAt_iff.mpr ⟨triggers, m, after, isSet, untouched, ?_⟩⟩
    exact fun k late below fires => used ⟨k, late, below, fires⟩

end Latch

end Reactive
