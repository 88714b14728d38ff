/-
Module: DeviceWifi.Proofs.Hundredths
Layer: Proofs
Purpose: The unit of the published measurements. The handlers convert a stored value to a whole number
  without scaling it, so what they publish is the number of hundredths divided by a hundred: right only
  where it is zero.
Imports: DeviceWifi.Proofs.Sensors
Trusted boundary: none (fully proved)
Main exports: convert_eq_hundredths_tdiv, publishes_hundredths_iff, publishes_hundredths_fails
Open obligations: none
-/
import DeviceWifi.Proofs.Sensors

namespace DeviceWifi

open FixedPoint

/-! ### The conversion -/

section Conversion

variable (value : SensorValue)

/-- Whole units are the hundredths divided by a hundred. -/
theorem truncate_sensorValueToDouble :
    truncate (sensorValueToDouble value) = (hundredths value).tdiv 100 := by
  have scaled : sensorValueToDouble value = 100 * sensorValueToDouble value / (100 : Nat) := by
    norm_num
  rw [hundredths]
  conv_lhs => rw [scaled]
  exact truncate_div_natCast _ 100

/-- In integers: the hundredths are the ten-thousandth part of the micro-units. -/
theorem hundredths_eq : hundredths value = (value.val1 * 1000000 + value.val2).tdiv 10000 := by
  have scaled : 100 * sensorValueToDouble value =
      ((value.val1 * 1000000 + value.val2 : Int) : Rat) / (10000 : Nat) := by
    rw [sensorValueToDouble]
    push_cast
    ring
  rw [hundredths, scaled]
  exact truncate_intCast_div_natCast _ 10000

theorem int16OfDouble_eq (x : Rat) : int16OfDouble x = Int16.ofInt (truncate x) := rfl

/-- An `int16_t` that is not negative is the same number as a `uint16_t`. -/
theorem toNat_toUInt16_ofInt {n : Int} (nonneg : 0 ≤ n) (bound : n < 2 ^ 15) :
    ((Int16.ofInt n).toUInt16.toNat : Int) = n := by
  have signed : (Int16.ofInt n).toInt = n := Int16.toInt_ofInt_of_le (by omega) bound
  have positive : 0 ≤ Int16.ofInt n := by
    rw [Int16.le_iff_toInt_le, signed]
    exact nonneg
  rw [Int16.toNat_toUInt16_of_le positive, Int16.toNatClampNeg, signed]
  exact Int.toNat_of_nonneg nonneg

/-- A channel's conversion publishes whole units, for every value whose hundredths fit its attribute. -/
theorem convert_eq_hundredths_tdiv {chan : SensorChannel} (fits : chan.Fits (hundredths value)) :
    chan.convert value = (hundredths value).tdiv 100 := by
  have size : ((hundredths value).tdiv 100).natAbs = (hundredths value).natAbs / 100 :=
    Int.natAbs_tdiv ..
  rw [← truncate_sensorValueToDouble] at size ⊢
  cases chan with
  | ambientTemp =>
      obtain ⟨lower, upper⟩ := fits
      rw [SensorChannel.convert, int16OfDouble_eq]
      exact Int16.toInt_ofInt_of_le (by omega) (by omega)
  | humidity =>
      obtain ⟨nonneg, upper⟩ := fits
      have whole : 0 ≤ truncate (sensorValueToDouble value) := by
        rw [truncate_sensorValueToDouble]
        exact Int.tdiv_nonneg nonneg (by decide)
      rw [SensorChannel.convert, int16OfDouble_eq]
      exact toNat_toUInt16_ofInt whole (by omega)

/-- What a channel's conversion publishes is the hundredths exactly for values below one hundredth. -/
theorem convert_eq_hundredths_iff {chan : SensorChannel} (fits : chan.Fits (hundredths value)) :
    chan.convert value = hundredths value ↔ BelowHundredth value := by
  have scaled : sensorValueToDouble value = 100 * sensorValueToDouble value / (100 : Nat) := by
    norm_num
  have below : |100 * sensorValueToDouble value| < 1 ↔ BelowHundredth value := by
    rw [BelowHundredth, abs_mul, lt_div_iff₀' (by norm_num)]
    norm_num
  rw [convert_eq_hundredths_tdiv value fits, ← truncate_sensorValueToDouble, scaled, ← below]
  exact truncate_div_natCast_eq_iff _ (by decide)

end Conversion

/-- After a complete reading the number published for a channel is the value read, in hundredths and
    truncated toward zero, exactly when that value is below one hundredth. -/
theorem publishes_hundredths_iff (sensor : Sensor) (answers : Call → Response) (vars : AppVars)
    (complete : sensor.Complete answers) {chan : SensorChannel} (reads : chan ∈ sensor.channels)
    (fits : chan.Fits (hundredths (sensor.read answers chan))) :
    PublishesHundredths sensor answers vars chan ↔ BelowHundredth (sensor.read answers chan) := by
  have written : (((Reading.handled (sensor, answers)).calls vars).filterMap publication?).filter
      (fun written => written.1 = sensor.endpoint chan) =
      [(sensor.endpoint chan, chan.convert (sensor.read answers chan))] := by
    rw [reading_publications, publications_filter sensor sensor _ reads, if_pos rfl,
      reading_varsAfter, if_pos complete, stored_store sensor answers vars chan reads]
  rw [PublishesHundredths, written, ← convert_eq_hundredths_iff _ fits]
  simp

/-- `publishes_hundredths_iff` on a complete reading of 21.5 degrees. -/
theorem publishes_hundredths_readsWarm :
    ¬ PublishesHundredths .hot readsWarm .initial .ambientTemp := by
  have fits : SensorChannel.ambientTemp.Fits (hundredths (Sensor.hot.read readsWarm .ambientTemp)) := by
    rw [hundredths_eq]
    decide
  rw [publishes_hundredths_iff .hot readsWarm .initial (by decide) (by decide) fits]
  norm_num [BelowHundredth, sensorValueToDouble, Sensor.read, readsWarm]

/-- Not every complete reading is published in hundredths: 21.5 degrees become 21 instead of 2150. -/
theorem publishes_hundredths_fails :
    ¬ ∀ (sensor : Sensor) (answers : Call → Response) (vars : AppVars), sensor.Complete answers →
      ∀ chan ∈ sensor.channels, chan.Fits (hundredths (sensor.read answers chan)) →
        PublishesHundredths sensor answers vars chan := by
  intro every
  have published := every .hot readsWarm .initial (by decide) .ambientTemp (by decide)
    (by rw [hundredths_eq]; decide)
  rw [PublishesHundredths, hundredths_eq] at published
  exact absurd published (by decide +kernel)

end DeviceWifi
