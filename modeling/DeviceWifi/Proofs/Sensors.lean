/-
Module: DeviceWifi.Proofs.Sensors
Layer: Proofs
Purpose: The sensor handlers. One handled reading stores all channels of a complete reading or nothing,
  touches no other variable, and publishes the stored values of its own sensor. Over a sequence, the
  stored values are those of each sensor's last complete reading, or the initial zeros.
Imports: Mathlib.Data.List.Induction, DeviceWifi.Spec.Readings, DeviceWifi.Proofs.Handlers
Trusted boundary: none (fully proved)
Main exports: reading_varsAfter, reading_publications, stored_eq_lastComplete, readings_atomic
Open obligations: none
-/
import Mathlib.Data.List.Induction
import DeviceWifi.Spec.Readings
import DeviceWifi.Proofs.Handlers

namespace DeviceWifi

open Reactive

/-! ### One reading -/

/-- The variables with a sensor's stored values replaced by those of a reading. -/
def Sensor.store (sensor : Sensor) (answers : Call → Response) (vars : AppVars) : AppVars :=
  match sensor with
  | .hot =>
      { vars with
        lastTemperature1 := sensor.read answers .ambientTemp
        lastHumidity1 := sensor.read answers .humidity }
  | .cold =>
      { vars with
        lastTemperature2 := sensor.read answers .ambientTemp
        lastHumidity2 := sensor.read answers .humidity }
  | .waterTemp => { vars with lastTemperature3 := sensor.read answers .ambientTemp }

section OneReading

variable (sensor : Sensor) (answers : Call → Response) (vars : AppVars)

/-- The body of the DHT handlers stores to the variables exactly when every call succeeded. -/
theorem dht_result (dev : SensorDevice) (store : SensorValue → SensorValue → AppVars → AppVars)
    (load : AppVars → SensorValue × SensorValue) (tEndpoint hEndpoint : UInt16) :
    (((dhtMeasureHandler dev store load tEndpoint hEndpoint).run vars).result answers).2 =
      if (answers (.sensorSampleFetch dev)).rc = 0 ∧
          (answers (.sensorChannelGet dev .ambientTemp)).rc = 0 ∧
          (answers (.sensorChannelGet dev .humidity)).rc = 0 then
        store (answers (.sensorChannelGet dev .ambientTemp)).value
          (answers (.sensorChannelGet dev .humidity)).value vars
      else vars := by
  by_cases fetched : (answers (.sensorSampleFetch dev)).rc = 0 <;>
    by_cases temperature : (answers (.sensorChannelGet dev .ambientTemp)).rc = 0 <;>
      by_cases humidity : (answers (.sensorChannelGet dev .humidity)).rc = 0 <;>
        simp [dhtMeasureHandler, sdk, fetched, temperature, humidity]

/-- The body of the DHT handlers publishes the variables as it leaves them. -/
theorem dht_publications (dev : SensorDevice)
    (store : SensorValue → SensorValue → AppVars → AppVars)
    (load : AppVars → SensorValue × SensorValue) (tEndpoint hEndpoint : UInt16) :
    ((((dhtMeasureHandler dev store load tEndpoint hEndpoint).run vars).trace answers).map
        Prod.fst).filterMap publication? =
      let left := (((dhtMeasureHandler dev store load tEndpoint hEndpoint).run vars).result answers).2
      [(tEndpoint, SensorChannel.ambientTemp.convert (load left).1),
        (hEndpoint, SensorChannel.humidity.convert (load left).2)] := by
  by_cases fetched : (answers (.sensorSampleFetch dev)).rc = 0 <;>
    by_cases temperature : (answers (.sensorChannelGet dev .ambientTemp)).rc = 0 <;>
      by_cases humidity : (answers (.sensorChannelGet dev .humidity)).rc = 0 <;>
        simp [dhtMeasureHandler, sdk, fetched, temperature, humidity, publication?,
          SensorChannel.convert, List.filterMap_cons]

/-- The handler of the DS18B20 stores to the variables exactly when both its calls succeeded. -/
theorem waterTemp_result :
    ((waterTempSensorMeasureHandler.run vars).result answers).2 =
      if (answers (.sensorSampleFetch .ds18b20)).rc = 0 ∧
          (answers (.sensorChannelGet .ds18b20 .ambientTemp)).rc = 0 then
        { vars with lastTemperature3 := (answers (.sensorChannelGet .ds18b20 .ambientTemp)).value }
      else vars := by
  by_cases fetched : (answers (.sensorSampleFetch .ds18b20)).rc = 0 <;>
    by_cases temperature : (answers (.sensorChannelGet .ds18b20 .ambientTemp)).rc = 0 <;>
      simp [waterTempSensorMeasureHandler, sdk, fetched, temperature]

/-- The handler of the DS18B20 publishes the variable as it leaves it. -/
theorem waterTemp_publications :
    (((waterTempSensorMeasureHandler.run vars).trace answers).map Prod.fst).filterMap
        publication? =
      [(11, SensorChannel.ambientTemp.convert
        ((waterTempSensorMeasureHandler.run vars).result answers).2.lastTemperature3)] := by
  by_cases fetched : (answers (.sensorSampleFetch .ds18b20)).rc = 0 <;>
    by_cases temperature : (answers (.sensorChannelGet .ds18b20 .ambientTemp)).rc = 0 <;>
      simp [waterTempSensorMeasureHandler, sdk, fetched, temperature, publication?,
        SensorChannel.convert, List.filterMap_cons]

/-- The handler a sensor's event points to. -/
def Sensor.handler : Sensor → AppM Unit
  | .hot => hotSensorMeasureHandler
  | .cold => coldSensorMeasureHandler
  | .waterTemp => waterTempSensorMeasureHandler

theorem dispatchEvent_event : dispatchEvent sensor.event = sensor.handler := by
  cases sensor <;> rw [dispatchEvent_some rfl] <;> rfl

/-- What a reading leaves in the variables: all its values when it is complete, and otherwise exactly
    what was there. -/
theorem reading_varsAfter :
    (Reading.handled (sensor, answers)).varsAfter vars =
      if sensor.Complete answers then sensor.store answers vars else vars := by
  unfold Handled.varsAfter Reading.handled
  rw [dispatchEvent_event]
  cases sensor with
  | hot =>
      unfold Sensor.handler hotSensorMeasureHandler
      simp only [dht_result, Sensor.Complete, Sensor.channels, Sensor.device, Sensor.store,
        Sensor.read, List.forall_mem_cons, List.not_mem_nil, false_implies, implies_true, and_true]
  | cold =>
      unfold Sensor.handler coldSensorMeasureHandler
      simp only [dht_result, Sensor.Complete, Sensor.channels, Sensor.device, Sensor.store,
        Sensor.read, List.forall_mem_cons, List.not_mem_nil, false_implies, implies_true, and_true]
  | waterTemp =>
      unfold Sensor.handler
      simp only [waterTemp_result, Sensor.Complete, Sensor.channels, Sensor.device, Sensor.store,
        Sensor.read, List.forall_mem_cons, List.not_mem_nil, false_implies, implies_true, and_true]

/-- A reading writes the `MeasuredValue` of its own endpoints, each with the conversion of its own
    stored value, and no other. -/
theorem reading_publications :
    ((Reading.handled (sensor, answers)).calls vars).filterMap publication? =
      sensor.publications ((Reading.handled (sensor, answers)).varsAfter vars) := by
  unfold Handled.varsAfter Handled.calls Handled.exchanges Reading.handled
  rw [dispatchEvent_event]
  cases sensor with
  | hot =>
      unfold Sensor.handler hotSensorMeasureHandler
      rw [dht_publications]
      rfl
  | cold =>
      unfold Sensor.handler coldSensorMeasureHandler
      rw [dht_publications]
      rfl
  | waterTemp =>
      unfold Sensor.handler
      rw [waterTemp_publications]
      rfl

/-- Storing a reading sets the channels its handler reads. -/
theorem stored_store (chan : SensorChannel) (reads : chan ∈ sensor.channels) :
    sensor.stored (sensor.store answers vars) chan = sensor.read answers chan := by
  cases sensor <;> cases chan <;> first | rfl | simp [Sensor.channels] at reads

/-- Storing a reading leaves the other sensors' values alone. -/
theorem stored_store_other {sensor' : Sensor} (other : sensor' ≠ sensor) :
    sensor'.stored (sensor.store answers vars) = sensor'.stored vars := by
  funext chan
  cases sensor <;> cases sensor' <;> first | exact absurd rfl other | (cases chan <;> rfl)

end OneReading

/-! ### Sequences of readings -/

section Sequences

variable (readings : List Reading) (sensor sensor' : Sensor) (answers : Call → Response)

@[simp] theorem varsAfterReadings_concat :
    varsAfterReadings (readings ++ [(sensor, answers)]) =
      (Reading.handled (sensor, answers)).varsAfter (varsAfterReadings readings) := by
  simp [varsAfterReadings]

/-- One more reading is the last complete one of its own sensor if it is complete. -/
theorem lastComplete_concat :
    lastComplete sensor (readings ++ [(sensor', answers)]) =
      if sensor' = sensor ∧ sensor.Complete answers then some answers
      else lastComplete sensor readings := by
  unfold lastComplete
  rw [List.filter_append]
  by_cases counts : sensor' = sensor ∧ sensor.Complete answers <;> simp [counts]

/-- After any sequence of readings every stored value is that of the sensor's last complete reading,
    or the initial zero. -/
theorem stored_eq_lastComplete {chan : SensorChannel} (reads : chan ∈ sensor.channels) :
    sensor.stored (varsAfterReadings readings) chan =
      match lastComplete sensor readings with
      | some answers => sensor.read answers chan
      | none => default := by
  induction readings using List.reverseRecOn with
  | nil => cases sensor <;> cases chan <;> rfl
  | append_singleton readings reading ih =>
      obtain ⟨sensor', answers⟩ := reading
      rw [varsAfterReadings_concat, reading_varsAfter, lastComplete_concat]
      by_cases own : sensor' = sensor
      · subst own
        by_cases complete : sensor'.Complete answers
        · simp [complete, stored_store sensor' answers _ chan reads]
        · simpa [complete] using ih
      · by_cases complete : sensor'.Complete answers
        · rw [if_pos complete, stored_store_other sensor' answers _ (Ne.symm own)]
          simpa [own] using ih
        · simpa [own, complete] using ih

end Sequences

/-- Failed readings are atomic and sensors are isolated. After every sequence of readings, the stored
    values of each sensor are all those of its last complete reading, or all zero when there was none;
    and whichever reading comes next, a failure at any of its calls changes nothing, no other sensor's
    values change, and exactly the sensor's own endpoints are written, each with the conversion of the
    stored value of its own quantity. -/
theorem readings_atomic (readings : List Reading) :
    (∀ sensor : Sensor,
      match lastComplete sensor readings with
      | some answers => ∀ chan ∈ sensor.channels,
          sensor.stored (varsAfterReadings readings) chan = sensor.read answers chan
      | none => ∀ chan ∈ sensor.channels,
          sensor.stored (varsAfterReadings readings) chan = ⟨0, 0⟩) ∧
    ∀ (sensor : Sensor) (answers : Call → Response),
      let before := varsAfterReadings readings
      let reading := Reading.handled (sensor, answers)
      (¬ sensor.Complete answers → reading.varsAfter before = before) ∧
      (∀ sensor' ≠ sensor, sensor'.stored (reading.varsAfter before) = sensor'.stored before) ∧
      (reading.calls before).filterMap publication? =
        sensor.publications (reading.varsAfter before) := by
  refine ⟨fun sensor => ?_, fun sensor answers => ⟨fun failed => ?_, fun sensor' other => ?_, ?_⟩⟩
  · have stored : ∀ chan ∈ sensor.channels, _ :=
      fun chan reads => stored_eq_lastComplete readings sensor reads
    cases complete : lastComplete sensor readings with
    | some answers =>
        intro chan reads
        rw [stored chan reads, complete]
    | none =>
        intro chan reads
        rw [stored chan reads, complete]
        rfl
  · rw [reading_varsAfter, if_neg failed]
  · rw [reading_varsAfter]
    split
    · exact stored_store_other sensor answers _ other
    · rfl
  · exact reading_publications sensor answers _

/-- A complete reading of 21.5 degrees and 60 percent. -/
def readsWarm : Call → Response
  | .sensorChannelGet _ .ambientTemp => ⟨0, ⟨21, 500000⟩⟩
  | .sensorChannelGet _ .humidity => ⟨0, ⟨60, 0⟩⟩
  | _ => ⟨0, default⟩

/-- A reading whose humidity cannot be read. -/
def failsOnHumidity : Call → Response
  | .sensorChannelGet _ .ambientTemp => ⟨0, ⟨35, 0⟩⟩
  | .sensorChannelGet _ .humidity => ⟨-5, ⟨99, 0⟩⟩
  | _ => ⟨0, default⟩

/-- `readings_atomic` on a complete reading of the DHT22 and a failed one after it: the pair stays that
    of the complete reading, and the DHT11's values stay zero. -/
theorem readings_atomic_failsOnHumidity :
    (varsAfterReadings [(.hot, readsWarm)]).lastHumidity1 = ⟨60, 0⟩ ∧
      (Reading.handled (.hot, failsOnHumidity)).varsAfter (varsAfterReadings [(.hot, readsWarm)]) =
        varsAfterReadings [(.hot, readsWarm)] ∧
      Sensor.cold.stored ((Reading.handled (.hot, failsOnHumidity)).varsAfter
        (varsAfterReadings [(.hot, readsWarm)])) .ambientTemp = ⟨0, 0⟩ := by
  obtain ⟨stored, next⟩ := readings_atomic [(.hot, readsWarm)]
  obtain ⟨unchanged, isolated, _⟩ := next .hot failsOnHumidity
  refine ⟨stored .hot .humidity (by decide), unchanged (by decide), ?_⟩
  rw [isolated .cold (by decide)]
  exact stored .cold .ambientTemp (by decide)

/-! ### What is published -/

section Published

variable (readings : List Reading) (sensor sensor' : Sensor) (answers : Call → Response)

/-- Each endpoint belongs to one channel of one sensor. -/
theorem publications_filter (vars : AppVars) {chan : SensorChannel}
    (reads : chan ∈ sensor.channels) :
    (sensor'.publications vars).filter (fun written => written.1 = sensor.endpoint chan) =
      if sensor' = sensor then
        [(sensor.endpoint chan, chan.convert (sensor.stored vars chan))]
      else [] := by
  cases sensor <;> cases chan <;> cases sensor' <;>
    first
    | exact absurd reads (by decide)
    | simp [Sensor.publications, Sensor.channels, Sensor.endpoint]

/-- One more reading publishes on its own sensor's endpoints only. -/
theorem published_concat {chan : SensorChannel} (reads : chan ∈ sensor.channels) :
    published (readings ++ [(sensor', answers)]) (sensor.endpoint chan) =
      if sensor' = sensor then
        some (chan.convert
          (sensor.stored (varsAfterReadings (readings ++ [(sensor', answers)])) chan))
      else published readings (sensor.endpoint chan) := by
  have step : (callsOver .initial ((readings ++ [(sensor', answers)]).map
      Reading.handled)).filterMap publication? =
      (callsOver .initial (readings.map Reading.handled)).filterMap publication? ++
        sensor'.publications (varsAfterReadings (readings ++ [(sensor', answers)])) := by
    rw [List.map_append, List.map_singleton, callsOver_concat, List.filterMap_append,
      varsAfterReadings_concat, ← reading_publications]
    rfl
  unfold published
  rw [step, List.filter_append, publications_filter sensor sensor' _ reads]
  by_cases own : sensor' = sensor <;> simp [own]

/-- An endpoint is written as soon as its sensor has been read, and then holds the conversion of the
    stored value. -/
theorem published_eq_stored {chan : SensorChannel} (reads : chan ∈ sensor.channels) :
    published readings (sensor.endpoint chan) =
      if ∃ reading ∈ readings, reading.1 = sensor then
        some (chan.convert (sensor.stored (varsAfterReadings readings) chan))
      else none := by
  induction readings using List.reverseRecOn with
  | nil => rfl
  | append_singleton readings reading ih =>
      obtain ⟨sensor', answers⟩ := reading
      rw [published_concat readings sensor sensor' answers reads]
      by_cases own : sensor' = sensor
      · simp [own]
      · have kept : sensor.stored (varsAfterReadings (readings ++ [(sensor', answers)])) =
            sensor.stored (varsAfterReadings readings) := by
          rw [varsAfterReadings_concat, reading_varsAfter]
          split
          · exact stored_store_other sensor' answers _ (Ne.symm own)
          · rfl
        have read : (∃ reading ∈ readings ++ [(sensor', answers)], reading.1 = sensor) ↔
            ∃ reading ∈ readings, reading.1 = sensor := by
          simp only [List.mem_append, List.mem_singleton, or_and_right, exists_or, exists_eq_left,
            own, or_false]
        rw [if_neg own, kept, ih]
        simp only [read]

/-- The last complete reading is one of the readings. -/
theorem lastComplete_mem {answers : Call → Response}
    (last : lastComplete sensor readings = some answers) :
    (sensor, answers) ∈ readings ∧ sensor.Complete answers := by
  obtain ⟨reading, isLast, rfl⟩ := Option.map_eq_some_iff.mp last
  have member := List.mem_of_getLast? isLast
  rw [List.mem_filter, decide_eq_true_eq] at member
  obtain ⟨present, own, complete⟩ := member
  exact ⟨own ▸ present, complete⟩

/-- There is a last complete reading as soon as there is a complete one. -/
theorem lastComplete_eq_none_iff :
    lastComplete sensor readings = none ↔
      ∀ reading ∈ readings, reading.1 = sensor → ¬ sensor.Complete reading.2 := by
  simp [lastComplete]

/-- Only measured values are published exactly when every sensor that has been read has been read
    completely. -/
theorem onlyMeasured_iff :
    OnlyMeasured readings ↔
      ∀ sensor : Sensor, (∃ reading ∈ readings, reading.1 = sensor) →
        ∃ reading ∈ readings, reading.1 = sensor ∧ sensor.Complete reading.2 := by
  constructor
  · intro only sensor hasReading
    by_contra incomplete
    have none : ∀ reading ∈ readings, reading.1 = sensor → ¬ sensor.Complete reading.2 :=
      fun reading member own complete => incomplete ⟨reading, member, own, complete⟩
    have reads : .ambientTemp ∈ sensor.channels := by cases sensor <;> decide
    have unwritten := (only sensor .ambientTemp reads).1 none
    rw [published_eq_stored readings sensor reads, if_pos hasReading] at unwritten
    exact nomatch unwritten
  · intro completes sensor chan reads
    rw [published_eq_stored readings sensor reads]
    refine ⟨fun none => if_neg fun hasReading => ?_, fun complete => ?_⟩
    · obtain ⟨reading, member, own, complete⟩ := completes sensor hasReading
      exact none reading member own complete
    · cases last : lastComplete sensor readings with
      | none =>
          obtain ⟨reading, member, own, isComplete⟩ := complete
          exact absurd isComplete
            ((lastComplete_eq_none_iff readings sensor).mp last reading member own)
      | some answers =>
          obtain ⟨member, isComplete⟩ := lastComplete_mem readings sensor last
          refine ⟨(sensor, answers), member, rfl, isComplete, ?_⟩
          rw [if_pos ⟨_, member, rfl⟩, stored_eq_lastComplete readings sensor reads, last]

end Published

/-- In every prefix an element of a kind comes with a good one exactly when the first of the kind is
    good. -/
theorem forall_take_iff_find? {α : Type} (kind good : α → Prop) [DecidablePred kind] (xs : List α) :
    (∀ n, (∃ x ∈ xs.take n, kind x) → ∃ x ∈ xs.take n, kind x ∧ good x) ↔
      ∀ x ∈ xs.find? (fun x => kind x), good x := by
  induction xs with
  | nil => simp
  | cons x xs ih =>
      by_cases first : kind x
      · rw [List.find?_cons_of_pos (by simpa using first)]
        constructor
        · intro every y isFirst
          obtain rfl : x = y := by simpa using isFirst
          obtain ⟨z, member, _, isGood⟩ := every 1 ⟨x, by simp, first⟩
          obtain rfl : z = x := by simpa using member
          exact isGood
        · intro good n witness
          cases n with
          | zero => simp at witness
          | succ n => exact ⟨x, by simp, first, good x rfl⟩
      · rw [List.find?_cons_of_neg (by simpa using first), ← ih]
        constructor
        · intro every n witness
          simpa [first] using every (n + 1) (by simpa [first] using witness)
        · intro every n witness
          cases n with
          | zero => simp at witness
          | succ n => simpa [first] using every n (by simpa [first] using witness)

/-- Only measured values are published throughout a sequence of readings exactly when the first
    reading of each sensor is complete. -/
theorem onlyMeasured_throughout_iff (readings : List Reading) :
    (∀ n, OnlyMeasured (readings.take n)) ↔ FirstComplete readings := by
  simp only [onlyMeasured_iff]
  rw [forall_comm]
  apply forall_congr'
  intro sensor
  exact forall_take_iff_find? (fun reading : Reading => reading.1 = sensor)
    (fun reading => sensor.Complete reading.2) readings

/-- A first reading of the water sensor whose fetch fails. -/
def failedFetch : List Reading := [(.waterTemp, fun _ => ⟨-5, default⟩)]

/-- Not only measured values are published: after a failed first reading the endpoint holds zero. -/
theorem onlyMeasured_fails : ¬ ∀ (readings : List Reading) n, OnlyMeasured (readings.take n) := by
  intro every
  have only := every failedFetch 1
  have unwritten := (only .waterTemp .ambientTemp (by decide)).1 (by decide)
  exact absurd unwritten (by decide)

end DeviceWifi
