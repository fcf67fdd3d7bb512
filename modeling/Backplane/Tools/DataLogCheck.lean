import Backplane.General.Layout
import Backplane.PowerModule.Sensing
import Backplane.Radio.Gnss
import Backplane.SensorModule.Isolation

/-!
# The checks of the data logs

Model of `tools/data_log_check/*.py`, which read a data log on the ground with Python's `struct`, in
its native mode: a field is aligned to its size. The modules log packed structures
(`app/backplane/*/ac/types.yaml` by `tools/autocoders/templates/ac_types.h`, and
`app/backplane/radio_module/include/n_radio_module_types.h`). What a field's bytes mean is left to
`struct`; the scripts' prints, plots and broadcasts follow what is parsed here.

Results:
* `parse_grown`: what a check reads in a growing log.
* `logs_checked`: every record of a session is read back field by field, and behind the session's
  records those of the session before.
* `flight_checked`: what the sensor module's check reads after any run of its tasks.
-/

namespace Backplane.Tools

open Backplane.Layout
open Backplane.Net (CUdpSocket)
open Backplane.Os
open Backplane.Radio
open Backplane.Run
open Backplane.SensorModule
open Backplane.Threads
open Backplane.Utils

/-! ## The scripts -/

/-- A character of a format. -/
inductive FormatChar
  | f | I | H | B

def FormatChar.size : FormatChar → Nat
  | .f | .I => 4
  | .H => 2
  | .B => 1

abbrev Format := List FormatChar

def Format.sizes (fmt : Format) : List Nat := fmt.map FormatChar.size

/-- `struct.calcsize`. -/
def calcsize (fmt : Format) : Nat := nativeEnd 0 fmt.sizes

/-- `struct.unpack`, up to what the bytes of a field mean. -/
def structUnpack (fmt : Format) (record : List UInt8) : List (List UInt8) :=
  unpack (native 0 fmt.sizes) fmt.sizes record

/-- `parse_sensor_data`, `parse_gnss_data` and `parse_and_broadcast_sensor_data`: the records of
the file, unpacked one by one. -/
def parse (fmt : Format) (data : List UInt8) : List (List (List UInt8)) :=
  (chunks (calcsize fmt) data).map (structUnpack fmt)

/-- `SHUNT_DATA_FORMAT`. -/
def SHUNT_DATA_FORMAT : Format := [.f, .f, .f]

/-- `SENSOR_DATA_FORMAT` of `power_mod_check.py`. -/
def POWER_SENSOR_DATA_FORMAT : Format := (List.replicate 3 SHUNT_DATA_FORMAT).flatten

/-- `GNSS_DATA_FORMAT`. -/
def GNSS_DATA_FORMAT : Format := [.f, .f, .f, .I, .I, .B, .B, .H, .B]

/-- `GNSS_LOGGING_DATA_FORMAT`. -/
def GNSS_LOGGING_DATA_FORMAT : Format := [.I] ++ GNSS_DATA_FORMAT

def BAROMETER_DATA_FORMAT : Format := [.f, .f]
def ACCELEROMETER_DATA_FORMAT : Format := [.f, .f, .f]
def GYROSCOPE_DATA_FORMAT : Format := [.f, .f, .f]
def MAGNETOMETER_DATA_FORMAT : Format := [.f, .f, .f]
def TEMPERATURE_DATA_FORMAT : Format := [.f]

/-- `SENSOR_DATA_FORMAT` of `sensor_mod_check.py`. -/
def SENSOR_DATA_FORMAT : Format :=
  (List.replicate 2 BAROMETER_DATA_FORMAT).flatten ++ ACCELEROMETER_DATA_FORMAT ++
    ACCELEROMETER_DATA_FORMAT ++ GYROSCOPE_DATA_FORMAT ++ MAGNETOMETER_DATA_FORMAT ++
    TEMPERATURE_DATA_FORMAT

/-! ## The records -/

variable {F : Type} (floatBytes : F → Vector UInt8 sizeofFloat)

/-- The four bytes of a `uint32_t` in memory. -/
def littleEndian32 (x : UInt32) : List UInt8 :=
  [x.toUInt8, (x >>> 8).toUInt8, (x >>> 16).toUInt8, (x >>> 24).toUInt8]

/-- `NTypes::ShuntData` in memory. -/
def shuntBytes (d : PowerModule.ShuntData F) : List (List UInt8) :=
  [d.Voltage, d.Current, d.Power].map fun x => (floatBytes x).toList

/-- `NTypes::SensorData` of the power module in memory. -/
def powerBytes (d : PowerModule.SensorData F) : List (List UInt8) :=
  shuntBytes floatBytes d.RailBattery ++ shuntBytes floatBytes d.Rail3v3 ++
    shuntBytes floatBytes d.Rail5v0

/-- `NTypes::GnssLoggingData` in memory. -/
def gnssBytes (d : GnssLoggingData F) : List (List UInt8) :=
  littleEndian32 d.systemTime ::
    [d.gnssData.coordinates.latitude, d.gnssData.coordinates.longitude,
      d.gnssData.coordinates.altitude].map (fun x => (floatBytes x).toList) ++
    [littleEndian32 d.gnssData.time.time, littleEndian32 d.gnssData.time.date,
      [d.gnssData.info.satelliteId], [d.gnssData.info.elevation],
      littleEndian d.gnssData.info.azimuth, [d.gnssData.info.snr]]

/-- A kind of record with the format that its check reads it by. Packed, its fields have the sizes
of the format and are aligned. -/
structure RecordKind (α : Type) where
  fmt : Format
  bytes : α → List (List UInt8)
  sizes_bytes : ∀ a, (bytes a).map List.length = fmt.sizes
  aligned : Aligned 0 fmt.sizes
  calcsize_pos : 0 < calcsize fmt

theorem length_floatBytes (x : F) : (floatBytes x).toList.length = 4 := (floatBytes x).length_toList

def sensorRecord : RecordKind (FullSensorData F) where
  fmt := SENSOR_DATA_FORMAT
  bytes := FullSensorData.bytes floatBytes
  sizes_bytes := length_bytes floatBytes
  aligned := by decide
  calcsize_pos := by decide

def powerRecord : RecordKind (PowerModule.SensorData F) where
  fmt := POWER_SENSOR_DATA_FORMAT
  bytes := powerBytes floatBytes
  sizes_bytes d := by
    simp only [powerBytes, shuntBytes, List.map_append, List.map_cons, List.map_nil,
      length_floatBytes]
    rfl
  aligned := by decide
  calcsize_pos := by decide

def gnssRecord : RecordKind (GnssLoggingData F) where
  fmt := GNSS_LOGGING_DATA_FORMAT
  bytes := gnssBytes floatBytes
  sizes_bytes d := by
    simp only [gnssBytes, List.map_append, List.map_cons, List.map_nil, length_floatBytes]
    rfl
  aligned := by decide
  calcsize_pos := by decide

/-! ## What a check reads -/

theorem sizes_pos (fmt : Format) : ∀ s ∈ fmt.sizes, 0 < s := by
  refine List.forall_mem_map.mpr fun c _ => ?_
  cases c <;> decide

variable {α : Type} (k : RecordKind α)

theorem RecordKind.calcsize_eq : calcsize k.fmt = k.fmt.sizes.sum :=
  (nativeEnd_of_aligned (sizes_pos k.fmt) k.aligned).trans (Nat.zero_add _)

/-- A record in memory. -/
def RecordKind.image (a : α) : Vector UInt8 (calcsize k.fmt) :=
  ⟨(k.bytes a).flatten.toArray, by
    rw [List.size_toArray, List.length_flatten, k.sizes_bytes, k.calcsize_eq]⟩

theorem RecordKind.unpack_image (a : α) : structUnpack k.fmt (k.image a).toList = k.bytes a :=
  unpack_flatten (k.sizes_bytes a) (sizes_pos k.fmt) k.aligned

/-- **What a check reads in a growing log**: the records written, then those of the old file that
were not written over. -/
theorem parse_grown (content : List UInt8) (records : List α) :
    parse k.fmt (Datalogger.grown content (bytesOf (records.map k.image))).file.content =
      records.map k.bytes ++ (parse k.fmt content).drop records.length := by
  have hframes : ∀ record ∈ (records.map k.image).map Vector.toList,
      record.length = calcsize k.fmt := by
    intro record hrecord
    obtain ⟨image, -, rfl⟩ := List.mem_map.mp hrecord
    exact image.length_toList
  have hlength : (bytesOf (records.map k.image)).length = records.length * calcsize k.fmt := by
    unfold bytesOf
    rw [List.length_flatten, List.eq_replicate_iff.mpr ⟨rfl, List.forall_mem_map.mpr hframes⟩,
      List.sum_replicate, List.length_map, List.length_map, List.length_map]
    rfl
  have hunpack : ((records.map k.image).map Vector.toList).map (structUnpack k.fmt) =
      records.map k.bytes := by
    rw [List.map_map, List.map_map]
    exact List.map_congr_left fun a _ => k.unpack_image a
  unfold parse
  show ((chunks _ (bytesOf (records.map k.image) ++ content.drop _)).map _) = _
  rw [hlength, bytesOf, chunks_append k.calcsize_pos hframes, chunks_drop, List.map_append, hunpack,
    List.map_drop]

/-- The data log of a session that writes these records over what an earlier one has left. -/
def logOf (content : List UInt8) (records : List α) : List UInt8 :=
  (run Datalogger.log (Datalogger.new content .Growing 0) (records.map k.image)).file.content

/-- **Every record of a session is read back** by the module's check, field by field and in order.
Behind them it reads the records of the session before, from the same place on. -/
theorem logs_checked (content : List UInt8) :
    (∀ records, parse SENSOR_DATA_FORMAT (logOf (sensorRecord floatBytes) content records) =
      records.map (FullSensorData.bytes floatBytes) ++
        (parse SENSOR_DATA_FORMAT content).drop records.length) ∧
    (∀ records, parse POWER_SENSOR_DATA_FORMAT (logOf (powerRecord floatBytes) content records) =
      records.map (powerBytes floatBytes) ++
        (parse POWER_SENSOR_DATA_FORMAT content).drop records.length) ∧
    ∀ records, parse GNSS_LOGGING_DATA_FORMAT (logOf (gnssRecord floatBytes) content records) =
      records.map (gnssBytes floatBytes) ++
        (parse GNSS_LOGGING_DATA_FORMAT content).drop records.length := by
  have hlog : ∀ {α : Type} (k : RecordKind α) records, parse k.fmt (logOf k content records) =
      records.map k.bytes ++ (parse k.fmt content).drop records.length := by
    intro α k records
    unfold logOf
    rw [run_growing]
    exact parse_grown k content records
  exact ⟨hlog (sensorRecord floatBytes), hlog (powerRecord floatBytes),
    hlog (gnssRecord floatBytes)⟩

/-! ## A flight -/

section Flight

variable {R D : Type} [CDouble D] [CFloat R D] {floatBytes : R → Vector UInt8 sizeofFloat}
  {BROADCAST_IP : UInt32} {socket : CUdpSocket} {dataLog : List UInt8}

/-- What the sensors read, turn by turn. -/
def samples (turns : List (Σ t, Input R t)) : List (FullSensorData R) :=
  turns.filterMap fun
    | ⟨.sensing, a⟩ => some a.data
    | _ => none

/-- **A turn measures** what the sensors read at it, or nothing. -/
theorem measured_step (w : Module D) (x : Σ t, Input R t) :
    let w' := (sensorTasks floatBytes BROADCAST_IP socket).step w x
    ∃ taken, List.Sublist taken (samples [x]) ∧
      w'.shared.measured = w.shared.measured ++ taken.map (FullSensorData.image floatBytes) := by
  have hnone : ∀ s : Board D, s.measured = w.shared.measured →
      ∃ taken, List.Sublist taken (samples [x]) ∧
        s.measured = w.shared.measured ++ taken.map (FullSensorData.image floatBytes) :=
    fun s hs => ⟨[], List.nil_sublist _, by rw [hs, List.map_nil, List.append_nil]⟩
  rcases step_cases (p := sensorTasks floatBytes BROADCAST_IP socket) w x with heq | ⟨y, hy, heq⟩
  · rw [heq]
    exact hnone w.shared rfl
  rw [heq]
  obtain ⟨t, a⟩ := x
  cases t with
  | sensing =>
    cases hy
    unfold sensingMove
    split
    · split <;> exact hnone w.shared rfl
    · exact ⟨[a.data], List.Sublist.refl _, rfl⟩
    · exact hnone _ rfl
    · exact hnone _ rfl
  | networking =>
    cases hy
    exact hnone _ (netMoved BROADCAST_IP socket a w.shared (w.locals .networking)).measured
  | dataLog => exact hnone _ (logMoved hy).measured
  | timers =>
    cases hy
    exact hnone _ rfl

/-- What was measured is what the sensors read at some of the turns. -/
theorem measured_samples (turns : List (Σ t, Input R t)) {w : Module D}
    (hw : w = sensorRun floatBytes BROADCAST_IP socket dataLog turns) :
    ∃ taken, List.Sublist taken (samples turns) ∧
      w.shared.measured = taken.map (FullSensorData.image floatBytes) := by
  subst hw
  refine run_induction (motive := fun turns (w : Module D) =>
    ∃ taken, List.Sublist taken (samples turns) ∧
      w.shared.measured = taken.map (FullSensorData.image floatBytes)) ?_ ?_ turns
  · exact ⟨[], List.Sublist.refl _, rfl⟩
  · rintro turns x ⟨before, hbefore, hmeasured⟩
    obtain ⟨taken, htaken, hstep⟩ := measured_step (R := R) (D := D) _ x
    refine ⟨before ++ taken, ?_, hstep.trans ?_⟩
    · unfold samples
      rw [List.filterMap_append]
      exact hbefore.append htaken
    · rw [hmeasured, List.map_append]

/-- **The check after a flight.** After any run in which no record was stored in part, the check
reads in the data log what the sensors read at some of the turns, in order and field by field, and
behind it what it reads from there on in the log that the module found. -/
theorem flight_checked (turns : List (Σ t, Input R t)) (hstores : StoresRecords turns) :
    let w := sensorRun (D := D) floatBytes BROADCAST_IP socket dataLog turns
    ∃ kept, List.Sublist kept (samples turns) ∧
      parse SENSOR_DATA_FORMAT w.shared.dataLogger.file.content =
        kept.map (FullSensorData.bytes floatBytes) ++
          (parse SENSOR_DATA_FORMAT dataLog).drop kept.length := by
  intro w
  obtain ⟨taken, htaken, hmeasured⟩ := measured_samples turns (rfl : w = _)
  have hlogged : w.shared.logged.Sublist (taken.map (FullSensorData.image floatBytes)) := by
    rw [← hmeasured]
    refine List.Sublist.trans ?_ (flows_run .dataLog dataLog turns)
    unfold flow
    rw [List.append_assoc, List.append_assoc]
    exact List.sublist_append_left _ _
  obtain ⟨kept, hkept, heq⟩ := List.sublist_map_iff.mp hlogged
  refine ⟨kept, hkept.trans htaken, ?_⟩
  have hfile : w.shared.dataLogger = Datalogger.grown dataLog w.shared.written :=
    (delivers_run dataLog turns).file
  have hwhole : w.shared.written = bytesOf w.shared.logged := whole_run dataLog turns hstores
  rw [hfile, hwhole, heq]
  exact parse_grown (sensorRecord floatBytes) dataLog kept

/-- A reading on its way to the data log. -/
def loggedTurns : List (Σ t, Input Rat t) :=
  seaLevelTurns 10 0 ++ List.replicate 2 ⟨.dataLog, FsAnswers.full sizeofSensorData⟩

theorem flight_checked_logged :
    let w := sensorRun (D := Rat) (fun _ => Vector.replicate _ 0) 0 {} [] loggedTurns
    StoresRecords loggedTurns ∧ ∃ kept, List.Sublist kept (samples loggedTurns) ∧
      parse SENSOR_DATA_FORMAT w.shared.dataLogger.file.content =
        kept.map (FullSensorData.bytes fun _ => Vector.replicate _ 0) ++
          (parse SENSOR_DATA_FORMAT []).drop kept.length := by
  have hstores : StoresRecords loggedTurns := by
    intro a ha n hn
    simp only [loggedTurns, seaLevelTurns, List.replicate, List.cons_append, List.nil_append,
      List.mem_cons, Sigma.mk.injEq, reduceCtorEq, false_and, false_or, heq_eq_eq, true_and,
      List.not_mem_nil, or_false, or_self] at ha
    subst ha
    cases hn
    exact .inr (Nat.le_refl _)
  exact ⟨hstores, flight_checked loggedTurns hstores⟩

end Flight

end Backplane.Tools
