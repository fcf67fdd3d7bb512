import Backplane.SensorModule.Detection

/-!
# What a `Run` of the sensing tenant measures

`NTypes::SensorData` whole (`app/backplane/sensor_module/ac/types.yaml`), with the fields the
detectors do not read, and its image in memory: the autocoder packs its structures
(`tools/autocoders/templates/ac_types.h`), and every field is a `float`.
-/

namespace Backplane.SensorModule

/-- `NTypes::GyroscopeData`. -/
structure GyroscopeData (R : Type) where
  x : R
  y : R
  z : R

/-- `NTypes::MagnetometerData`. -/
structure MagnetometerData (R : Type) where
  x : R
  y : R
  z : R

/-- `NTypes::TemperatureData`. -/
structure TemperatureData (R : Type) where
  temperature : R

/-- `NTypes::SensorData`, whole. -/
structure FullSensorData (R : Type) extends SensorData R where
  imuGyroscope : GyroscopeData R
  magnetometer : MagnetometerData R
  temperature : TemperatureData R

variable {R : Type}

def BarometerData.fields (d : BarometerData R) : List R := [d.pressure, d.temperature]

def AccelerometerData.fields (d : AccelerometerData R) : List R := [d.x, d.y, d.z]

def GyroscopeData.fields (d : GyroscopeData R) : List R := [d.x, d.y, d.z]

def MagnetometerData.fields (d : MagnetometerData R) : List R := [d.x, d.y, d.z]

def TemperatureData.fields (d : TemperatureData R) : List R := [d.temperature]

/-- The fields, in the order of `types.yaml`. -/
def FullSensorData.fields (d : FullSensorData R) : List R :=
  d.primaryBarometer.fields ++ d.secondaryBarometer.fields ++ d.acceleration.fields ++
    d.imuAcceleration.fields ++ d.imuGyroscope.fields ++ d.magnetometer.fields ++
    d.temperature.fields

theorem length_fields (d : FullSensorData R) : d.fields.length = 17 := rfl

def sizeofFloat : Nat := 4

/-- `sizeof(NTypes::SensorData)`. -/
def sizeofSensorData : Nat := 17 * sizeofFloat

variable (floatBytes : R → Vector UInt8 sizeofFloat)

/-- The fields in memory. -/
def FullSensorData.bytes (d : FullSensorData R) : List (List UInt8) :=
  d.fields.map fun x => (floatBytes x).toList

theorem length_bytes (d : FullSensorData R) :
    (d.bytes floatBytes).map List.length = List.replicate 17 sizeofFloat := by
  unfold FullSensorData.bytes
  rw [List.map_map, List.eq_replicate_iff]
  refine ⟨by rw [List.length_map, length_fields], List.forall_mem_map.mpr fun x _ => ?_⟩
  exact (floatBytes x).length_toList

/-- The memory image of a `SensorData`. -/
def FullSensorData.image (d : FullSensorData R) : Vector UInt8 sizeofSensorData :=
  ⟨(d.bytes floatBytes).flatten.toArray, by
    rw [List.size_toArray, List.length_flatten, length_bytes]
    rfl⟩

end Backplane.SensorModule
