import Mathlib.Data.Rat.Floor
import Mathlib.Tactic.Linarith
import Backplane.General.FoldM
import Backplane.OpenRocket.Playback
import Backplane.OpenRocket.Units

/-!
# The table of a simulated flight

Model of `drivers/sensor/openrocket/conversion.py` from the columns of the export on
(`get_wanted_vars` to `make_c_file`), and of the initialisation of `or_packets` by the C file that
it writes: the values of a packet go to the members of `struct or_data_t` in their order
(`openrocket_sensors.h`, with the options that `CMakeLists.txt` passes on as flags). A cell is an
exact number or `nan`. A number is printed with four decimals. `evaluate_xyz` of `magnetic_field.py`
is a stub in the source.

Results:
* `packet_aligned_iff`: the flags for which every member gets its own value.
* `formatted_le`, `formatted_lt`: what printing does to a number, and to times that are apart.
* `csv_played`: from the export to what the sensors show.
-/

namespace Backplane.OpenRocket

open Backplane.FoldM
open UnitName

/-! ## The converter -/

/-- The columns that the converter knows. -/
inductive Variable
  | TIME
  | VERT_ACCEL | LAT_ACCEL | ROLL_RATE | PITCH_RATE | YAW_RATE
  | TEMP | PRESSURE
  | LATITUDE | LONGITUDE | VELOCITY | ALTITUDE | LATERAL_DIRECTION
  | VERT_ORIENTATION | LAT_ORIENTATION
  | MAGNX | MAGNY | MAGNZ
  deriving DecidableEq

open Variable

/-- The flags of the command line. -/
structure ConverterConfig where
  imu : Bool
  barometer : Bool
  gnss : Bool
  magnetometer : Bool

/-- `get_wanted_vars`. -/
def getWantedVars (config : ConverterConfig) : List (List Variable × String) :=
  [([TIME], "Need Time for any sensor to work")] ++
    (if config.imu then
      [([VERT_ACCEL, LAT_ACCEL, ROLL_RATE, PITCH_RATE, YAW_RATE], "Requested IMU data")]
    else []) ++
    (if config.barometer then [([TEMP, PRESSURE], "Requested barometer data")] else []) ++
    (if config.gnss then
      [([LATITUDE, LONGITUDE, VELOCITY, ALTITUDE, LATERAL_DIRECTION], "Requested GNSS data")]
    else []) ++
    (if config.magnetometer then
      [([VERT_ORIENTATION, LAT_ORIENTATION, LATITUDE, LONGITUDE, ALTITUDE],
        "Requested Magnetometer data")]
    else [])

/-- `desired_units[variable]`. -/
def Variable.desiredUnit : Variable → UnitName
  | TIME => s
  | VERT_ACCEL | LAT_ACCEL => m_per_s2
  | ROLL_RATE | PITCH_RATE | YAW_RATE => rad_per_s
  | TEMP => deg_C
  | PRESSURE => kPa
  | LATITUDE | LONGITUDE => deg
  | VELOCITY => m_per_s
  | ALTITUDE => m
  | LATERAL_DIRECTION | VERT_ORIENTATION | LAT_ORIENTATION => deg
  | MAGNX | MAGNY | MAGNZ => gauss

/-- `MappingDef`. -/
structure MappingDef where
  header_index : Nat
  original_unit : UnitName
  destination_unit : UnitName

/-- The mapping from variables to columns. -/
abbrev Mapping := Variable → Option MappingDef

/-- One variable of `validate_vars`: the first column of its name, or a complaint. -/
def validateVar (csv_header : List (Option Variable × UnitName)) (reason : String)
    (acc : Mapping × List (Variable × String)) (var : Variable) :
    Mapping × List (Variable × String) :=
  match csv_header.zipIdx.find? (fun h => h.1.1 = some var) with
  | some ((_, original_unit), header_index) =>
    (Function.update acc.1 var (some
      { header_index := header_index
        original_unit := original_unit
        destination_unit := var.desiredUnit }), acc.2)
  | none => (acc.1, acc.2 ++ [(var, reason)])

/-- `validate_vars`; `complain` lists what is missing, and exits. -/
def validateVars (csv_header : List (Option Variable × UnitName))
    (wanted : List (List Variable × String)) : Except (List (Variable × String)) Mapping :=
  let r := wanted.foldl (fun acc w => w.1.foldl (validateVar csv_header w.2) acc)
    (fun _ => none, [])
  if r.2.length ≠ 0 then .error r.2 else .ok r.1

/-- `struct_order`. -/
def structOrder : List Variable :=
  [TIME, VERT_ACCEL, LAT_ACCEL, ROLL_RATE, PITCH_RATE, YAW_RATE, TEMP, PRESSURE, LATITUDE,
    LONGITUDE, VELOCITY, ALTITUDE, LATERAL_DIRECTION, MAGNX, MAGNY, MAGNZ]

/-- A row of the export: `none` is `nan`. -/
abbrev Row := List (Option ℚ)

/-- What `make_single_packet` raises. -/
inductive PacketError
  | index_error (index : Nat)
  | key_error (key : Variable)
  | conversion (error : ConversionError)

/-- `packet[index]`. -/
def Row.cell (packet : Row) (index : Nat) : Except PacketError (Option ℚ) :=
  match packet[index]? with
  | some value => .ok value
  | none => .error (.index_error index)

/-- `convert_unit` of a cell: it raises whatever the number is. -/
def convertCell (value : Option ℚ) (from_unit to_unit : UnitName) :
    Except PacketError (Option ℚ) :=
  match convertUnit (value.getD 0) from_unit to_unit with
  | .error e => .error (.conversion e)
  | .ok converted => .ok (value.map fun _ => converted)

/-- `denan_value`. -/
def denanValue (value : Option ℚ) : ℚ := value.getD 0

/-- One value of a packet. -/
def Row.value (packet : Row) (mapper : MappingDef) : Except PacketError ℚ := do
  let cell ← packet.cell mapper.header_index
  let converted ← convertCell cell mapper.original_unit mapper.destination_unit
  return denanValue converted

/-- `packet[allMappings[key].header_index]`. -/
def Row.mapped (packet : Row) (allMappings : Mapping) (key : Variable) :
    Except PacketError (Option ℚ) :=
  match allMappings key with
  | some mapper => packet.cell mapper.header_index
  | none => .error (.key_error key)

/-- `evaluate_xyz`. -/
def evaluateXyz (_lat _long _altitude _azimuth _inclination : Option ℚ) : ℚ × ℚ × ℚ := (0, 1, 2)

/-- `make_single_packet`. -/
def makeSinglePacket (packet : Row) (structFieldMappings : List MappingDef)
    (allMappings : Mapping) (config : ConverterConfig) : Except PacketError (List ℚ) := do
  let direct ← structFieldMappings.mapM packet.value
  if config.magnetometer then
    let lat ← packet.mapped allMappings LATITUDE
    let long ← packet.mapped allMappings LONGITUDE
    let alt ← packet.mapped allMappings ALTITUDE
    let azimuth ← packet.mapped allMappings VERT_ORIENTATION
    let inclination ← packet.mapped allMappings LAT_ORIENTATION
    let magn := evaluateXyz lat long alt azimuth inclination
    return direct ++ [magn.1, magn.2.1, magn.2.2]
  else return direct

/-- The columns of a packet, in order. -/
def mappingDefs (mapping : Mapping) : List MappingDef := structOrder.filterMap mapping

/-- `collect_data`. -/
def collectData (data : List Row) (mapping : Mapping) (config : ConverterConfig) :
    Except PacketError (List (List ℚ)) :=
  data.mapM fun packet => makeSinglePacket packet (mappingDefs mapping) mapping config

/-! ## What is printed -/

/-- The nearest number, and of two the even one. -/
def roundHalfEven (x : ℚ) : Int :=
  if x - ⌊x⌋ < 1 / 2 then ⌊x⌋
  else if 1 / 2 < x - ⌊x⌋ then ⌊x⌋ + 1
  else if ⌊x⌋ % 2 = 0 then ⌊x⌋
  else ⌊x⌋ + 1

/-- A number as `format_packet` prints it, with `4.4f`. -/
def formatted (v : ℚ) : ℚ := roundHalfEven (v * 10000) / 10000

/-! ## The table in C -/

/-- The members of `struct or_data_t`. -/
inductive Member
  | time_s | vert_accel | lat_accel | roll | pitch | yaw | temperature | pressure | latitude
  | longitude | velocity | altitude | bearing | magn_x | magn_y | magn_z
  deriving DecidableEq

/-- The members for what the export has. -/
def exportedMembers (config : ConverterConfig) : List Member :=
  [.time_s] ++
    (if config.imu then [.vert_accel, .lat_accel, .roll, .pitch, .yaw] else []) ++
    (if config.barometer then [.temperature, .pressure] else []) ++
    (if config.gnss then [.latitude, .longitude, .velocity, .altitude, .bearing] else [])

/-- The members that the options leave in the struct: the flags of the converter are the options. -/
def orMembers (config : ConverterConfig) : List Member :=
  exportedMembers config ++ if config.magnetometer then [.magn_x, .magn_y, .magn_z] else []

/-- The variable that a member is for. -/
def Member.var : Member → Variable
  | .time_s => TIME
  | .vert_accel => VERT_ACCEL
  | .lat_accel => LAT_ACCEL
  | .roll => ROLL_RATE
  | .pitch => PITCH_RATE
  | .yaw => YAW_RATE
  | .temperature => TEMP
  | .pressure => PRESSURE
  | .latitude => LATITUDE
  | .longitude => LONGITUDE
  | .velocity => VELOCITY
  | .altitude => ALTITUDE
  | .bearing => LATERAL_DIRECTION
  | .magn_x => MAGNX
  | .magn_y => MAGNY
  | .magn_z => MAGNZ

/-- A member of packet `k`, as the initialiser leaves it. -/
def memberColumn (config : ConverterConfig) (data : List (List ℚ)) (member : Member) (k : Nat) :
    ℚ :=
  ((((orMembers config).zip (data.getD k [])).lookup member).map formatted).getD 0

/-! ## The columns that are found -/

/-- The variables of `get_wanted_vars`. -/
def wantedVars (config : ConverterConfig) : List Variable :=
  (getWantedVars config).flatMap Prod.fst

section Mapping
variable {csv_header : List (Option Variable × UnitName)}

/-- One variable: it is found, or complained about. -/
theorem validateVar_spec (csv_header : List (Option Variable × UnitName)) (reason : String)
    (acc : Mapping × List (Variable × String)) (var : Variable) :
    ((validateVar csv_header reason acc var).2 = [] →
      acc.2 = [] ∧ ((validateVar csv_header reason acc var).1 var).isSome) ∧
    ∀ v, v ≠ var → (validateVar csv_header reason acc var).1 v = acc.1 v := by
  unfold validateVar
  split
  · refine ⟨fun h => ⟨h, ?_⟩, fun v hv => Function.update_of_ne hv ..⟩
    simp only [Function.update_self, Option.isSome_some]
  · exact ⟨fun h => absurd h (by simp), fun v _ => rfl⟩

/-- All variables: without a complaint those that are mapped are the ones that are wanted. -/
theorem validate_fold (csv_header : List (Option Variable × UnitName))
    {wanted : List (Variable × String)} {acc r : Mapping × List (Variable × String)}
    (hr : wanted.foldl (fun acc w => validateVar csv_header w.2 acc w.1) acc = r) (hok : r.2 = []) :
    acc.2 = [] ∧ ∀ v, (r.1 v).isSome ↔ (acc.1 v).isSome ∨ v ∈ wanted.map Prod.fst := by
  induction wanted generalizing acc with
  | nil =>
    cases hr
    exact ⟨hok, fun v => by simp⟩
  | cons w wanted ih =>
    obtain ⟨hnone, hsome⟩ := ih hr
    obtain ⟨hself, hother⟩ := validateVar_spec csv_header w.2 acc w.1
    obtain ⟨hacc, hfound⟩ := hself hnone
    refine ⟨hacc, fun v => ?_⟩
    rw [hsome, List.map_cons, List.mem_cons]
    by_cases hv : v = w.1
    · subst hv
      simp [hfound]
    · rw [hother v hv]
      simp [hv]

/-- **The variables that are mapped** are those that are wanted. -/
theorem validateVars_isSome {config : ConverterConfig} {mapping : Mapping}
    (h : validateVars csv_header (getWantedVars config) = .ok mapping) (v : Variable) :
    (mapping v).isSome ↔ v ∈ wantedVars config := by
  have hflat : (getWantedVars config).foldl
      (fun acc w => w.1.foldl (validateVar csv_header w.2) acc) ((fun _ => none : Mapping), []) =
      ((getWantedVars config).flatMap fun w => w.1.map fun v => (v, w.2)).foldl
        (fun acc w => validateVar csv_header w.2 acc w.1) ((fun _ => none : Mapping), []) := by
    rw [List.foldl_flatMap]
    congr 1
    funext acc w
    rw [List.foldl_map]
  unfold validateVars at h
  simp only [hflat] at h
  split at h
  · cases h
  · rename_i hlength
    cases h
    obtain ⟨-, hsome⟩ := validate_fold csv_header rfl
      (List.length_eq_zero_iff.mp (not_not.mp hlength))
    rw [hsome v]
    simp [wantedVars, List.mem_flatMap, List.map_flatMap]

/-- The columns of a packet are those of the variables that are mapped. -/
theorem forall₂_filterMap (mapping : Mapping) (l : List Variable) :
    List.Forall₂ (fun v mapper => mapping v = some mapper)
      (l.filter fun v => (mapping v).isSome) (l.filterMap mapping) := by
  induction l with
  | nil => exact .nil
  | cons v l ih =>
    cases hv : mapping v with
    | none => simpa [hv] using ih
    | some mapper => simpa [hv] using ih

end Mapping

/-! ## What is in a packet -/

/-- **A member's own value**: that of its column, or of the magnetic field. -/
inductive Intended (mapping : Mapping) (row : Row) : Member → ℚ → Prop
  | exported {member : Member} {mapper : MappingDef} {v : ℚ}
      (hmapping : mapping member.var = some mapper)
      (hvalue : row.value mapper = .ok v) : Intended mapping row member v
  | magn_x : Intended mapping row .magn_x 0
  | magn_y : Intended mapping row .magn_y 1
  | magn_z : Intended mapping row .magn_z 2

/-- The columns of a packet are the members of the struct, unless the magnetometer alone wants the
place of the rocket. -/
theorem columns_eq {config : ConverterConfig}
    (h : config.magnetometer = true → config.gnss = true) :
    (structOrder.filter fun v => v ∈ wantedVars config) =
      (exportedMembers config).map Member.var := by
  obtain ⟨imu, barometer, gnss, magnetometer⟩ := config
  revert h
  cases imu <;> cases barometer <;> cases gnss <;> cases magnetometer <;> decide

/-- Where it does, there are three columns too many. -/
theorem columns_length {config : ConverterConfig} (hm : config.magnetometer = true)
    (hg : config.gnss = false) :
    (structOrder.filter fun v => v ∈ wantedVars config).length =
      (exportedMembers config).length + 3 := by
  obtain ⟨imu, barometer, gnss, magnetometer⟩ := config
  cases hm
  cases hg
  cases imu <;> cases barometer <;> decide

section Packets
variable {csv_header : List (Option Variable × UnitName)} {config : ConverterConfig}
  {mapping : Mapping} {row : Row} {packet : List ℚ}

/-- **What a packet is**: the values of its columns, and the magnetic field. -/
theorem makeSinglePacket_eq
    (h : makeSinglePacket row (mappingDefs mapping) mapping config = .ok packet) :
    ∃ direct, List.Forall₂ (fun mapper v => row.value mapper = .ok v) (mappingDefs mapping) direct ∧
      packet = direct ++ if config.magnetometer then [0, 1, 2] else [] := by
  unfold makeSinglePacket at h
  obtain ⟨direct, hdirect, h⟩ := bind_ok.mp h
  refine ⟨direct, mapM_ok_iff.mp hdirect, ?_⟩
  by_cases hm : config.magnetometer = true
  · rw [if_pos hm] at h ⊢
    obtain ⟨lat, -, h⟩ := bind_ok.mp h
    obtain ⟨long, -, h⟩ := bind_ok.mp h
    obtain ⟨alt, -, h⟩ := bind_ok.mp h
    obtain ⟨azimuth, -, h⟩ := bind_ok.mp h
    obtain ⟨inclination, -, h⟩ := bind_ok.mp h
    cases h
    rfl
  · rw [if_neg hm] at h ⊢
    cases h
    exact (List.append_nil _).symm

/-- Two lists that go with a third one go together. -/
theorem forall₂_comp {α β γ : Type} {R : α → β → Prop} {S : β → γ → Prop} {T : α → γ → Prop}
    (hT : ∀ a b c, R a b → S b c → T a c) {l : List α} {l' : List β} {l'' : List γ}
    (hR : List.Forall₂ R l l') (hS : List.Forall₂ S l' l'') : List.Forall₂ T l l'' := by
  induction hR generalizing l'' with
  | nil =>
    cases hS
    exact .nil
  | cons hab _ ih =>
    cases hS with
    | cons hbc hS => exact .cons (hT _ _ _ hab hbc) (ih hS)

/-- The columns of a packet, by their variables. -/
theorem mapped_columns
    (hmapping : validateVars csv_header (getWantedVars config) = .ok mapping) :
    List.Forall₂ (fun v mapper => mapping v = some mapper)
      (structOrder.filter fun v => v ∈ wantedVars config) (mappingDefs mapping) := by
  have hfilter : (structOrder.filter fun v => (mapping v).isSome) =
      structOrder.filter fun v => v ∈ wantedVars config := by
    refine List.filter_congr fun v _ => ?_
    rw [Bool.eq_iff_iff, decide_eq_true_iff]
    exact validateVars_isSome hmapping v
  rw [← hfilter]
  exact forall₂_filterMap mapping structOrder

/-- Where the GNSS is there with the magnetometer, every member gets its own value. -/
theorem packet_aligned
    (hmapping : validateVars csv_header (getWantedVars config) = .ok mapping)
    (hpacket : makeSinglePacket row (mappingDefs mapping) mapping config = .ok packet)
    (h : config.magnetometer = true → config.gnss = true) :
    List.Forall₂ (Intended mapping row) (orMembers config) packet := by
  obtain ⟨direct, hdirect, rfl⟩ := makeSinglePacket_eq hpacket
  have hcolumns := mapped_columns hmapping
  rw [columns_eq h] at hcolumns
  refine List.rel_append ?_ ?_
  · exact forall₂_comp (fun _ _ _ => .exported) (List.forall₂_map_left_iff.mp hcolumns) hdirect
  · split
    · exact .cons .magn_x (.cons .magn_y (.cons .magn_z .nil))
    · exact .nil

/-- **Every member gets its own value iff** the GNSS is there where the magnetometer is: the
converter writes the columns that only the magnetometer wants, and the struct has no members for
them. -/
theorem packet_aligned_iff
    (hmapping : validateVars csv_header (getWantedVars config) = .ok mapping)
    (hpacket : makeSinglePacket row (mappingDefs mapping) mapping config = .ok packet) :
    List.Forall₂ (Intended mapping row) (orMembers config) packet ↔
      (config.magnetometer = true → config.gnss = true) := by
  refine ⟨fun h hm => ?_, packet_aligned hmapping hpacket⟩
  obtain ⟨direct, hdirect, rfl⟩ := makeSinglePacket_eq hpacket
  have hcolumns := mapped_columns hmapping
  by_contra hg
  have hlength := columns_length hm (Bool.not_eq_true _ ▸ hg)
  have hmembers := h.length_eq
  rw [hcolumns.length_eq, hdirect.length_eq] at hlength
  simp only [orMembers, hm, if_true, List.length_append, hlength] at hmembers
  simp at hmembers

end Packets

/-! ## What is printed -/

theorem roundHalfEven_le (x : ℚ) : |(roundHalfEven x : ℚ) - x| ≤ 1 / 2 := by
  have hlo := Int.floor_le x
  have hhi := Int.lt_floor_add_one x
  unfold roundHalfEven
  rw [abs_le]
  split
  · constructor <;> linarith
  · split
    · push_cast
      constructor <;> linarith
    · split
      · constructor <;> linarith
      · push_cast
        constructor <;> linarith

/-- Numbers that are more than one apart are not rounded to one. -/
theorem roundHalfEven_lt {x y : ℚ} (h : x + 1 < y) : roundHalfEven x < roundHalfEven y := by
  have hx := abs_le.mp (roundHalfEven_le x)
  have hy := abs_le.mp (roundHalfEven_le y)
  have hlt : (roundHalfEven x : ℚ) < roundHalfEven y := by linarith [hx.2, hy.1]
  exact_mod_cast hlt

/-- **Printing moves a number by at most half of its last digit.** -/
theorem formatted_le (v : ℚ) : |formatted v - v| ≤ 1 / 20000 := by
  have h := abs_le.mp (roundHalfEven_le (v * 10000))
  unfold formatted
  rw [abs_le]
  constructor <;> linarith [h.1, h.2]

/-- **Times that are apart stay apart.** -/
theorem formatted_lt {x y : ℚ} (h : x + 1 / 10000 < y) : formatted x < formatted y := by
  have hround := roundHalfEven_lt (x := x * 10000) (y := y * 10000) (by linarith)
  unfold formatted
  exact div_lt_div_of_pos_right (by exact_mod_cast hround) (by norm_num)

/-! ## From the export to the sensors -/

/-- The times of the table that is written. -/
def timeColumn (config : ConverterConfig) (data : List (List ℚ)) : Nat → ℚ :=
  memberColumn config data .time_s

/-- The times of `data` are in order, as they are printed. -/
def InOrder (config : ConverterConfig) (data : List (List ℚ)) : Prop :=
  ∀ i j, i < j → j < data.length → timeColumn config data i < timeColumn config data j

theorem InOrder.le {config : ConverterConfig} {data : List (List ℚ)} (h : InOrder config data)
    (i j : Nat) (hij : i ≤ j) (hj : j < data.length) :
    timeColumn config data i ≤ timeColumn config data j := by
  rcases hij.eq_or_lt with rfl | hlt
  · exact le_rfl
  · exact (h i j hlt hj).le

/-- `or_packets` of the file that `make_c_file` writes. -/
def generated (config : ConverterConfig) (data : List (List ℚ)) (hsize : 2 ≤ data.length)
    (horder : InOrder config data) : OrPackets where
  table :=
    { or_packets_size := data.length
      time_s := timeColumn config data
      two_le := hsize
      time_mono := horder.le }
  vert_accel := memberColumn config data .vert_accel
  lat_accel := memberColumn config data .lat_accel
  roll := memberColumn config data .roll
  pitch := memberColumn config data .pitch
  yaw := memberColumn config data .yaw
  temperature := memberColumn config data .temperature
  pressure := memberColumn config data .pressure
  magn_x := memberColumn config data .magn_x
  magn_y := memberColumn config data .magn_y
  magn_z := memberColumn config data .magn_z

/-- What goes with a key is found under it. -/
theorem lookup_zip {R : Member → ℚ → Prop} {members : List Member} {values : List ℚ}
    (h : List.Forall₂ R members values) {member : Member} (hmem : member ∈ members) :
    ∃ v, (members.zip values).lookup member = some v ∧ R member v := by
  induction h with
  | nil => exact absurd hmem List.not_mem_nil
  | @cons first v members values hfirst _ ih =>
    rw [List.zip_cons_cons]
    by_cases heq : member = first
    · subst heq
      exact ⟨v, List.lookup_cons_self, hfirst⟩
    · obtain ⟨w, hw, hR⟩ := ih ((List.mem_cons.mp hmem).resolve_left heq)
      refine ⟨w, ?_, hR⟩
      rw [List.lookup_cons, beq_false_of_ne heq]
      exact hw

section Export
variable {csv_header : List (Option Variable × UnitName)} {config : ConverterConfig}
  {mapping : Mapping} {rows : List Row} {data : List (List ℚ)}

/-- **Every member of every packet** is its own value, as it is printed. -/
theorem column_intended
    (hmapping : validateVars csv_header (getWantedVars config) = .ok mapping)
    (hdata : collectData rows mapping config = .ok data)
    (hgnss : config.magnetometer = true → config.gnss = true) {k : Nat} {row : Row}
    (hrow : rows[k]? = some row) {member : Member} (hmember : member ∈ orMembers config) :
    ∃ v, Intended mapping row member v ∧ memberColumn config data member k = formatted v := by
  have hall := mapM_ok_iff.mp hdata
  obtain ⟨hlt, rfl⟩ := List.getElem?_eq_some_iff.mp hrow
  have hlt' : k < data.length := hall.length_eq ▸ hlt
  have hpacket := hall.get hlt hlt'
  obtain ⟨v, hlookup, hv⟩ :=
    lookup_zip (packet_aligned hmapping hpacket hgnss) hmember
  refine ⟨v, hv, ?_⟩
  have hget : data.getD k [] = data.get ⟨k, hlt'⟩ := by
    rw [List.getD_eq_getElem?_getD, List.getElem?_eq_getElem hlt']
    rfl
  unfold memberColumn
  rw [hget, hlookup]
  rfl

/-- **From the export to the sensors**: the rows of the export, more than a tenth of a millisecond
apart, are the points of the flight that the sensors show, up to the last digit that is printed. -/
theorem csv_played (hmapping : validateVars csv_header (getWantedVars config) = .ok mapping)
    (hdata : collectData rows mapping config = .ok data)
    (hgnss : config.magnetometer = true → config.gnss = true) (hsize : 2 ≤ rows.length)
    (htimes : ∀ (i j : Nat) row row' t t', i < j → rows[i]? = some row → rows[j]? = some row' →
      Intended mapping row .time_s t → Intended mapping row' .time_s t' → t + 1 / 10000 < t') :
    (∀ k row, rows[k]? = some row → ∀ member ∈ orMembers config,
      ∃ v, Intended mapping row member v ∧ |memberColumn config data member k - v| ≤ 1 / 20000) ∧
    ∃ hsize horder, (generated config data hsize horder).PlayBack := by
  have hlength : rows.length = data.length := (mapM_ok_iff.mp hdata).length_eq
  refine ⟨fun k row hrow member hmember => ?_, ?_⟩
  · obtain ⟨v, hv, hcolumn⟩ := column_intended hmapping hdata hgnss hrow hmember
    rw [hcolumn]
    exact ⟨v, hv, formatted_le v⟩
  · have htime : Member.time_s ∈ orMembers config := by simp [orMembers, exportedMembers]
    have horder : InOrder config data := by
      intro i j hij hj
      have hrow : ∀ k, k < data.length → ∃ row, rows[k]? = some row := fun k hk =>
        ⟨_, List.getElem?_eq_getElem (hlength ▸ hk)⟩
      obtain ⟨row, hi⟩ := hrow i (hij.trans hj)
      obtain ⟨row', hj⟩ := hrow j hj
      obtain ⟨t, ht, hti⟩ := column_intended hmapping hdata hgnss hi htime
      obtain ⟨t', ht', htj⟩ := column_intended hmapping hdata hgnss hj htime
      unfold timeColumn
      rw [hti, htj]
      exact formatted_lt (htimes i j row row' t t' hij hi hj ht ht')
    have hsize' : 2 ≤ data.length := hlength ▸ hsize
    have hfirst : (generated config data hsize' horder).table.time_s 0 <
        (generated config data hsize' horder).table.time_s 1 := horder 0 1 Nat.one_pos hsize'
    refine ⟨hsize', horder, fun _ barom magn imu rand_state l => ?_⟩
    exact ⟨barom_played hfirst barom rand_state l, magn_played hfirst magn rand_state l,
      imu_played hfirst imu rand_state l⟩

end Export

/-! ## An export -/

/-- All columns, in the units that are wanted. -/
def exportHeader : List (Option Variable × UnitName) :=
  [TIME, VERT_ACCEL, LAT_ACCEL, ROLL_RATE, PITCH_RATE, YAW_RATE, TEMP, PRESSURE, LATITUDE,
    LONGITUDE, VELOCITY, ALTITUDE, LATERAL_DIRECTION, VERT_ORIENTATION, LAT_ORIENTATION].map
    fun v => (some v, v.desiredUnit)

/-- At second `k` every column is `k`. -/
def exportRow (k : ℚ) : Row := List.replicate 15 (some k)

def allSensors : ConverterConfig :=
  { imu := true, barometer := true, gnss := true, magnetometer := true }

def exportMapping : Mapping :=
  (validateVars exportHeader (getWantedVars allSensors)).toOption.getD fun _ => none

theorem exportMapping_eq :
    validateVars exportHeader (getWantedVars allSensors) = .ok exportMapping := rfl

/-- The packet of a row. -/
def exportPacket (k : ℚ) : List ℚ := List.replicate 13 k ++ [0, 1, 2]

theorem exportPacket_eq (k : ℚ) :
    makeSinglePacket (exportRow k) (mappingDefs exportMapping) exportMapping allSensors =
      .ok (exportPacket k) := rfl

theorem packet_aligned_export :
    List.Forall₂ (Intended exportMapping (exportRow 1)) (orMembers allSensors) (exportPacket 1) ↔
      (allSensors.magnetometer = true → allSensors.gnss = true) :=
  packet_aligned_iff exportMapping_eq (exportPacket_eq 1)

theorem exportRow_time {k t : ℚ} (h : Intended exportMapping (exportRow k) .time_s t) : t = k := by
  have hmapper : exportMapping Member.time_s.var =
      some { header_index := 0, original_unit := s, destination_unit := s } := rfl
  have hvalue : (exportRow k).value
      { header_index := 0, original_unit := s, destination_unit := s } = .ok k := rfl
  cases h with
  | exported hmapping hv =>
    cases hmapper.symm.trans hmapping
    exact (Except.ok.inj (hvalue.symm.trans hv)).symm

theorem csv_played_export :
    (∀ k row, [exportRow 0, exportRow 1][k]? = some row → ∀ member ∈ orMembers allSensors,
      ∃ v, Intended exportMapping row member v ∧
        |memberColumn allSensors [exportPacket 0, exportPacket 1] member k - v| ≤ 1 / 20000) ∧
    ∃ hsize horder,
      (generated allSensors [exportPacket 0, exportPacket 1] hsize horder).PlayBack := by
  refine csv_played exportMapping_eq rfl (fun _ => rfl) (by decide) ?_
  intro i j row row' t t' hij hi hj ht ht'
  have hj1 : j < 2 := (List.getElem?_eq_some_iff.mp hj).1
  obtain ⟨rfl, rfl⟩ : i = 0 ∧ j = 1 := by omega
  cases hi
  cases hj
  rw [exportRow_time ht, exportRow_time ht']
  norm_num

end Backplane.OpenRocket
