import Mathlib.Algebra.Order.Ring.Rat
import Mathlib.Tactic.Linarith

/-!
# The axes of the simulated IMU

Model of `map_or_to_sensor` of `drivers/sensor/openrocket/imu/openrocket_imu.c`: which rate a gyro
axis shows, and with which sign. `map_gx`, `map_gy` and `map_gz` are one function of the axis, and
so are `map_ax`, `map_ay` and `map_az`. In the three of the gyro the yaw rate takes the flag of the
pitch axis.

Results:
* `gyro_axis`: the rate and the sign on each configured axis.
* `obeys_iff`, `flipsOnly_iff`: when an axis obeys its own flag.
* `gyro_iff`: both.
-/

namespace Backplane.OpenRocket

/-- `enum axis`. -/
inductive Axis
  | OPENROCKET_AXIS_X | OPENROCKET_AXIS_Y | OPENROCKET_AXIS_Z
  deriving DecidableEq

/-- `struct or_imu_config`, as far as the axes go. -/
structure OrImuConfig where
  vertical_axis : Axis
  vertical_axis_invert : Bool
  lateral_axis : Axis
  roll_axis : Axis
  pitch_axis : Axis
  yaw_axis : Axis
  roll_axis_invert : Bool
  pitch_axis_invert : Bool
  yaw_axis_invert : Bool

/-- The members of `struct or_data_t` for the IMU. -/
structure OrData where
  vert_accel : ℚ
  lat_accel : ℚ
  roll : ℚ
  pitch : ℚ
  yaw : ℚ

/-- The measurements of `struct or_imu_data`. -/
structure OrImuData where
  accel_x : ℚ
  accel_y : ℚ
  accel_z : ℚ
  gyro_x : ℚ
  gyro_y : ℚ
  gyro_z : ℚ

/-- `INVERT`. -/
def INVERT (val : ℚ) (do_invert : Bool) : ℚ := if do_invert then -val else val

namespace OrImuConfig

/-- `map_ax` and its siblings, for their axis. -/
def mapAccel (cfg : OrImuConfig) (axis : Axis) (vert lat : ℚ) : ℚ :=
  if cfg.vertical_axis = axis then if cfg.vertical_axis_invert then vert else -vert
  else if cfg.lateral_axis = axis then lat
  else 0

def mapAx (vert lat : ℚ) (cfg : OrImuConfig) : ℚ := cfg.mapAccel .OPENROCKET_AXIS_X vert lat
def mapAy (vert lat : ℚ) (cfg : OrImuConfig) : ℚ := cfg.mapAccel .OPENROCKET_AXIS_Y vert lat
def mapAz (vert lat : ℚ) (cfg : OrImuConfig) : ℚ := cfg.mapAccel .OPENROCKET_AXIS_Z vert lat

/-- `map_gx` and its siblings, for their axis. -/
def mapGyro (cfg : OrImuConfig) (axis : Axis) (roll pitch yaw : ℚ) : ℚ :=
  if cfg.roll_axis = axis then INVERT roll cfg.roll_axis_invert
  else if cfg.pitch_axis = axis then INVERT pitch cfg.pitch_axis_invert
  -- the flag of the pitch axis again
  else if cfg.yaw_axis = axis then INVERT yaw cfg.pitch_axis_invert
  else 0

def mapGx (roll pitch yaw : ℚ) (cfg : OrImuConfig) : ℚ :=
  cfg.mapGyro .OPENROCKET_AXIS_X roll pitch yaw
def mapGy (roll pitch yaw : ℚ) (cfg : OrImuConfig) : ℚ :=
  cfg.mapGyro .OPENROCKET_AXIS_Y roll pitch yaw
def mapGz (roll pitch yaw : ℚ) (cfg : OrImuConfig) : ℚ :=
  cfg.mapGyro .OPENROCKET_AXIS_Z roll pitch yaw

/-- `map_or_to_sensor`. -/
def mapOrToSensor (input : OrData) (cfg : OrImuConfig) : OrImuData where
  accel_x := mapAx input.vert_accel input.lat_accel cfg
  accel_y := mapAy input.vert_accel input.lat_accel cfg
  accel_z := mapAz input.vert_accel input.lat_accel cfg
  gyro_x := mapGx input.roll input.pitch input.yaw cfg
  gyro_y := mapGy input.roll input.pitch input.yaw cfg
  gyro_z := mapGz input.roll input.pitch input.yaw cfg

end OrImuConfig

/-! ## Rates and axes -/

inductive Rate
  | roll | pitch | yaw
  deriving DecidableEq

def OrData.rate (input : OrData) : Rate → ℚ
  | .roll => input.roll
  | .pitch => input.pitch
  | .yaw => input.yaw

/-- The output of the gyro on an axis. -/
def OrImuData.gyro (output : OrImuData) : Axis → ℚ
  | .OPENROCKET_AXIS_X => output.gyro_x
  | .OPENROCKET_AXIS_Y => output.gyro_y
  | .OPENROCKET_AXIS_Z => output.gyro_z

/-- The output of the accelerometer on an axis. -/
def OrImuData.accel (output : OrImuData) : Axis → ℚ
  | .OPENROCKET_AXIS_X => output.accel_x
  | .OPENROCKET_AXIS_Y => output.accel_y
  | .OPENROCKET_AXIS_Z => output.accel_z

namespace OrImuConfig

def rateAxis (cfg : OrImuConfig) : Rate → Axis
  | .roll => cfg.roll_axis
  | .pitch => cfg.pitch_axis
  | .yaw => cfg.yaw_axis

def rateInvert (cfg : OrImuConfig) : Rate → Bool
  | .roll => cfg.roll_axis_invert
  | .pitch => cfg.pitch_axis_invert
  | .yaw => cfg.yaw_axis_invert

/-- The configuration with one flag the other way. -/
def flip (cfg : OrImuConfig) : Rate → OrImuConfig
  | .roll => { cfg with roll_axis_invert := !cfg.roll_axis_invert }
  | .pitch => { cfg with pitch_axis_invert := !cfg.pitch_axis_invert }
  | .yaw => { cfg with yaw_axis_invert := !cfg.yaw_axis_invert }

/-- The axes of the rates are pairwise distinct. -/
structure Distinct (cfg : OrImuConfig) : Prop where
  roll_pitch : cfg.roll_axis ≠ cfg.pitch_axis
  roll_yaw : cfg.roll_axis ≠ cfg.yaw_axis
  pitch_yaw : cfg.pitch_axis ≠ cfg.yaw_axis

/-- **Every axis obeys its own configuration.** -/
def Obeys (cfg : OrImuConfig) (input : OrData) : Prop :=
  ∀ r, (mapOrToSensor input cfg).gyro (cfg.rateAxis r) =
    INVERT (input.rate r) (cfg.rateInvert r)

/-- **One flag the other way** changes the sign of its axis and nothing else. -/
def FlipsOnly (cfg : OrImuConfig) (input : OrData) (r : Rate) : Prop :=
  (∀ axis, (mapOrToSensor input (cfg.flip r)).gyro axis =
    if cfg.rateAxis r = axis then -(mapOrToSensor input cfg).gyro axis
    else (mapOrToSensor input cfg).gyro axis) ∧
  ∀ axis, (mapOrToSensor input (cfg.flip r)).accel axis =
    (mapOrToSensor input cfg).accel axis

end OrImuConfig

theorem INVERT_eq_iff {val : ℚ} {a b : Bool} : INVERT val a = INVERT val b ↔ a = b ∨ val = 0 := by
  cases a <;> cases b <;> simp [INVERT, self_eq_neg, neg_eq_self]

theorem INVERT_not (val : ℚ) (do_invert : Bool) :
    INVERT val (!do_invert) = -INVERT val do_invert := by
  cases do_invert <;> simp [INVERT]

namespace OrImuConfig

variable {cfg : OrImuConfig}

/-- The flag that the code uses for a rate. -/
def usedInvert (cfg : OrImuConfig) : Rate → Bool
  | .roll => cfg.roll_axis_invert
  | .pitch => cfg.pitch_axis_invert
  | .yaw => cfg.pitch_axis_invert

/-- **The rate and the sign** on each configured axis. -/
theorem gyro_axis (h : cfg.Distinct) (input : OrData) (r : Rate) :
    (mapOrToSensor input cfg).gyro (cfg.rateAxis r) =
      INVERT (input.rate r) (cfg.usedInvert r) := by
  have hgyro : ∀ axis, (mapOrToSensor input cfg).gyro axis =
      cfg.mapGyro axis input.roll input.pitch input.yaw := fun axis => by cases axis <;> rfl
  rw [hgyro]
  cases r with
  | roll => exact if_pos rfl
  | pitch => exact (if_neg h.roll_pitch).trans (if_pos rfl)
  | yaw => exact (if_neg h.roll_yaw).trans ((if_neg h.pitch_yaw).trans (if_pos rfl))

/-- Three distinct axes are all there are. -/
theorem exists_rate (h : cfg.Distinct) (axis : Axis) : ∃ r, cfg.rateAxis r = axis := by
  by_contra hnone
  have hroll : cfg.roll_axis ≠ axis := fun heq => hnone ⟨.roll, heq⟩
  have hpitch : cfg.pitch_axis ≠ axis := fun heq => hnone ⟨.pitch, heq⟩
  have hyaw : cfg.yaw_axis ≠ axis := fun heq => hnone ⟨.yaw, heq⟩
  obtain ⟨hrp, hry, hpy⟩ := h
  generalize cfg.roll_axis = a at *
  generalize cfg.pitch_axis = b at *
  generalize cfg.yaw_axis = c at *
  cases axis <;> cases a <;> cases b <;> cases c <;> simp_all

theorem rateAxis_inj (h : cfg.Distinct) {r r' : Rate} :
    cfg.rateAxis r = cfg.rateAxis r' ↔ r = r' := by
  obtain ⟨hrp, hry, hpy⟩ := h
  cases r <;> cases r' <;> simp [rateAxis, hrp, hry, hpy, hrp.symm, hry.symm, hpy.symm]

/-- **An axis obeys its own flag** if the yaw axis has that of the pitch axis, or does not turn. -/
theorem obeys_iff (h : cfg.Distinct) (input : OrData) :
    cfg.Obeys input ↔ cfg.pitch_axis_invert = cfg.yaw_axis_invert ∨ input.yaw = 0 := by
  unfold Obeys
  simp only [gyro_axis h, INVERT_eq_iff]
  constructor
  · exact fun hall => hall .yaw
  · intro hyaw r
    cases r with
    | roll => exact .inl rfl
    | pitch => exact .inl rfl
    | yaw => exact hyaw

/-- One flag the other way, on the rates alone: the acceleration has flags of its own. -/
theorem flipsOnly_iff_rates (h : cfg.Distinct) (input : OrData) (r : Rate) :
    cfg.FlipsOnly input r ↔ ∀ r', INVERT (input.rate r') ((cfg.flip r).usedInvert r') =
      if r = r' then -INVERT (input.rate r') (cfg.usedInvert r')
      else INVERT (input.rate r') (cfg.usedInvert r') := by
  have hflip : (cfg.flip r).Distinct := by
    cases r <;> exact ⟨h.roll_pitch, h.roll_yaw, h.pitch_yaw⟩
  have haxis : ∀ r', (cfg.flip r).rateAxis r' = cfg.rateAxis r' := fun r' => by
    cases r <;> cases r' <;> rfl
  have haccel : ∀ axis, (mapOrToSensor input (cfg.flip r)).accel axis =
      (mapOrToSensor input cfg).accel axis := fun axis => by
    cases r <;> cases axis <;> rfl
  constructor
  · rintro ⟨hgyro, -⟩ r'
    have heq := hgyro (cfg.rateAxis r')
    rw [← haxis r', gyro_axis hflip, haxis r', gyro_axis h] at heq
    simpa only [rateAxis_inj h] using heq
  · intro hall
    refine ⟨fun axis => ?_, haccel⟩
    obtain ⟨r', rfl⟩ := exists_rate h axis
    rw [← haxis r', gyro_axis hflip, haxis r', gyro_axis h]
    simpa only [rateAxis_inj h] using hall r'

/-- **One flag the other way** changes its axis alone if it is that of the roll axis, or the yaw
axis does not turn. -/
theorem flipsOnly_iff (h : cfg.Distinct) (input : OrData) (r : Rate) :
    cfg.FlipsOnly input r ↔ r = .roll ∨ input.yaw = 0 := by
  have hself : ∀ val a, INVERT val a = -INVERT val a ↔ val = 0 := fun val a => by
    rw [← INVERT_not, INVERT_eq_iff]
    simp
  rw [flipsOnly_iff_rates h]
  cases r with
  | roll =>
    refine iff_of_true (fun r' => ?_) (.inl rfl)
    cases r' with
    | roll => exact INVERT_not _ _
    | pitch => rfl
    | yaw => rfl
  | pitch =>
    constructor
    · exact fun hall => .inr ((hself _ _).mp ((hall .yaw).symm.trans (INVERT_not _ _)))
    · rintro (hroll | hyaw) r'
      · cases hroll
      · cases r' with
        | roll => rfl
        | pitch => exact INVERT_not _ _
        | yaw => exact INVERT_eq_iff.mpr (.inr hyaw)
  | yaw =>
    constructor
    · exact fun hall => .inr ((hself _ _).mp (hall .yaw))
    · rintro (hroll | hyaw) r'
      · cases hroll
      · cases r' with
        | roll => rfl
        | pitch => rfl
        | yaw => exact (hself _ _).mpr hyaw

/-- **The gyro obeys its configuration** where the flags of pitch and yaw are the same, or the yaw
axis does not turn; and the flag of an axis decides over its sign alone for the roll axis, or where
the yaw axis does not turn. -/
theorem gyro_iff (h : cfg.Distinct) (input : OrData) :
    (cfg.Obeys input ↔ cfg.pitch_axis_invert = cfg.yaw_axis_invert ∨ input.yaw = 0) ∧
      ∀ r, cfg.FlipsOnly input r ↔ r = .roll ∨ input.yaw = 0 :=
  ⟨obeys_iff h input, flipsOnly_iff h input⟩

/-- A sensor whose yaw axis alone is inverted. -/
def invertedYaw : OrImuConfig where
  vertical_axis := .OPENROCKET_AXIS_X
  vertical_axis_invert := false
  lateral_axis := .OPENROCKET_AXIS_Y
  roll_axis := .OPENROCKET_AXIS_X
  pitch_axis := .OPENROCKET_AXIS_Y
  yaw_axis := .OPENROCKET_AXIS_Z
  roll_axis_invert := false
  pitch_axis_invert := false
  yaw_axis_invert := true

theorem invertedYaw_distinct : invertedYaw.Distinct := ⟨by decide, by decide, by decide⟩

theorem gyro_iff_rolling :
    invertedYaw.Obeys { vert_accel := 0, lat_accel := 0, roll := 1, pitch := 2, yaw := 0 } :=
  (gyro_iff invertedYaw_distinct _).1.mpr (.inr rfl)

/-- **The flag of the yaw axis** is not looked at. -/
theorem not_obeys_invertedYaw :
    ¬ ∀ (cfg : OrImuConfig) (input : OrData), cfg.Distinct → cfg.Obeys input := by
  intro h
  have hyaw := h invertedYaw { vert_accel := 0, lat_accel := 0, roll := 0, pitch := 0, yaw := 1 }
    invertedYaw_distinct .yaw
  rw [gyro_axis invertedYaw_distinct, INVERT_eq_iff] at hyaw
  rcases hyaw with hflag | hzero
  · cases hflag
  · exact one_ne_zero hzero

end OrImuConfig

end Backplane.OpenRocket
