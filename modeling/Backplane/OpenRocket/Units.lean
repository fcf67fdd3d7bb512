import Backplane.General.Dict
import Mathlib.Algebra.Order.Field.Rat
import Mathlib.Tactic.FieldSimp
import Mathlib.Tactic.Linarith
import Mathlib.Tactic.Ring

/-!
# Unit conversion

Model of `convert_unit` of `drivers/sensor/openrocket/conversion.py` with its tables. The factors
are exact numbers, and the exceptions are errors.

* A base unit is not among its own others, so that nothing converts to it.
* The hand-written conversion from °F to K subtracts what it should add.

Results:
* `convert_scaling`: the conversions within a row of `scaling_conversions`.
* `convert_temperature`: the ones between temperatures.
* `agree_iff`: the triples of units that agree.
* `succeeds_iff`: the conversions that succeed.
-/

namespace Backplane.OpenRocket

open Backplane.Dict

/-- The units of the tables: `m²`, `m/s` and `°` are `m2`, `m_per_s` and `deg`, and so on. -/
inductive UnitName
  | s | min
  | cm | km | ft | yd | mi | nmi
  | m2 | cm2 | mm2 | in2 | ft2
  | m_per_s | km_per_h | ft_per_s | mph | kt
  | m_per_s2 | ft_per_s2 | G
  | deg | rad | arcmin
  | deg_per_s | rad_per_s | r_per_s | rpm
  | g | kg | oz | lb
  | kg_m2 | kg_cm2 | oz_in2 | lb_in2 | lb_ft2
  | N | lbf | kgf
  | mbar | bar | atm | mmHg | inHg | psi | Pa | kPa
  | deg_C | deg_F | K
  | m | gauss
  deriving DecidableEq

/-- What `convert_unit` raises: a `KeyError`, or an exception with its own text. -/
inductive ConversionError
  | key_error (key : UnitName)
  | unsupported (from_unit to_unit : UnitName)

open UnitName

def scalingConversions : List (UnitName × List (UnitName × ℚ)) :=
  [(s, [(min, 1 / 60)]),
    (cm, [(km, 1 / 1000), (ft, 3.28084), (yd, 1.0936133), (mi, 0.000621371192),
      (nmi, 0.000539956803)]),
    (m2, [(cm2, 10000), (mm2, 1000000), (in2, 1550.0031), (ft2, 10.7639104)]),
    (m_per_s, [(km_per_h, 3.6), (ft_per_s, 3.28084), (mph, 2.23694), (kt, 1.94384)]),
    (m_per_s2, [(ft_per_s2, 0.3048), (G, 0.101971621)]),
    (deg, [(rad, 0.0174532925), (arcmin, 60)]),
    (deg_per_s, [(rad_per_s, 0.0174532925), (r_per_s, 1 / 360), (rpm, 1 / 6)]),
    (g, [(kg, 1 / 1000), (oz, 0.0352739619), (lb, 0.00220462)]),
    (kg_m2, [(kg_cm2, 0.0001), (oz_in2, 54674.74983), (lb_in2, 3417.1718982),
      (lb_ft2, 23.730360404)]),
    (N, [(lbf, 1), (kgf, 1)]),
    (mbar, [(bar, 0.001), (atm, 0.000986923), (mmHg, 0.750062), (inHg, 0.02953),
      (psi, 0.0145038), (Pa, 100), (kPa, 0.1)])]

def toBaseUnits : List (UnitName × UnitName) := toBase scalingConversions

def complicatedConversions : List (UnitName × List (UnitName × (ℚ → ℚ))) :=
  [(deg_C, [(deg_F, fun C => C * 9 / 5 + 32), (K, fun C => C + 273.15)]),
    (deg_F, [(deg_C, fun F => (F - 32) * 5 / 9), (K, fun F => (F - 32) * 5 / 9 - 273.15)]),
    (K, [(deg_C, fun K => K - 273.15), (deg_F, fun K => (K - 273.15) * 9 / 5 + 32)])]

def handledByScaling : List UnitName := names scalingConversions

def handledByComplicated : List UnitName := complicatedConversions.map Prod.fst

/-- `dictionary[key]`. -/
def getItem {ν : Type} (dictionary : List (UnitName × ν)) (key : UnitName) :
    Except ConversionError ν :=
  match dictionary.lookup key with
  | some value => .ok value
  | none => .error (.key_error key)

/-- `convert_unit`. -/
def convertUnit (value : ℚ) (from_unit to_unit : UnitName) : Except ConversionError ℚ :=
  if from_unit = to_unit then .ok value
  else if from_unit ∈ handledByComplicated then do
    let converters ← getItem complicatedConversions from_unit
    let converter ← getItem converters to_unit
    .ok (converter value)
  else if from_unit ∈ handledByScaling then
    if from_unit ∉ scalingConversions.map Prod.fst then do
      let base_unit_str ← getItem toBaseUnits from_unit
      let others ← getItem scalingConversions base_unit_str
      let factor ← getItem others from_unit
      let from_to_base := 1 / factor
      let base_to_to ← getItem others to_unit
      .ok (value * from_to_base * base_to_to)
    else do
      let others ← getItem scalingConversions from_unit
      let factor ← getItem others to_unit
      .ok (value * factor)
  else .error (.unsupported from_unit to_unit)

/-- The units that the tables list for one quantity each. -/
def quantities : List (List UnitName) :=
  (scalingConversions.map fun row => row.1 :: row.2.map Prod.fst) ++ [handledByComplicated]

/-- The values of `desired_units`. -/
def desiredUnits : List UnitName :=
  [s, m_per_s2, m_per_s2, rad_per_s, rad_per_s, rad_per_s, deg_C, kPa, deg, deg, m_per_s, m, deg,
    deg, deg, gauss, gauss, gauss]

/-- **The conversions between three units agree** on a value: there and back, and over the third. -/
def Agree (value : ℚ) (u v w : UnitName) : Prop :=
  ∃ there, convertUnit value u w = .ok there ∧ convertUnit there w u = .ok value ∧
    ∃ mid, convertUnit value u v = .ok mid ∧ convertUnit mid v w = .ok there

/-! ## The tables -/

theorem names_nodup : (names scalingConversions).Nodup := by decide

theorem not_complicated : ∀ u ∈ names scalingConversions, u ∉ handledByComplicated := by decide

theorem factor_ne_zero : ∀ row ∈ scalingConversions, ∀ p ∈ row.2, p.2 ≠ 0 := by
  simp only [scalingConversions, List.forall_mem_cons]
  norm_num

/-- The units of a row, with their factors: that of the base is 1. -/
def factors (row : UnitName × List (UnitName × ℚ)) : List (UnitName × ℚ) := (row.1, 1) :: row.2

section
variable {row : UnitName × List (UnitName × ℚ)} (hrow : row ∈ scalingConversions)
include hrow

/-- What is found for another unit of the row. -/
theorem getItem_other {p : UnitName × ℚ} (hp : p ∈ row.2) : getItem row.2 p.1 = .ok p.2 := by
  rw [getItem, (lookup_name names_nodup hrow hp).2.2]

/-- The base is not found among its others. -/
theorem getItem_base : getItem row.2 row.1 = .error (.key_error row.1) := by
  rw [getItem, lookup_own names_nodup hrow]

theorem getItem_row : getItem scalingConversions row.1 = .ok row.2 := by
  rw [getItem, lookup_row names_nodup hrow]

theorem mem_names {p : UnitName × ℚ} (hp : p ∈ factors row) : p.1 ∈ names scalingConversions := by
  refine List.mem_flatMap.mpr ⟨row, hrow, ?_⟩
  rcases List.mem_cons.mp hp with rfl | hp
  · exact List.mem_cons_self
  · exact List.mem_cons_of_mem _ (List.mem_map_of_mem hp)

/-- **Within a row** of `scaling_conversions`, a conversion to another unit than the base is the
product with the two factors. -/
theorem convert_scaling (value : ℚ) {p q : UnitName × ℚ} (hp : p ∈ factors row)
    (hq : q ∈ factors row) :
    convertUnit value p.1 q.1 =
      if p.1 = q.1 then .ok value
      else if q.1 = row.1 then .error (.key_error row.1)
      else .ok (value * (1 / p.2) * q.2) := by
  have hnot := not_complicated p.1 (mem_names hrow hp)
  have hscaling : p.1 ∈ handledByScaling := mem_names hrow hp
  unfold convertUnit
  by_cases heq : p.1 = q.1
  · rw [if_pos heq, if_pos heq]
  · rw [if_neg heq, if_neg heq, if_neg hnot, if_pos hscaling]
    have hto : getItem row.2 q.1 =
        if q.1 = row.1 then .error (.key_error row.1) else .ok q.2 := by
      rcases List.mem_cons.mp hq with rfl | hq
      · rw [if_pos rfl]
        exact getItem_base hrow
      · rw [if_neg ?_]
        · exact getItem_other hrow hq
        · intro hbase
          exact (lookup_name names_nodup hrow hq).1 (hbase ▸ List.mem_map_of_mem hrow)
    rcases List.mem_cons.mp hp with rfl | hp
    · rw [if_neg (not_not.mpr (List.mem_map_of_mem hrow)), getItem_row hrow]
      show (getItem row.2 q.1 >>= fun factor => _) = _
      rw [hto]
      split
      · rfl
      · show Except.ok (value * q.2) = _
        rw [div_one, mul_one]
    · obtain ⟨hname, hbase, -⟩ := lookup_name names_nodup hrow hp
      have hget : getItem toBaseUnits p.1 = .ok row.1 := by
        rw [getItem, toBaseUnits, hbase]
      rw [if_pos hname, hget]
      show (getItem scalingConversions row.1 >>= fun others => _) = _
      rw [getItem_row hrow]
      show (getItem row.2 p.1 >>= fun factor => _) = _
      rw [getItem_other hrow hp]
      show (getItem row.2 q.1 >>= fun base_to_to => _) = _
      rw [hto]
      split
      · rfl
      · rfl

theorem factor_ne_zero' {p : UnitName × ℚ} (hp : p ∈ factors row) : p.2 ≠ 0 := by
  rcases List.mem_cons.mp hp with rfl | hp
  · exact one_ne_zero
  · exact factor_ne_zero row hrow p hp

/-- A unit has one factor. -/
theorem factor_unique {p q : UnitName × ℚ} (hp : p ∈ factors row) (hq : q ∈ factors row)
    (h : p.1 = q.1) : p.2 = q.2 := by
  have hnodup : ((factors row).map Prod.fst).Nodup :=
    (List.nodup_flatMap.mp names_nodup).1 row hrow
  have hlookup := lookup_of_mem hnodup hp
  rw [h, lookup_of_mem hnodup hq] at hlookup
  exact (Option.some.inj hlookup).symm

/-- **A conversion within a row succeeds** unless it goes to the base from another unit. -/
theorem convert_scaling_ok {value there : ℚ} {p q : UnitName × ℚ} (hp : p ∈ factors row)
    (hq : q ∈ factors row) :
    convertUnit value p.1 q.1 = .ok there ↔
      (p.1 = q.1 ∨ q.1 ≠ row.1) ∧ there = value * (1 / p.2) * q.2 := by
  have hne := factor_ne_zero' hrow hp
  rw [convert_scaling hrow value hp hq]
  by_cases heq : p.1 = q.1
  · have hsame : value * (1 / p.2) * q.2 = value := by
      rw [← factor_unique hrow hp hq heq]
      field_simp
    rw [if_pos heq, hsame, Except.ok.injEq]
    exact ⟨fun h => ⟨.inl heq, h.symm⟩, fun h => h.2.symm⟩
  · rw [if_neg heq]
    by_cases hbase : q.1 = row.1
    · rw [if_pos hbase]
      exact ⟨fun h => (nomatch h), fun h => absurd hbase (h.1.resolve_left heq)⟩
    · rw [if_neg hbase, Except.ok.injEq]
      exact ⟨fun h => ⟨.inr hbase, h.symm⟩, fun h => h.2.symm⟩

/-- **Within a row** three units agree if they are one, or none is the base. -/
theorem agree_scaling_iff (value : ℚ) {p q r : UnitName × ℚ} (hp : p ∈ factors row)
    (hq : q ∈ factors row) (hr : r ∈ factors row) :
    Agree value p.1 q.1 r.1 ↔
      p.1 = q.1 ∧ q.1 = r.1 ∨ p.1 ≠ row.1 ∧ q.1 ≠ row.1 ∧ r.1 ≠ row.1 := by
  have hpne := factor_ne_zero' hrow hp
  have hqne := factor_ne_zero' hrow hq
  have hrne := factor_ne_zero' hrow hr
  unfold Agree
  simp only [convert_scaling_ok hrow hp hr, convert_scaling_ok hrow hr hp,
    convert_scaling_ok hrow hp hq, convert_scaling_ok hrow hq hr]
  constructor
  · rintro ⟨there, ⟨hpr, -⟩, ⟨hrp, -⟩, mid, ⟨hpq, -⟩, ⟨hqr, -⟩⟩
    by_cases hbase : p.1 = row.1
    · have hr' : r.1 = p.1 := hrp.resolve_right (not_not.mpr hbase)
      have hq' : q.1 = r.1 := hqr.resolve_right (not_not.mpr (hr'.trans hbase))
      exact .inl ⟨(hq'.trans hr').symm, hq'⟩
    · refine .inr ⟨hbase, ?_, ?_⟩
      · rcases hpq with heq | hne
        · exact heq ▸ hbase
        · exact hne
      · rcases hpr with heq | hne
        · exact heq ▸ hbase
        · exact hne
  · intro h
    have hlegs : (p.1 = r.1 ∨ r.1 ≠ row.1) ∧ (r.1 = p.1 ∨ p.1 ≠ row.1) ∧
        (p.1 = q.1 ∨ q.1 ≠ row.1) ∧ (q.1 = r.1 ∨ r.1 ≠ row.1) := by
      rcases h with ⟨hpq, hqr⟩ | ⟨hp', hq', hr'⟩
      · exact ⟨.inl (hpq.trans hqr), .inl (hpq.trans hqr).symm, .inl hpq, .inl hqr⟩
      · exact ⟨.inr hr', .inr hp', .inr hq', .inr hr'⟩
    refine ⟨_, ⟨hlegs.1, rfl⟩, ⟨hlegs.2.1, ?_⟩, _, ⟨hlegs.2.2.1, rfl⟩, hlegs.2.2.2, ?_⟩
    · field_simp
    · field_simp

end

/-! ## The temperatures -/

/-- The temperature in °C. -/
def toCelsius (u : UnitName) (x : ℚ) : ℚ :=
  if u = deg_F then (x - 32) * 5 / 9 else if u = K then x - 273.15 else x

/-- A temperature in °C in another unit. -/
def ofCelsius (u : UnitName) (t : ℚ) : ℚ :=
  if u = deg_F then t * 9 / 5 + 32 else if u = K then t + 273.15 else t

/-- The conversion with the wrong sign. -/
def WrongSign (u w : UnitName) : Prop := u = deg_F ∧ w = K

instance instDecidableWrongSign (u w : UnitName) : Decidable (WrongSign u w) :=
  inferInstanceAs (Decidable (_ ∧ _))

/-- How far a conversion is off. -/
def off (u w : UnitName) : ℚ := if WrongSign u w then 2 * 273.15 else 0

theorem mem_temperatures {u : UnitName} :
    u ∈ handledByComplicated ↔ u = deg_C ∨ u = deg_F ∨ u = K := by
  simp [handledByComplicated, complicatedConversions]

/-- **Between temperatures** a conversion goes over °C, but for the one with the wrong sign. -/
theorem convert_temperature (value : ℚ) {u w : UnitName} (hu : u ∈ handledByComplicated)
    (hw : w ∈ handledByComplicated) :
    convertUnit value u w = .ok (ofCelsius w (toCelsius u value) - off u w) := by
  have hvalue {a b : ℚ} (h : a = b) : (Except.ok a : Except ConversionError ℚ) = .ok b := by rw [h]
  rcases mem_temperatures.mp hu with rfl | rfl | rfl <;>
    rcases mem_temperatures.mp hw with rfl | rfl | rfl <;>
    exact hvalue (by simp [toCelsius, ofCelsius, off, WrongSign] <;> ring)

theorem toCelsius_ofCelsius (u : UnitName) (t : ℚ) : toCelsius u (ofCelsius u t) = t := by
  unfold toCelsius ofCelsius
  by_cases hF : u = deg_F
  · simp only [if_pos hF]
    ring
  · by_cases hK : u = K <;> simp [hF, hK]

theorem ofCelsius_toCelsius (u : UnitName) (x : ℚ) : ofCelsius u (toCelsius u x) = x := by
  unfold toCelsius ofCelsius
  by_cases hF : u = deg_F
  · simp only [if_pos hF]
    ring
  · by_cases hK : u = K <;> simp [hF, hK]

theorem toCelsius_inj {u : UnitName} {x y : ℚ} : toCelsius u x = toCelsius u y ↔ x = y := by
  constructor
  · intro h
    rw [← ofCelsius_toCelsius u x, h, ofCelsius_toCelsius]
  · exact congrArg _

/-- What a conversion is off by, in °C. -/
theorem toCelsius_sub_off (u w : UnitName) (x : ℚ) :
    toCelsius w (x - off u w) = toCelsius w x - off u w := by
  unfold off
  by_cases h : WrongSign u w
  · rw [if_pos h, h.2]
    simp only [toCelsius, reduceCtorEq, if_false, if_true]
    ring
  · rw [if_neg h, sub_zero, sub_zero]

theorem off_eq_zero_iff (u w : UnitName) : off u w = 0 ↔ ¬WrongSign u w := by
  unfold off
  by_cases h : WrongSign u w
  · rw [if_pos h]
    norm_num [h]
  · rw [if_neg h]
    simp [h]

theorem off_nonneg (u w : UnitName) : 0 ≤ off u w := by
  unfold off
  split <;> norm_num

/-- **Three temperatures** agree if no conversion between them has the wrong sign. -/
theorem agree_temperature_iff (value : ℚ) {u v w : UnitName} (hu : u ∈ handledByComplicated)
    (hv : v ∈ handledByComplicated) (hw : w ∈ handledByComplicated) :
    Agree value u v w ↔
      ¬WrongSign u w ∧ ¬WrongSign w u ∧ ¬WrongSign u v ∧ ¬WrongSign v w := by
  have hback : ofCelsius u (toCelsius w (ofCelsius w (toCelsius u value) - off u w)) - off w u =
      value ↔ off u w + off w u = 0 := by
    rw [← toCelsius_inj (u := u), toCelsius_sub_off, toCelsius_ofCelsius, toCelsius_sub_off,
      toCelsius_ofCelsius]
    constructor <;> intro h <;> linarith
  have hover : ofCelsius w (toCelsius v (ofCelsius v (toCelsius u value) - off u v)) - off v w =
      ofCelsius w (toCelsius u value) - off u w ↔ off u v + off v w = off u w := by
    rw [← toCelsius_inj (u := w), toCelsius_sub_off, toCelsius_ofCelsius, toCelsius_sub_off,
      toCelsius_ofCelsius, toCelsius_sub_off, toCelsius_ofCelsius]
    constructor <;> intro h <;> linarith
  have hagree : Agree value u v w ↔ off u w + off w u = 0 ∧ off u v + off v w = off u w := by
    unfold Agree
    simp only [convert_temperature _ hu hw, convert_temperature _ hw hu,
      convert_temperature _ hu hv, convert_temperature _ hv hw, Except.ok.injEq,
      exists_eq_left', hback, hover]
  have huw := off_nonneg u w
  have hwu := off_nonneg w u
  have huv := off_nonneg u v
  have hvw := off_nonneg v w
  rw [hagree, ← off_eq_zero_iff, ← off_eq_zero_iff, ← off_eq_zero_iff, ← off_eq_zero_iff]
  constructor
  · rintro ⟨hback, hover⟩
    exact ⟨by linarith, by linarith, by linarith, by linarith⟩
  · rintro ⟨h1, h2, h3, h4⟩
    exact ⟨by rw [h1, h2, add_zero], by rw [h1, h3, h4, add_zero]⟩

/-! ## All units -/

/-- The base units of `scaling_conversions`. -/
def baseUnits : List UnitName := scalingConversions.map Prod.fst

/-- **The conversions between three units of a quantity are consistent**: the units are one, or none
is a base and none of the four conversions goes from °F to K. -/
def Consistent (u v w : UnitName) : Prop :=
  u = v ∧ v = w ∨ (u ∉ baseUnits ∧ v ∉ baseUnits ∧ w ∉ baseUnits) ∧
    ¬WrongSign u w ∧ ¬WrongSign w u ∧ ¬WrongSign u v ∧ ¬WrongSign v w

theorem temperature_not_base : ∀ u ∈ handledByComplicated, u ∉ baseUnits := by decide

/-- The names of a row are those of its factors. -/
theorem exists_factor {row : UnitName × List (UnitName × ℚ)} {u : UnitName}
    (hu : u ∈ row.1 :: row.2.map Prod.fst) : ∃ p ∈ factors row, p.1 = u := by
  rcases List.mem_cons.mp hu with rfl | hu
  · exact ⟨_, List.mem_cons_self, rfl⟩
  · obtain ⟨p, hp, rfl⟩ := List.mem_map.mp hu
    exact ⟨p, List.mem_cons_of_mem _ hp, rfl⟩

/-- The one base unit of a row is its first. -/
theorem mem_baseUnits_iff {row : UnitName × List (UnitName × ℚ)} (hrow : row ∈ scalingConversions)
    {p : UnitName × ℚ} (hp : p ∈ factors row) : p.1 ∈ baseUnits ↔ p.1 = row.1 := by
  constructor
  · intro hbase
    rcases List.mem_cons.mp hp with rfl | hp
    · rfl
    · exact absurd hbase (lookup_name names_nodup hrow hp).1
  · intro heq
    rw [heq]
    exact List.mem_map_of_mem hrow

/-- No conversion within a row is the one with the wrong sign. -/
theorem not_wrongSign {row : UnitName × List (UnitName × ℚ)} (hrow : row ∈ scalingConversions)
    {p : UnitName × ℚ} (hp : p ∈ factors row) (w : UnitName) : ¬WrongSign p.1 w := by
  rintro ⟨hF, -⟩
  exact not_complicated p.1 (mem_names hrow hp) (hF ▸ mem_temperatures.mpr (.inr (.inl rfl)))

/-- **Three units of a quantity agree** on every value or on none. -/
theorem agree_iff {quantity : List UnitName} (hq : quantity ∈ quantities) {u v w : UnitName}
    (hu : u ∈ quantity) (hv : v ∈ quantity) (hw : w ∈ quantity) (value : ℚ) :
    Agree value u v w ↔ Consistent u v w := by
  rcases List.mem_append.mp hq with hq | hq
  · obtain ⟨row, hrow, rfl⟩ := List.mem_map.mp hq
    obtain ⟨p, hp, rfl⟩ := exists_factor hu
    obtain ⟨q, hq', rfl⟩ := exists_factor hv
    obtain ⟨r, hr, rfl⟩ := exists_factor hw
    rw [agree_scaling_iff hrow value hp hq' hr, Consistent, mem_baseUnits_iff hrow hp,
      mem_baseUnits_iff hrow hq', mem_baseUnits_iff hrow hr]
    simp only [not_wrongSign hrow hp, not_wrongSign hrow hq', not_wrongSign hrow hr, not_false_iff,
      and_true]
  · rw [List.mem_singleton.mp hq] at hu hv hw
    rw [agree_temperature_iff value hu hv hw, Consistent]
    constructor
    · intro h
      exact .inr ⟨⟨temperature_not_base u hu, temperature_not_base v hv,
        temperature_not_base w hw⟩, h⟩
    · rintro (⟨rfl, rfl⟩ | ⟨-, h⟩)
      · have hsame : ¬WrongSign u u := fun h => absurd (h.1.symm.trans h.2) (by decide)
        exact ⟨hsame, hsame, hsame, hsame⟩
      · exact h

/-- **A conversion within a quantity succeeds** unless it goes to a base from another unit. -/
theorem succeeds_iff {quantity : List UnitName} (hq : quantity ∈ quantities) {u w : UnitName}
    (hu : u ∈ quantity) (hw : w ∈ quantity) (value : ℚ) :
    (∃ there, convertUnit value u w = .ok there) ↔ u = w ∨ w ∉ baseUnits := by
  rcases List.mem_append.mp hq with hq | hq
  · obtain ⟨row, hrow, rfl⟩ := List.mem_map.mp hq
    obtain ⟨p, hp, rfl⟩ := exists_factor hu
    obtain ⟨r, hr, rfl⟩ := exists_factor hw
    rw [mem_baseUnits_iff hrow hr]
    constructor
    · rintro ⟨there, hthere⟩
      exact ((convert_scaling_ok hrow hp hr).mp hthere).1
    · exact fun h => ⟨_, (convert_scaling_ok hrow hp hr).mpr ⟨h, rfl⟩⟩
  · rw [List.mem_singleton.mp hq] at hu hw
    exact iff_of_true ⟨_, convert_temperature value hu hw⟩ (.inr (temperature_not_base w hw))

/-- **The units that convert consistently**, and the conversions to the units that the sensors are
given. -/
theorem conversions_iff (value : ℚ) :
    (∀ quantity ∈ quantities, ∀ u ∈ quantity, ∀ v ∈ quantity, ∀ w ∈ quantity,
      Agree value u v w ↔ Consistent u v w) ∧
    ∀ quantity ∈ quantities, ∀ u ∈ quantity, ∀ w ∈ desiredUnits, w ∈ quantity →
      ((∃ there, convertUnit value u w = .ok there) ↔ u = w ∨ w ∉ baseUnits) :=
  ⟨fun _ hq _ hu _ hv _ hw => agree_iff hq hu hv hw value,
    fun _ hq _ hu _ _ hw => succeeds_iff hq hu hw value⟩

/-- **Minutes** do not convert to seconds. -/
theorem not_agree_minutes :
    ¬ ∀ quantity ∈ quantities, ∀ u ∈ quantity, ∀ v ∈ quantity, ∀ w ∈ quantity, ∀ value : ℚ,
      Agree value u v w := by
  intro h
  have hagree := h _ (List.mem_append_left _ List.mem_cons_self) min
    (List.mem_cons_of_mem _ List.mem_cons_self) min (List.mem_cons_of_mem _ List.mem_cons_self) s
    List.mem_cons_self 1
  obtain ⟨there, hthere, -⟩ := hagree
  cases hthere

end Backplane.OpenRocket
