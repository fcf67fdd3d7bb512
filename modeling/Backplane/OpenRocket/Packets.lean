import Mathlib.Algebra.Order.Field.Rat
import Mathlib.Tactic.Linarith

/-!
# The packets of a simulated flight

Model of `or_find_bounding_packets` and `or_lerp` of
`drivers/sensor/openrocket/openrocket_sensors.c`, and of what the sensor drivers do with them. Times
are exact numbers, and indices do not wrap. A read outside the table, a division by zero and an
assertion that fails are errors.

* The search starts at `last_lower_idx`, also where that is `or_packets_size`.
* It does not move past packets of one time that stand at its start.

Results:
* `findLoop_spec`: the search, by induction on the packets that remain.
* `find_of_le`: the answer of a search that starts inside the table.
* `held_start`: what an index that was returned before is good for.
* `safe_iff`: the calls that are safe.
-/

namespace Backplane.OpenRocket

/-- `or_packets`, by its times, and `or_packets_size`. -/
structure PacketTable where
  or_packets_size : Nat
  time_s : Nat → ℚ
  two_le : 2 ≤ or_packets_size
  time_mono : ∀ i j, i ≤ j → j < or_packets_size → time_s i ≤ time_s j

inductive Trouble
  | outside (index : Nat)
  | division_by_zero
  | assertion

/-- `lower_idx`, `upper_idx` and `mix`. -/
structure Bounds where
  lower_idx : Nat
  upper_idx : Nat
  mix : ℚ

/-- `or_lerp`. -/
def orLerp (a b t : ℚ) : Except Trouble ℚ :=
  if 0 ≤ t ∧ t ≤ 1 then .ok (a * (1 - t) + b * t) else .error .assertion

/-- `x / y`. -/
def divide (x y : ℚ) : Except Trouble ℚ :=
  if y = 0 then .error .division_by_zero else .ok (x / y)

namespace PacketTable

/-- The member of packet `k` with the values `column`. -/
def read (table : PacketTable) (column : Nat → ℚ) (k : Nat) : Except Trouble ℚ :=
  if k < table.or_packets_size then .ok (column k) else .error (.outside k)

/-- The loop of `or_find_bounding_packets`: where it stops, or nothing past the simulation. -/
def findLoop (table : PacketTable) (or_time : ℚ) (i : Nat) : Except Trouble (Option Nat) :=
  match table.read table.time_s (i + 1) with
  | .error e => .error e
  | .ok next =>
    if next < or_time then
      if table.or_packets_size - 2 ≤ i then .ok none else table.findLoop or_time (i + 1)
    else .ok (some i)
termination_by table.or_packets_size - i

/-- What `or_find_bounding_packets` writes where its loop stopped. -/
def boundsAt (table : PacketTable) (or_time : ℚ) : Option Nat → Except Trouble Bounds
  | none =>
    .ok { lower_idx := table.or_packets_size, upper_idx := table.or_packets_size, mix := 0 }
  | some i => do
    let lo ← table.read table.time_s i
    let hi ← table.read table.time_s (i + 1)
    let mix ← divide (or_time - lo) (hi - lo)
    .ok { lower_idx := i, upper_idx := i + 1, mix }

/-- `or_find_bounding_packets`. -/
def orFindBoundingPackets (table : PacketTable) (last_lower_idx : Nat) (or_time : ℚ) :
    Except Trouble Bounds := do
  let first ← table.read table.time_s 0
  if or_time < first then .ok { lower_idx := 0, upper_idx := 0, mix := 0 }
  else
    let stop ← table.findLoop or_time last_lower_idx
    table.boundsAt or_time stop

/-- What `or_imu_sample_fetch` and its siblings take from one member of the packets, with its values
before and after the simulation. -/
def fetchMember (table : PacketTable) (last_lower_idx : Nat) (or_time presim postsim : ℚ)
    (column : Nat → ℚ) : Except Trouble ℚ := do
  let b ← table.orFindBoundingPackets last_lower_idx or_time
  if b.upper_idx = 0 then .ok presim
  else if b.lower_idx = table.or_packets_size then .ok postsim
  else
    let lo_data ← table.read column b.lower_idx
    let hi_data ← table.read column b.upper_idx
    orLerp lo_data hi_data b.mix

/-- `last_lower_idx` is 0, or what an earlier call returned for a time that is not later. A call
that divides by zero returns the index 0. -/
inductive Held (table : PacketTable) : ℚ → Nat → Prop
  | start (or_time : ℚ) : table.Held or_time 0
  | returned {last or_time or_time' b} (h : table.Held or_time last)
    (hcall : table.orFindBoundingPackets last or_time = .ok b) (hle : or_time ≤ or_time') :
    table.Held or_time' b.lower_idx

/-- The bounds of a time, with the mix between them. -/
structure Brackets (table : PacketTable) (or_time : ℚ) (b : Bounds) : Prop where
  before : b.lower_idx = 0 ∧ b.upper_idx = 0 ↔ or_time < table.time_s 0
  after : b.lower_idx = table.or_packets_size ∧ b.upper_idx = table.or_packets_size ↔
    table.time_s (table.or_packets_size - 1) < or_time
  between : table.time_s 0 ≤ or_time → or_time ≤ table.time_s (table.or_packets_size - 1) →
    b.upper_idx = b.lower_idx + 1 ∧ b.upper_idx < table.or_packets_size ∧
      table.time_s b.lower_idx ≤ or_time ∧ or_time ≤ table.time_s b.upper_idx ∧
      0 ≤ b.mix ∧ b.mix ≤ 1

/-- **A safe call**: it returns the bounds of the time, and the drivers get their values. -/
structure Safe (table : PacketTable) (last_lower_idx : Nat) (or_time : ℚ) : Prop where
  bounds : ∃ b, table.orFindBoundingPackets last_lower_idx or_time = .ok b ∧
    table.Brackets or_time b
  drivers : ∀ presim postsim column, ∃ value,
    table.fetchMember last_lower_idx or_time presim postsim column = .ok value

/-! ## The search -/

section
variable {table : PacketTable} {or_time : ℚ}

theorem read_of_lt {column : Nat → ℚ} {k : Nat} (h : k < table.or_packets_size) :
    table.read column k = .ok (column k) := if_pos h

/-- **The search**, from a packet that is not later than the time. -/
theorem findLoop_spec {i : Nat} (hi : i + 1 < table.or_packets_size)
    (hle : table.time_s i ≤ or_time) :
    (table.findLoop or_time i = .ok none ∧
      table.time_s (table.or_packets_size - 1) < or_time) ∨
    ∃ j, table.findLoop or_time i = .ok (some j) ∧ j + 1 < table.or_packets_size ∧
      table.time_s j ≤ or_time ∧ or_time ≤ table.time_s (j + 1) ∧
      (j = i ∨ table.time_s j < or_time) := by
  fun_induction findLoop table or_time i with
  | case1 i e hread =>
    rw [read_of_lt hi] at hread
    cases hread
  | case2 i next hread hlt hend =>
    rw [read_of_lt hi] at hread
    cases hread
    have heq : i + 1 = table.or_packets_size - 1 := by omega
    exact .inl ⟨rfl, heq ▸ hlt⟩
  | case3 i next hread hlt hend ih =>
    rw [read_of_lt hi] at hread
    cases hread
    rcases ih (by omega) hlt.le with hnone | ⟨j, hj, hjlt, hlo, hhi, hor⟩
    · exact .inl hnone
    · refine .inr ⟨j, hj, hjlt, hlo, hhi, .inr ?_⟩
      rcases hor with rfl | hor
      · exact hlt
      · exact hor
  | case4 i next hread hge =>
    rw [read_of_lt hi] at hread
    cases hread
    exact .inr ⟨i, rfl, hi, hle, not_lt.mp hge, .inl rfl⟩

/-! ## One call -/

/-- Before the first packet there are no bounds. -/
theorem find_before (last : Nat) (h : or_time < table.time_s 0) :
    table.orFindBoundingPackets last or_time =
      .ok { lower_idx := 0, upper_idx := 0, mix := 0 } := by
  have hsize := table.two_le
  rw [orFindBoundingPackets, read_of_lt (by omega)]
  show (if or_time < table.time_s 0 then _ else _) = _
  rw [if_pos h]

theorem find_after_first (last : Nat) (h : table.time_s 0 ≤ or_time) :
    table.orFindBoundingPackets last or_time =
      table.findLoop or_time last >>= table.boundsAt or_time := by
  have hsize := table.two_le
  rw [orFindBoundingPackets, read_of_lt (by omega)]
  show (if or_time < table.time_s 0 then _ else _) = _
  rw [if_neg (not_lt.mpr h)]

/-- Two packets around the time, if they have different times. -/
theorem boundsAt_some {i : Nat} (hi : i + 1 < table.or_packets_size) :
    table.boundsAt or_time (some i) =
      if table.time_s (i + 1) = table.time_s i then .error .division_by_zero
      else .ok
        { lower_idx := i, upper_idx := i + 1,
          mix := (or_time - table.time_s i) / (table.time_s (i + 1) - table.time_s i) } := by
  rw [boundsAt, read_of_lt (by omega), read_of_lt hi]
  show divide _ _ >>= _ = _
  unfold divide
  by_cases heq : table.time_s (i + 1) = table.time_s i
  · rw [if_pos heq, if_pos (sub_eq_zero.mpr heq)]
    rfl
  · rw [if_neg heq, if_neg (sub_ne_zero.mpr heq)]
    rfl

/-- **A search that starts at the size** reads outside the table. -/
theorem find_of_size (h : table.time_s 0 ≤ or_time) :
    table.orFindBoundingPackets table.or_packets_size or_time =
      .error (.outside (table.or_packets_size + 1)) := by
  have hread : table.read table.time_s (table.or_packets_size + 1) =
      .error (.outside (table.or_packets_size + 1)) := if_neg (by omega)
  rw [find_after_first _ h, findLoop, hread]
  rfl

/-- **A search that starts inside the table**: the size past the end, or two packets around the
time, which have different times unless the search never moved. -/
theorem find_of_le {last : Nat} (hfirst : table.time_s 0 ≤ or_time)
    (hlast : last + 1 < table.or_packets_size) (hle : table.time_s last ≤ or_time) :
    (table.orFindBoundingPackets last or_time =
        .ok { lower_idx := table.or_packets_size, upper_idx := table.or_packets_size, mix := 0 } ∧
      table.time_s (table.or_packets_size - 1) < or_time) ∨
    ∃ i, i + 1 < table.or_packets_size ∧ table.time_s i ≤ or_time ∧
      or_time ≤ table.time_s (i + 1) ∧ (i = last ∨ table.time_s i < or_time) ∧
      table.orFindBoundingPackets last or_time =
        if table.time_s (i + 1) = table.time_s i then .error .division_by_zero
        else .ok
          { lower_idx := i, upper_idx := i + 1,
            mix := (or_time - table.time_s i) / (table.time_s (i + 1) - table.time_s i) } := by
  rw [find_after_first last hfirst]
  rcases findLoop_spec hlast hle with ⟨hnone, hend⟩ | ⟨i, hsome, hi, hlo, hhi, hor⟩
  · rw [hnone]
    exact .inl ⟨rfl, hend⟩
  · rw [hsome]
    exact .inr ⟨i, hi, hlo, hhi, hor, boundsAt_some hi⟩

/-! ## The indices that are returned -/

/-- What an index that was returned is good for: it is the first packet, or the size for a time past
the end, or one of two packets of different times. -/
def Start (table : PacketTable) (or_time : ℚ) (last : Nat) : Prop :=
  last = 0 ∨
    last = table.or_packets_size ∧ table.time_s (table.or_packets_size - 1) < or_time ∨
    last + 1 < table.or_packets_size ∧ table.time_s last ≤ or_time ∧
      table.time_s last < table.time_s (last + 1)

/-- **Every index that was returned** is such an index. -/
theorem held_start {last : Nat} (h : table.Held or_time last) : table.Start or_time last := by
  have hsize := table.two_le
  induction h with
  | start => exact .inl rfl
  | @returned last or_time or_time' b _ hcall hle ih =>
    rcases lt_or_ge or_time (table.time_s 0) with hbefore | hfirst
    · rw [find_before last hbefore] at hcall
      cases hcall
      exact .inl rfl
    · have hinside : last ≠ table.or_packets_size →
          last + 1 < table.or_packets_size ∧ table.time_s last ≤ or_time := by
        intro hne
        rcases ih with rfl | ⟨heq, -⟩ | ⟨hlt, hlo, -⟩
        · exact ⟨by omega, hfirst⟩
        · exact absurd heq hne
        · exact ⟨hlt, hlo⟩
      by_cases hlast : last = table.or_packets_size
      · rw [hlast, find_of_size hfirst] at hcall
        cases hcall
      · obtain ⟨hlt, hlo⟩ := hinside hlast
        rcases find_of_le hfirst hlt hlo with ⟨hend, hafter⟩ | ⟨i, hi, hlo, hhi, -, hfind⟩
        · rw [hend] at hcall
          cases hcall
          exact .inr (.inl ⟨rfl, hafter.trans_le hle⟩)
        · rw [hfind] at hcall
          split at hcall
          · cases hcall
          · rename_i hne
            cases hcall
            exact .inr (.inr ⟨hi, hlo.trans hle,
              lt_of_le_of_ne (table.time_mono i (i + 1) (Nat.le_succ i) hi) (Ne.symm hne)⟩)

/-! ## The calls that are safe -/

/-- The mix between two packets around a time. -/
theorem mix_range {lo hi : ℚ} (hlo : lo ≤ or_time) (hhi : or_time ≤ hi) :
    0 ≤ (or_time - lo) / (hi - lo) ∧ (or_time - lo) / (hi - lo) ≤ 1 :=
  ⟨div_nonneg (by linarith) (by linarith), div_le_one_of_le₀ (by linarith) (by linarith)⟩

theorem brackets_before (h : or_time < table.time_s 0) :
    table.Brackets or_time { lower_idx := 0, upper_idx := 0, mix := 0 } := by
  have hsize := table.two_le
  have hmono := table.time_mono 0 (table.or_packets_size - 1) (by omega) (by omega)
  refine ⟨iff_of_true ⟨rfl, rfl⟩ h, iff_of_false ?_ ?_, fun hfirst => absurd h hfirst.not_gt⟩
  · rintro ⟨heq, -⟩
    simp only at heq
    omega
  · exact not_lt.mpr (h.le.trans hmono)

theorem brackets_after (h : table.time_s (table.or_packets_size - 1) < or_time) :
    table.Brackets or_time
      { lower_idx := table.or_packets_size, upper_idx := table.or_packets_size, mix := 0 } := by
  have hsize := table.two_le
  have hmono := table.time_mono 0 (table.or_packets_size - 1) (by omega) (by omega)
  refine ⟨iff_of_false ?_ ?_, iff_of_true ⟨rfl, rfl⟩ h, fun _ hlast => absurd h hlast.not_gt⟩
  · rintro ⟨heq, -⟩
    simp only at heq
    omega
  · exact not_lt.mpr (hmono.trans h.le)

theorem brackets_between {i : Nat} {mix : ℚ} (hi : i + 1 < table.or_packets_size)
    (hlo : table.time_s i ≤ or_time) (hhi : or_time ≤ table.time_s (i + 1)) (hmix : 0 ≤ mix)
    (hmix' : mix ≤ 1) :
    table.Brackets or_time { lower_idx := i, upper_idx := i + 1, mix } := by
  have hfirst := (table.time_mono 0 i (Nat.zero_le i) (by omega)).trans hlo
  have hlast := hhi.trans
    (table.time_mono (i + 1) (table.or_packets_size - 1) (by omega) (by omega))
  refine ⟨iff_of_false ?_ hfirst.not_gt, iff_of_false ?_ hlast.not_gt,
    fun _ _ => ⟨rfl, hi, hlo, hhi, hmix, hmix'⟩⟩
  · exact fun h => absurd h.2 (Nat.succ_ne_zero i)
  · exact fun h => absurd h.1 (by simp only; omega)

/-- **What the drivers take** from bounds that are right: the assertion holds. -/
theorem fetchMember_ok {last : Nat} {b : Bounds}
    (hcall : table.orFindBoundingPackets last or_time = .ok b)
    (hb : table.Brackets or_time b) (presim postsim : ℚ) (column : Nat → ℚ) :
    ∃ value, table.fetchMember last or_time presim postsim column = .ok value := by
  have hsize := table.two_le
  have hfetch : table.fetchMember last or_time presim postsim column =
      if b.upper_idx = 0 then .ok presim
      else if b.lower_idx = table.or_packets_size then .ok postsim
      else table.read column b.lower_idx >>= fun lo_data =>
        table.read column b.upper_idx >>= fun hi_data => orLerp lo_data hi_data b.mix := by
    rw [fetchMember, hcall]
    rfl
  rw [hfetch]
  by_cases hbefore : or_time < table.time_s 0
  · rw [if_pos (hb.before.mpr hbefore).2]
    exact ⟨_, rfl⟩
  · by_cases hafter : table.time_s (table.or_packets_size - 1) < or_time
    · obtain ⟨hlower, hupper⟩ := hb.after.mpr hafter
      rw [if_neg (by omega), if_pos hlower]
      exact ⟨_, rfl⟩
    · obtain ⟨hnext, hlt, -, -, hmix⟩ := hb.between (not_lt.mp hbefore) (not_lt.mp hafter)
      rw [if_neg (by omega), if_neg (by omega), read_of_lt (by omega), read_of_lt hlt]
      exact ⟨_, if_pos hmix⟩

theorem safe_of_brackets {last : Nat} {b : Bounds}
    (hcall : table.orFindBoundingPackets last or_time = .ok b)
    (hb : table.Brackets or_time b) : table.Safe last or_time :=
  ⟨⟨b, hcall, hb⟩, fetchMember_ok hcall hb⟩

/-- A search from the size reads past the table. -/
theorem not_safe_of_size (hfirst : table.time_s 0 ≤ or_time) :
    ¬table.Safe table.or_packets_size or_time := by
  rintro ⟨⟨b, hcall, -⟩, -⟩
  rw [find_of_size hfirst] at hcall
  cases hcall

/-- A search from two packets that both have the time divides by their difference. -/
theorem not_safe_of_twins (h0 : table.time_s 0 = or_time) (h1 : table.time_s 1 = or_time) :
    ¬table.Safe 0 or_time := by
  have hsize := table.two_le
  have hlt : 0 + 1 < table.or_packets_size := by omega
  rintro ⟨⟨b, hcall, -⟩, -⟩
  rcases find_of_le h0.le hlt h0.le with ⟨-, hend⟩ | ⟨i, hi, -, -, hor, hfind⟩
  · have hmono := table.time_mono 1 (table.or_packets_size - 1) (by omega) (by omega)
    exact absurd (h1 ▸ hend) hmono.not_gt
  · rcases hor with rfl | hearlier
    · rw [hfind, if_pos (h1.trans h0.symm)] at hcall
      cases hcall
    · have hmono := table.time_mono 0 i (Nat.zero_le i) (by omega)
      exact absurd (h0 ▸ hearlier) hmono.not_gt

/-- A search from anywhere else is safe. -/
theorem safe_of_start {last : Nat} (hstart : table.Start or_time last)
    (hfirst : table.time_s 0 ≤ or_time) (hne : last ≠ table.or_packets_size)
    (hzero : ¬(last = 0 ∧ table.time_s 0 = or_time ∧ table.time_s 1 = or_time)) :
    table.Safe last or_time := by
  have hsize := table.two_le
  have hinside : last + 1 < table.or_packets_size ∧ table.time_s last ≤ or_time := by
    rcases hstart with rfl | ⟨heq, -⟩ | ⟨hlt, hlo, -⟩
    · exact ⟨by omega, hfirst⟩
    · exact absurd heq hne
    · exact ⟨hlt, hlo⟩
  rcases find_of_le hfirst hinside.1 hinside.2 with
    ⟨hcall, hend⟩ | ⟨i, hi, hlo, hhi, hor, hfind⟩
  · exact safe_of_brackets hcall (brackets_after hend)
  · -- two packets of one time can only be the ones the search started at
    have hdiff : table.time_s (i + 1) ≠ table.time_s i := by
      intro heq
      have htime : table.time_s i = or_time := le_antisymm hlo (heq ▸ hhi)
      rcases hor with rfl | hearlier
      · rcases hstart with rfl | ⟨hlast, -⟩ | ⟨-, -, hlt⟩
        · exact hzero ⟨rfl, htime, heq.trans htime⟩
        · exact hne hlast
        · exact absurd heq hlt.ne'
      · exact absurd htime hearlier.ne
    rw [if_neg hdiff] at hfind
    obtain ⟨hmix, hmix'⟩ := mix_range hlo hhi
    exact safe_of_brackets hfind (brackets_between hi hlo hhi hmix hmix')

/-- **The calls that are safe**: the search does not start at the size, nor at two packets that both
have the time. -/
theorem safe_iff {last : Nat} (h : table.Held or_time last) :
    table.Safe last or_time ↔ last ≠ table.or_packets_size ∧
      ¬(last = 0 ∧ table.time_s 0 = or_time ∧ table.time_s 1 = or_time) := by
  have hsize := table.two_le
  have hstart := held_start h
  rcases lt_or_ge or_time (table.time_s 0) with hbefore | hfirst
  · have hmono := table.time_mono 0 (table.or_packets_size - 1) (by omega) (by omega)
    refine iff_of_true (safe_of_brackets (find_before last hbefore) (brackets_before hbefore))
      ⟨?_, fun h0 => absurd h0.2.1 hbefore.ne'⟩
    rintro rfl
    rcases hstart with hzero | ⟨-, hlt⟩ | ⟨hlt, -⟩
    · omega
    · exact absurd (hlt.trans hbefore) hmono.not_gt
    · omega
  · constructor
    · intro hsafe
      refine ⟨?_, ?_⟩
      · rintro rfl
        exact not_safe_of_size hfirst hsafe
      · rintro ⟨rfl, h0, h1⟩
        exact not_safe_of_twins h0 h1 hsafe
    · rintro ⟨hne, hzero⟩
      exact safe_of_start hstart hfirst hne hzero

end

/-! ## A flight -/

/-- A table of packets at the seconds from 0 on. -/
def seconds (size : Nat) (h : 2 ≤ size) : PacketTable where
  or_packets_size := size
  time_s k := k
  two_le := h
  time_mono _ _ hle _ := by exact_mod_cast hle

theorem safe_iff_seconds : (seconds 3 (by decide)).Safe 0 (3 / 2) :=
  (safe_iff (.start (3 / 2))).mpr ⟨by decide, fun h => absurd h.2.1 (by norm_num [seconds])⟩

/-- **After the end**: the first call returns the size, and the next reads past the table. -/
theorem not_safe_after_end :
    ¬ ∀ (table : PacketTable) (or_time : ℚ) (last : Nat), table.Held or_time last →
      table.Safe last or_time := by
  intro h
  have hfirst : (seconds 2 (by decide)).time_s 0 ≤ 2 := by simp [seconds]
  have hlt : 0 + 1 < (seconds 2 (by decide)).or_packets_size := by simp [seconds]
  have hafter : (seconds 2 (by decide)).orFindBoundingPackets 0 2 =
      .ok { lower_idx := 2, upper_idx := 2, mix := 0 } := by
    rcases find_of_le hfirst hlt hfirst with ⟨hcall, -⟩ | ⟨i, hi, -, hhi, -⟩
    · exact hcall
    · have hi0 : i = 0 := Nat.lt_one_iff.mp (Nat.lt_of_succ_lt_succ hi)
      rw [hi0] at hhi
      exact absurd hhi (by norm_num [seconds])
  have hheld : (seconds 2 (by decide)).Held 2 2 := .returned (.start 2) hafter le_rfl
  obtain ⟨⟨b, hcall, -⟩, -⟩ := h _ 2 2 hheld
  have hread := find_of_size hfirst
  rw [show (seconds 2 (by decide)).or_packets_size = 2 from rfl, hcall] at hread
  cases hread

end PacketTable

end Backplane.OpenRocket
