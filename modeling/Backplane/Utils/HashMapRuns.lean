import Mathlib.Algebra.Order.Ring.Int
import Mathlib.Data.Finmap
import Backplane.General.Run
import Backplane.Utils.HashMap

/-!
# Sequences of calls on the hash map

The counters of `CHashMap` over whole runs of `Insert`, `Set`, `Remove` and `Get`, next to the
finite map the same calls make (`finiteAfter`). A call that oopses ends its thread and leaves the
map as it was.

Results:
* `after_main`: on the main thread the contents are the finite map.
* `counts_iff`: the runs in which `Size()` counts the keys.
* `size_le_max`: without a `Remove` at counter zero the gate of `Insert` never closes.
* `capped_iff`: the runs in which the map does not grow after startup.
-/

namespace Backplane.Utils

open Backplane.Run

/-- A call on the map. -/
inductive HashMapCall (KeyType ValueType : Type)
  | insert (key : KeyType) (value : ValueType)
  | set (key : KeyType) (value : ValueType)
  | remove (key : KeyType)
  | get (key : KeyType)

/-- What a call returns. -/
inductive Returned (ValueType : Type)
  | bool (b : Bool) | optional (value : Option ValueType) | oops

variable {KeyType ValueType : Type} [DecidableEq KeyType]

/-- The map after a call, and what the call returns. -/
def CHashMap.call (isMainThreadCurrent : Bool) (m : CHashMap KeyType ValueType) :
    HashMapCall KeyType ValueType → CHashMap KeyType ValueType × Returned ValueType
  | .insert key value =>
    match m.insert isMainThreadCurrent key value with
    | .ok (m', b) => (m', .bool b)
    | .error _ => (m, .oops)
  | .set key value => ((m.set key value).1, .bool (m.set key value).2)
  | .remove key => ((m.remove key).1, .bool (m.remove key).2)
  | .get key => (m, .optional (m.get key))

/-- The map after a call. -/
def CHashMap.after (isMainThreadCurrent : Bool) (m : CHashMap KeyType ValueType)
    (call : HashMapCall KeyType ValueType) : CHashMap KeyType ValueType :=
  (m.call isMainThreadCurrent call).1

/-- The number of keys in the map. -/
def CHashMap.keyCount (m : CHashMap KeyType ValueType) : Nat := m.map.keys.length

/-- The call is an `Insert` of a present key or a `Remove` of an absent one. -/
def CHashMap.misses (m : CHashMap KeyType ValueType) : HashMapCall KeyType ValueType → Bool
  | .insert key _ => m.contains key
  | .remove key => !m.contains key
  | .set _ _ | .get _ => false

/-! ## One call -/

/-- What a call adds to the counter. -/
def HashMapCall.weight : HashMapCall KeyType ValueType → UInt32
  | .insert _ _ => 1
  | .remove _ => -1
  | .set _ _ | .get _ => 0

/-- The gate of `Insert` closes on the call. -/
def CHashMap.rejects (isMainThreadCurrent : Bool) (m : CHashMap KeyType ValueType) :
    HashMapCall KeyType ValueType → Bool
  | .insert key _ =>
    !isMainThreadCurrent && !m.contains key && m.size > m.maxSizeReachedAtStartup
  | .set _ _ | .remove _ | .get _ => false

variable {main : Bool} {m : CHashMap KeyType ValueType} {call : HashMapCall KeyType ValueType}

/-- **A rejected `Insert` oopses and changes nothing.** -/
theorem call_rejects (h : m.rejects main call = true) : m.call main call = (m, .oops) := by
  cases call with
  | insert key value =>
    have hinsert : m.insert main key value = .error .kOops := if_pos h
    simp only [CHashMap.call, hinsert]
  | _ => exact absurd h Bool.false_ne_true

/-- An `Insert` that is let through. -/
theorem call_insert {key : KeyType} {value : ValueType}
    (h : ¬ m.rejects main (.insert key value) = true) :
    m.call main (.insert key value) =
      ({ map := if m.contains key then m.map else m.map.insert key value
         size := m.size + 1
         maxSizeReachedAtStartup :=
          if m.size + 1 > m.maxSizeReachedAtStartup then m.size + 1
          else m.maxSizeReachedAtStartup },
        .bool !m.contains key) := by
  have hinsert : m.insert main key value = .ok
      ({ map := if m.contains key then m.map else m.map.insert key value
         size := m.size + 1
         maxSizeReachedAtStartup :=
          if m.size + 1 > m.maxSizeReachedAtStartup then m.size + 1
          else m.maxSizeReachedAtStartup },
        !m.contains key) := by
    refine (if_neg h).trans ?_
    show (if m.contains key then _ else _) = _
    cases hc : m.contains key <;> rfl
  simp only [CHashMap.call, hinsert]

/-- Every other call moves the counter, whatever it does to the keys. -/
theorem size_after (h : ¬ m.rejects main call = true) :
    (m.after main call).size = m.size + call.weight := by
  unfold CHashMap.after
  cases call with
  | insert key value =>
    rw [call_insert h]
    rfl
  | set key value =>
    show (m.set key value).1.size = m.size + 0
    rw [UInt32.add_zero, CHashMap.set]
    split <;> rfl
  | remove key => exact UInt32.sub_eq_add_neg _ _
  | get key => exact (UInt32.add_zero _).symm

/-- A call that misses leaves the contents. -/
theorem map_after_of_misses (h : m.misses call = true) : (m.after main call).map = m.map := by
  unfold CHashMap.after
  cases call with
  | insert key value =>
    have hkey : m.contains key = true := h
    have hrejects : ¬ m.rejects main (.insert key value) = true := by
      simp [CHashMap.rejects, hkey]
    rw [call_insert hrejects]
    exact if_pos hkey
  | remove key =>
    have hkey : key ∉ m.map := by simpa [CHashMap.misses, CHashMap.contains] using h
    apply AList.ext
    exact List.kerase_of_notMem_keys hkey
  | _ => exact absurd h Bool.false_ne_true

/-- A call that misses moves the counter all the same. -/
theorem size_after_of_misses (h : m.misses call = true) : (m.after main call).size ≠ m.size := by
  have hrejects : ¬ m.rejects main call = true := by
    cases call with
    | insert key value =>
      have hkey : m.contains key = true := h
      simp [CHashMap.rejects, hkey]
    | _ => exact Bool.false_ne_true
  rw [size_after hrejects]
  intro heq
  have hzero : call.weight = 0 := by simpa using heq
  cases call with
  | insert key value => exact absurd (show (1 : UInt32) = 0 from hzero) (by decide)
  | remove key => exact absurd (show (-1 : UInt32) = 0 from hzero) (by decide)
  | _ => exact absurd h Bool.false_ne_true

/-- What the calls that find what they look for do to the number of keys. -/
theorem keyCount_after (hmiss : ¬ m.misses call = true) (h : ¬ m.rejects main call = true) :
    match call with
    | .insert _ _ => (m.after main call).keyCount = m.keyCount + 1
    | .remove _ => (m.after main call).keyCount + 1 = m.keyCount
    | .set _ _ | .get _ => (m.after main call).keyCount = m.keyCount := by
  unfold CHashMap.after CHashMap.keyCount
  cases call with
  | insert key value =>
    have hkey : key ∉ m.map.keys := fun hmem => hmiss ((contains_iff m key).mpr hmem)
    show (m.call main (.insert key value)).1.map.keys.length = _
    rw [call_insert h]
    show (if m.contains key = true then m.map else m.map.insert key value).keys.length = _
    have habsent : ¬ m.contains key = true := hmiss
    rw [if_neg habsent, AList.keys_insert, List.erase_of_not_mem hkey]
    rfl
  | remove key =>
    have hkey : key ∈ m.map.keys := by
      simpa [CHashMap.misses, CHashMap.contains, AList.mem_keys] using hmiss
    show (m.map.erase key).keys.length + 1 = _
    rw [AList.keys_erase, List.length_erase_of_mem hkey]
    have hpos := List.length_pos_of_mem hkey
    omega
  | set key value => exact congrArg List.length (keys_set m key value)
  | get key => rfl

/-- A counter that counts the keys goes on counting them, up to its width. -/
theorem counted_after (hsize : m.size.toNat = m.keyCount) (hmiss : ¬ m.misses call = true)
    (h : ¬ m.rejects main call = true) (hlt : (m.after main call).keyCount < 2 ^ 32) :
    (m.after main call).size.toNat = (m.after main call).keyCount := by
  have hcount := keyCount_after hmiss h
  rw [size_after h, UInt32.toNat_add]
  cases call with
  | insert key value =>
    have hweight : (HashMapCall.insert key value).weight.toNat = 1 := rfl
    rw [hweight]
    omega
  | remove key =>
    have hweight :
        (HashMapCall.remove key : HashMapCall KeyType ValueType).weight.toNat = 4294967295 :=
      show (-1 : UInt32).toNat = 4294967295 by decide
    rw [hweight]
    omega
  | set key value =>
    have hweight : (HashMapCall.set key value).weight.toNat = 0 := rfl
    rw [hweight]
    omega
  | get key =>
    have hweight : (HashMapCall.get key : HashMapCall KeyType ValueType).weight.toNat = 0 := rfl
    rw [hweight]
    omega

theorem not_rejects_main (m : CHashMap KeyType ValueType) (call : HashMapCall KeyType ValueType) :
    ¬ m.rejects true call = true := by
  cases call <;> exact Bool.false_ne_true

/-- The map after calls on the main thread. -/
def mainRun (l : List (HashMapCall KeyType ValueType)) : CHashMap KeyType ValueType :=
  run (CHashMap.after true) CHashMap.new l

theorem mainRun_snoc (l : List (HashMapCall KeyType ValueType))
    (call : HashMapCall KeyType ValueType) :
    mainRun (l ++ [call]) = (mainRun l).after true call :=
  run_snoc l call

/-- The map after the calls of `startup` on the main thread and `later` on other threads. -/
def lateRun (startup later : List (HashMapCall KeyType ValueType)) : CHashMap KeyType ValueType :=
  run (CHashMap.after false) (mainRun startup) later

/-! ## The finite map -/

/-- The finite map that holds the contents. -/
def CHashMap.finite (m : CHashMap KeyType ValueType) : Finmap fun _ : KeyType => ValueType :=
  m.map.toFinmap

/-- What a call does to a finite map. -/
def finiteAfter (f : Finmap fun _ : KeyType => ValueType) :
    HashMapCall KeyType ValueType → Finmap fun _ : KeyType => ValueType
  | .insert key value => if key ∈ f then f else f.insert key value
  | .set key value => if key ∈ f then f.replace key value else f
  | .remove key => f.erase key
  | .get _ => f

theorem contains_eq (m : CHashMap KeyType ValueType) (key : KeyType) :
    m.contains key = decide (key ∈ m.finite) := rfl

theorem get_eq (m : CHashMap KeyType ValueType) (key : KeyType) :
    m.get key = m.finite.lookup key := rfl

omit [DecidableEq KeyType] in
theorem keyCount_eq (m : CHashMap KeyType ValueType) : m.keyCount = m.finite.keys.card := by
  show m.map.keys.length = Multiset.card m.finite.keys.val
  rw [CHashMap.finite, Finmap.keys_val]
  rfl

/-- **On the main thread the contents are the finite map** of the same calls. -/
theorem after_main (m : CHashMap KeyType ValueType) (call : HashMapCall KeyType ValueType) :
    (m.after true call).finite = finiteAfter m.finite call := by
  have hmem : ∀ key, m.contains key = true ↔ key ∈ m.finite := fun _ => decide_eq_true_iff
  unfold CHashMap.after
  cases call with
  | insert key value =>
    rw [call_insert (not_rejects_main m _)]
    show (if m.contains key = true then m.map else m.map.insert key value).toFinmap =
      if key ∈ m.finite then m.finite else m.finite.insert key value
    by_cases hkey : m.contains key = true
    · rw [if_pos hkey, if_pos ((hmem key).mp hkey)]
      rfl
    · rw [if_neg hkey, if_neg (fun h => hkey ((hmem key).mpr h)), CHashMap.finite,
        Finmap.insert_toFinmap]
  | set key value =>
    show (m.set key value).1.map.toFinmap =
      if key ∈ m.finite then m.finite.replace key value else m.finite
    unfold CHashMap.set
    by_cases hkey : m.contains key = true
    · rw [if_pos hkey, if_pos ((hmem key).mp hkey), CHashMap.finite, Finmap.replace_toFinmap]
    · rw [if_neg hkey, if_neg (fun h => hkey ((hmem key).mpr h))]
      rfl
  | remove key => exact (Finmap.erase_toFinmap key m.map).symm
  | get key => rfl

theorem run_main (l : List (HashMapCall KeyType ValueType)) :
    (mainRun l).finite = run finiteAfter ∅ l := by
  induction l using List.reverseRecOn with
  | nil => rfl
  | append_singleton l call ih => rw [mainRun_snoc, run_snoc, after_main, ih]

/-! ## The counter -/

/-- The map counts its keys over the run of `l` on the main thread: after every call `Size()` is
the number of keys and the contents are the finite map, and a call that misses does nothing. -/
structure Counts (l : List (HashMapCall KeyType ValueType)) : Prop where
  size : ∀ pre, pre <+: l → (mainRun pre).size.toNat = (run finiteAfter ∅ pre).keys.card
  contains : ∀ pre, pre <+: l → ∀ key,
    (mainRun pre).contains key = decide (key ∈ run finiteAfter ∅ pre)
  get : ∀ pre, pre <+: l → ∀ key, (mainRun pre).get key = (run finiteAfter ∅ pre).lookup key
  misses : ∀ pre call, pre ++ [call] <+: l → (mainRun pre).misses call = true →
    (mainRun pre).call true call = (mainRun pre, .bool false)

/-- **`Size()` counts the keys exactly in the runs without a call that misses**, as long as the
keys fit the counter. -/
theorem counts_iff (l : List (HashMapCall KeyType ValueType)) :
    Counts l ↔
      (∀ pre call, pre ++ [call] <+: l → ¬ (mainRun pre).misses call = true) ∧
      ∀ pre, pre <+: l → (mainRun pre).keyCount < 2 ^ 32 := by
  constructor
  · intro h
    have hsize : ∀ pre, pre <+: l → (mainRun pre).size.toNat = (mainRun pre).keyCount := by
      intro pre hpre
      rw [h.size pre hpre, ← run_main, keyCount_eq]
    refine ⟨fun pre call hpre hmiss => ?_, fun pre hpre => ?_⟩
    · have hbefore := hsize pre ((List.prefix_append pre [call]).trans hpre)
      have hafter := hsize (pre ++ [call]) hpre
      rw [mainRun_snoc, CHashMap.keyCount, map_after_of_misses hmiss] at hafter
      exact size_after_of_misses hmiss (UInt32.toNat_inj.mp (hafter.trans hbefore.symm))
    · rw [← hsize pre hpre]
      exact UInt32.toNat_lt _
  · rintro ⟨hmiss, hlt⟩
    have hcount : ∀ pre, pre <+: l → (mainRun pre).size.toNat = (mainRun pre).keyCount := by
      intro pre hpre
      refine run_prefix (motive := fun _ (m : CHashMap KeyType ValueType) =>
        m.size.toNat = m.keyCount) rfl ?_ hpre
      intro pre call hcall hsize
      have hafter := hlt (pre ++ [call]) hcall
      rw [mainRun_snoc] at hafter
      exact counted_after hsize (hmiss pre call hcall) (not_rejects_main _ call) hafter
    refine ⟨fun pre hpre => ?_, fun pre _ key => ?_, fun pre _ key => ?_, fun pre call hpre h => ?_⟩
    · rw [hcount pre hpre, keyCount_eq, run_main]
    · rw [contains_eq, run_main]
    · rw [get_eq, run_main]
    · exact absurd h (hmiss pre call hpre)

/-- A second `Insert` of a key is counted. -/
theorem not_counts_insert_twice : ¬ ∀ l : List (HashMapCall Nat Unit), Counts l := by
  intro h
  exact absurd ((h [.insert 1 (), .insert 1 ()]).size _ List.prefix_rfl) (by decide)

/-! ## The gate -/

/-- The maximum number of keys over the run of `l` on the main thread, from `m`. -/
def maxKeys (m : CHashMap KeyType ValueType) : List (HashMapCall KeyType ValueType) → Nat
  | [] => m.keyCount
  | call :: l => max m.keyCount (maxKeys (m.after true call) l)

theorem keyCount_le_maxKeys (l : List (HashMapCall KeyType ValueType))
    (m : CHashMap KeyType ValueType) :
    (run (CHashMap.after true) m l).keyCount ≤ maxKeys m l := by
  induction l generalizing m with
  | nil => exact Nat.le_refl _
  | cons call l ih => exact Nat.le_trans (ih _) (Nat.le_max_right _ _)

/-- No call but a rejected `Insert` oopses. -/
theorem rejects_of_oops (h : (m.call main call).2 = .oops) : m.rejects main call = true := by
  by_contra hrejects
  cases call with
  | insert key value =>
    rw [call_insert hrejects] at h
    cases h
  | _ => cases h

/-- A call adds a key only if it is an `Insert` of an absent key that is let through. -/
theorem keyCount_after_le (h : ∀ key value, call = .insert key value →
    ¬ m.contains key = true → m.rejects main call = true) :
    (m.after main call).keyCount ≤ m.keyCount := by
  by_cases hrejects : m.rejects main call = true
  · unfold CHashMap.after
    rw [call_rejects hrejects]
  · by_cases hmiss : m.misses call = true
    · unfold CHashMap.keyCount
      rw [map_after_of_misses hmiss]
    · have hcount := keyCount_after hmiss hrejects
      cases call with
      | insert key value => exact absurd (h key value rfl hmiss) hrejects
      | remove key => exact Nat.le_trans (Nat.le_succ _) (Nat.le_of_eq hcount)
      | _ => exact Nat.le_of_eq hcount

theorem keyCount_after_le_succ (main : Bool) (m : CHashMap KeyType ValueType)
    (call : HashMapCall KeyType ValueType) :
    (m.after main call).keyCount ≤ m.keyCount + 1 := by
  by_cases hrejects : m.rejects main call = true
  · unfold CHashMap.after
    rw [call_rejects hrejects]
    exact Nat.le_succ _
  · by_cases hmiss : m.misses call = true
    · unfold CHashMap.keyCount
      rw [map_after_of_misses hmiss]
      exact Nat.le_succ _
    · have hcount := keyCount_after hmiss hrejects
      cases call <;> simp only at hcount <;> omega

/-- The maximum follows the counter up, and a `Remove` above zero takes it down. -/
theorem size_le_max_after (hle : m.size ≤ m.maxSizeReachedAtStartup)
    (hremove : ∀ key, call = .remove key → m.size ≠ 0) :
    (m.after main call).size ≤ (m.after main call).maxSizeReachedAtStartup := by
  unfold CHashMap.after
  by_cases hrejects : m.rejects main call = true
  · rw [call_rejects hrejects]
    exact hle
  · cases call with
    | insert key value =>
      rw [call_insert hrejects]
      show m.size + 1 ≤ if m.size + 1 > m.maxSizeReachedAtStartup then _ else _
      split
      · exact UInt32.le_refl _
      · rename_i h
        exact UInt32.not_lt.mp h
    | set key value =>
      show (m.set key value).1.size ≤ (m.set key value).1.maxSizeReachedAtStartup
      unfold CHashMap.set
      split <;> exact hle
    | remove key =>
      have hpos : 1 ≤ m.size := by
        have hne := fun h => hremove key rfl (UInt32.toNat_inj.mp h)
        rw [UInt32.le_iff_toNat_le]
        exact Nat.one_le_iff_ne_zero.mpr hne
      show m.size - 1 ≤ m.maxSizeReachedAtStartup
      rw [UInt32.le_iff_toNat_le] at hle ⊢
      rw [UInt32.toNat_sub_of_le _ _ hpos]
      exact Nat.le_trans (Nat.sub_le _ _) hle
    | get key => exact hle

/-- **Without a `Remove` at counter zero the gate never closes**, on any thread. -/
theorem size_le_max {l : List (Bool × HashMapCall KeyType ValueType)}
    (h : ∀ pre main key, pre ++ [(main, .remove key)] <+: l →
      (run (fun m c => CHashMap.after c.1 m c.2) CHashMap.new pre).size ≠ 0) :
    (run (fun m c => CHashMap.after c.1 m c.2) CHashMap.new l).size ≤
      (run (fun m c => CHashMap.after c.1 m c.2) CHashMap.new l).maxSizeReachedAtStartup := by
  refine run_prefix (motive := fun _ (m : CHashMap KeyType ValueType) =>
    m.size ≤ m.maxSizeReachedAtStartup) (UInt32.le_refl 0) ?_ List.prefix_rfl
  rintro pre ⟨main, call⟩ hpre hle
  refine size_le_max_after hle ?_
  rintro key rfl
  exact h pre main key hpre

/-- The map that `startup` leaves on the main thread keeps, through the calls `later` of other
threads, to the number of keys it had at most: a new key beyond that oopses and changes nothing. -/
structure Capped (startup later : List (HashMapCall KeyType ValueType)) : Prop where
  keys : ∀ pre, pre <+: later → (lateRun startup pre).keyCount ≤ maxKeys CHashMap.new startup
  rejected : ∀ pre key value, pre ++ [.insert key value] <+: later →
    ¬ (lateRun startup pre).contains key = true →
    maxKeys CHashMap.new startup < (lateRun startup pre).keyCount + 1 →
    (lateRun startup pre).call false (.insert key value) = (lateRun startup pre, .oops)

/-- **The map stays within its startup maximum exactly in the runs in which no new key is inserted
at the maximum while the gate stands open.** -/
theorem capped_iff (startup later : List (HashMapCall KeyType ValueType)) :
    Capped startup later ↔ ∀ pre key value, pre ++ [.insert key value] <+: later →
      ¬ (¬ (lateRun startup pre).contains key = true ∧
        (lateRun startup pre).keyCount = maxKeys CHashMap.new startup ∧
        (lateRun startup pre).size ≤ (lateRun startup pre).maxSizeReachedAtStartup) := by
  constructor
  · rintro h pre key value hpre ⟨hkey, hfull, hopen⟩
    have hcall := h.rejected pre key value hpre hkey (Nat.lt_succ_of_le (Nat.le_of_eq hfull.symm))
    have hrejects := rejects_of_oops (congrArg Prod.snd hcall)
    simp only [CHashMap.rejects, Bool.and_eq_true, decide_eq_true_eq] at hrejects
    exact absurd hrejects.2 (UInt32.not_lt.mpr hopen)
  · intro h
    have hgate : ∀ pre key value, pre ++ [.insert key value] <+: later →
        ¬ (lateRun startup pre).contains key = true →
        (lateRun startup pre).keyCount = maxKeys CHashMap.new startup →
        (lateRun startup pre).rejects false (.insert key value) = true := by
      intro pre key value hpre hkey hfull
      have hclosed : (lateRun startup pre).maxSizeReachedAtStartup < (lateRun startup pre).size :=
        UInt32.not_le.mp fun hopen => h pre key value hpre ⟨hkey, hfull, hopen⟩
      simp [CHashMap.rejects, hkey, hclosed]
    have hkeys : ∀ pre, pre <+: later →
        (lateRun startup pre).keyCount ≤ maxKeys CHashMap.new startup := by
      intro pre hpre
      refine run_prefix (motive := fun _ (m : CHashMap KeyType ValueType) =>
        m.keyCount ≤ maxKeys CHashMap.new startup) (keyCount_le_maxKeys startup _) ?_ hpre
      intro pre call hcall hle
      rcases Nat.lt_or_eq_of_le hle with hlt | hfull
      · exact Nat.le_trans (keyCount_after_le_succ false _ call) hlt
      · refine Nat.le_trans (keyCount_after_le ?_) hle
        rintro key value rfl hkey
        exact hgate pre key value hcall hkey hfull
    refine ⟨hkeys, fun pre key value hpre hkey hfull => call_rejects ?_⟩
    have hle := hkeys pre ((List.prefix_append pre [_]).trans hpre)
    exact hgate pre key value hpre hkey (by omega)

/-- One key at startup, a second one later. -/
theorem not_capped_second_key :
    ¬ ∀ startup later : List (HashMapCall Nat Unit), Capped startup later := by
  intro h
  exact absurd ((h [.insert 1 ()] [.insert 2 ()]).keys _ List.prefix_rfl) (by decide)

end Backplane.Utils
