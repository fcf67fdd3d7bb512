import Mathlib.Data.List.AList

/-!
# The hash map

Model of `CHashMap` (`include/f_core/utils/c_hashmap.h`), a wrapper around `std::unordered_map`
with two counters that follow `Insert` and `Remove`, not the contents. The map itself is an
association list without duplicate keys; the order of its entries stands for the unspecified
order of iteration.

Results:
* `keys_set`, `keys_assign`: what is already there may be written, and the keys stay.
* `assign_isOk`: `operator[]` oopses exactly on an absent key.
* `get_set`, `get_assign`: what is read back after a write.
-/

namespace Backplane.Utils

/-- What stops a thread: `k_oops()`, or an access outside an array. -/
inductive Fault
  | kOops | outOfBounds
  deriving DecidableEq

/-- `CHashMap<KeyType, ValueType>`. -/
structure CHashMap (KeyType ValueType : Type) where
  map : AList fun _ : KeyType => ValueType
  size : UInt32
  maxSizeReachedAtStartup : UInt32

variable {KeyType ValueType : Type} [DecidableEq KeyType]

/-- The default constructor. -/
def CHashMap.new : CHashMap KeyType ValueType :=
  { map := ∅, size := 0, maxSizeReachedAtStartup := 0 }

/-- `Contains`. -/
def CHashMap.contains (m : CHashMap KeyType ValueType) (key : KeyType) : Bool :=
  decide (key ∈ m.map)

/-- `Insert`, and whether the key was new. -/
def CHashMap.insert (m : CHashMap KeyType ValueType) (isMainThreadCurrent : Bool) (key : KeyType)
    (value : ValueType) : Except Fault (CHashMap KeyType ValueType × Bool) :=
  if !isMainThreadCurrent && !m.contains key && m.size > m.maxSizeReachedAtStartup then
    .error .kOops
  else
    let size := m.size + 1
    let m := { m with
      size := size
      maxSizeReachedAtStartup :=
        if size > m.maxSizeReachedAtStartup then size else m.maxSizeReachedAtStartup }
    if m.contains key then .ok (m, false)
    else .ok ({ m with map := m.map.insert key value }, true)

/-- `Set`: an absent key is not inserted. -/
def CHashMap.set (m : CHashMap KeyType ValueType) (key : KeyType) (value : ValueType) :
    CHashMap KeyType ValueType × Bool :=
  if m.contains key then ({ m with map := m.map.replace key value }, true) else (m, false)

/-- `Remove`: the counter goes down whether or not the key was there. -/
def CHashMap.remove (m : CHashMap KeyType ValueType) (key : KeyType) :
    CHashMap KeyType ValueType × Bool :=
  ({ m with size := m.size - 1, map := m.map.erase key }, m.contains key)

/-- `Get`. -/
def CHashMap.get (m : CHashMap KeyType ValueType) (key : KeyType) : Option ValueType :=
  m.map.lookup key

/-- `map[key] = value` with `operator[]`. -/
def CHashMap.assign (m : CHashMap KeyType ValueType) (key : KeyType) (value : ValueType) :
    Except Fault (CHashMap KeyType ValueType) :=
  if m.contains key then .ok { m with map := m.map.replace key value } else .error .kOops

theorem keys_set (m : CHashMap KeyType ValueType) (key : KeyType) (value : ValueType) :
    (m.set key value).1.map.keys = m.map.keys := by
  unfold CHashMap.set
  split
  · exact AList.keys_replace key value m.map
  · rfl

theorem keys_assign {m m' : CHashMap KeyType ValueType} {key : KeyType} {value : ValueType}
    (h : m.assign key value = .ok m') : m'.map.keys = m.map.keys := by
  unfold CHashMap.assign at h
  split at h
  · cases h
    exact AList.keys_replace key value m.map
  · cases h

theorem contains_iff (m : CHashMap KeyType ValueType) (key : KeyType) :
    m.contains key = true ↔ key ∈ m.map.keys :=
  decide_eq_true_iff.trans Iff.rfl

/-- **`operator[]` oopses exactly on an absent key.** -/
theorem assign_isOk (m : CHashMap KeyType ValueType) (key : KeyType) (value : ValueType) :
    (∃ m', m.assign key value = .ok m') ↔ key ∈ m.map.keys := by
  unfold CHashMap.assign
  rw [← contains_iff]
  split
  · rename_i h
    exact ⟨fun _ => h, fun _ => ⟨_, rfl⟩⟩
  · rename_i h
    refine ⟨?_, fun hc => absurd hc h⟩
    rintro ⟨m', hm⟩
    cases hm

/-! ## Reading back -/

theorem kreplace_cons (key a : KeyType) (value b : ValueType)
    (l : List (Sigma fun _ : KeyType => ValueType)) :
    List.kreplace key value (⟨a, b⟩ :: l) =
      if key = a then ⟨key, value⟩ :: l else ⟨a, b⟩ :: l.kreplace key value := by
  unfold List.kreplace
  split
  · rename_i h
    exact List.lookmap_cons_some _ _ (by simp [h])
  · rename_i h
    exact List.lookmap_cons_none _ _ (by simp [h])

/-- A lookup after a replacement. -/
theorem dlookup_kreplace (key key' : KeyType) (value : ValueType)
    {l : List (Sigma fun _ : KeyType => ValueType)} (h : key ∈ l.keys) :
    (l.kreplace key value).dlookup key' = if key' = key then some value else l.dlookup key' := by
  induction l with
  | nil => simp at h
  | cons x l ih =>
    obtain ⟨a, b⟩ := x
    rw [kreplace_cons]
    by_cases ha : key = a
    · subst ha
      rw [if_pos rfl]
      by_cases hk : key' = key
      · subst hk
        simp
      · rw [if_neg hk, List.dlookup_cons_ne _ _ hk, List.dlookup_cons_ne _ _ hk]
    · have htail : key ∈ l.keys := by
        rw [List.keys_cons] at h
        exact (List.mem_cons.mp h).resolve_left ha
      rw [if_neg ha]
      by_cases hk : key' = a
      · subst hk
        rw [if_neg (fun h => ha h.symm), List.dlookup_cons_eq, List.dlookup_cons_eq]
      · rw [List.dlookup_cons_ne _ _ hk, List.dlookup_cons_ne _ _ hk]
        exact ih htail

/-- What is there after `Set`. -/
theorem get_set (m : CHashMap KeyType ValueType) (key : KeyType) (value : ValueType)
    (key' : KeyType) : (m.set key value).1.get key' =
      if key' = key ∧ key ∈ m.map.keys then some value else m.get key' := by
  unfold CHashMap.set
  by_cases hkey : m.contains key = true
  · have hmem := (contains_iff m key).mp hkey
    rw [if_pos hkey]
    simp only [hmem, and_true]
    exact dlookup_kreplace key key' value hmem
  · rw [if_neg hkey, if_neg fun h => hkey ((contains_iff m key).mpr h.2)]

/-- What is there after `map[key] = value`. -/
theorem get_assign {m m' : CHashMap KeyType ValueType} {key : KeyType} {value : ValueType}
    (h : m.assign key value = .ok m') (key' : KeyType) :
    m'.get key' = if key' = key then some value else m.get key' := by
  unfold CHashMap.assign at h
  split at h
  · rename_i hkey
    cases h
    exact dlookup_kreplace key key' value ((contains_iff m key).mp hkey)
  · cases h

end Backplane.Utils
