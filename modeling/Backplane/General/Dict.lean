import Mathlib.Data.List.Nodup

/-!
# Dictionaries of two levels

A dictionary is a list of keys and values. In one of two levels every row has a name of its own and
a dictionary under it, and no name stands twice in the whole, neither as the name of a row nor under
one.

Results:
* `lookup_of_mem`: an entry is found.
* `lookup_row`, `lookup_name`: the rows are found under their names, and under no other name.
* `lookup_own`: no row has an entry of its own name.
-/

namespace Backplane.Dict

variable {κ ν : Type*} [DecidableEq κ]

/-- An entry of a dictionary without duplicates is found. -/
theorem lookup_of_mem {l : List (κ × ν)} (hl : (l.map Prod.fst).Nodup) {p : κ × ν} (hp : p ∈ l) :
    l.lookup p.1 = some p.2 := by
  induction l with
  | nil => exact absurd hp List.not_mem_nil
  | cons q l ih =>
    rw [List.map_cons, List.nodup_cons] at hl
    rw [List.lookup_cons]
    rcases List.mem_cons.mp hp with rfl | hp
    · simp
    · have hne : p.1 ≠ q.1 := fun heq => hl.1 (heq ▸ List.mem_map_of_mem hp)
      rw [beq_false_of_ne hne]
      exact ih hl.2 hp

theorem lookup_of_not_mem {l : List (κ × ν)} {k : κ} (h : k ∉ l.map Prod.fst) :
    l.lookup k = none := by
  rw [List.lookup_eq_none_iff]
  intro p hp
  have hne : k ≠ p.1 := fun heq => h (heq ▸ List.mem_map_of_mem hp)
  simpa using hne

/-- All names. -/
def names (rows : List (κ × List (κ × ν))) : List κ :=
  rows.flatMap fun row => row.1 :: row.2.map Prod.fst

/-- The row of every name under one. -/
def toBase (rows : List (κ × List (κ × ν))) : List (κ × κ) :=
  rows.flatMap fun row => row.2.map fun p => (p.1, row.1)

section
variable {rows : List (κ × List (κ × ν))}

omit [DecidableEq κ] in
theorem names_perm : (names rows).Perm (rows.map Prod.fst ++ (toBase rows).map Prod.fst) := by
  induction rows with
  | nil => exact .refl _
  | cons row rows ih =>
    have hbase : (toBase (row :: rows)).map Prod.fst =
        row.2.map Prod.fst ++ (toBase rows).map Prod.fst := by
      rw [toBase, List.flatMap_cons, List.map_append, List.map_map]
      rfl
    rw [hbase, names, List.flatMap_cons, List.map_cons, List.cons_append, List.cons_append]
    refine .cons _ ?_
    rw [← List.append_assoc]
    refine ((List.perm_append_left_iff _).mpr ih).trans ?_
    rw [← List.append_assoc]
    exact (List.perm_append_right_iff _).mpr List.perm_append_comm

variable (h : (names rows).Nodup) {row : κ × List (κ × ν)} (hrow : row ∈ rows)
include h hrow

/-- **A row** is found under its name. -/
theorem lookup_row : rows.lookup row.1 = some row.2 :=
  lookup_of_mem (names_perm.nodup_iff.mp h).of_append_left hrow

/-- **A name under a row** is not the name of a row, is under no other, and has its own value. -/
theorem lookup_name {p : κ × ν} (hp : p ∈ row.2) :
    p.1 ∉ rows.map Prod.fst ∧ (toBase rows).lookup p.1 = some row.1 ∧
      row.2.lookup p.1 = some p.2 := by
  have hparts := names_perm.nodup_iff.mp h
  have hmem : (p.1, row.1) ∈ toBase rows :=
    List.mem_flatMap.mpr ⟨row, hrow, List.mem_map.mpr ⟨p, hp, rfl⟩⟩
  refine ⟨fun hname => ?_, lookup_of_mem hparts.of_append_right hmem, ?_⟩
  · exact List.disjoint_of_nodup_append hparts hname (List.mem_map_of_mem hmem)
  · refine lookup_of_mem ?_ hp
    have hsub := List.nodup_flatMap.mp h |>.1 row hrow
    exact (List.nodup_cons.mp hsub).2

/-- **The name of a row** is not under it. -/
theorem lookup_own : row.2.lookup row.1 = none :=
  lookup_of_not_mem (List.nodup_cons.mp ((List.nodup_flatMap.mp h).1 row hrow)).1

end

end Backplane.Dict
