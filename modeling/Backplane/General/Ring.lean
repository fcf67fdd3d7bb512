import Mathlib.Algebra.Order.Ring.Int
import Mathlib.Data.List.Basic

/-!
# Rings of frames

Elements written round a ring of `n` slots, and frames of one width stored end to end. `Slots` is
what a ring holds after a history of writes, `Cursor` where its next write goes, read modulo `n`:
a writer may wrap late and stand one past the last slot.

Results:
* `Slots.place`: one more write.
* `Slots.holds`, `Slots.recent`: every slot holds the last element of its class, so the latest
  `n` elements are all there.
* `overwrite_flatten`: writing a frame at a slot of a file of frames.
-/

namespace Backplane.Ring

variable {α : Type*}

/-! ## The slots -/

/-- `slots` is what a ring of `n` slots holds after `history`: an element is there if no later one
went to its slot. -/
structure Slots (n : Nat) (history slots : List α) : Prop where
  length : slots.length = min history.length n
  last : ∀ i, i < history.length → (∀ j, i < j → j < history.length → j % n ≠ i % n) →
    slots[i % n]? = history[i]?

/-- What the ring holds after one more write, the `m`-th. -/
def place (n m : Nat) (slots : List α) (a : α) : List α :=
  if m < n then slots ++ [a] else slots.set (m % n) a

variable {n : Nat} {history slots : List α}

theorem Slots.nil (n : Nat) : Slots n ([] : List α) [] where
  length := (Nat.zero_min n).symm
  last := fun i hi => absurd hi (Nat.not_lt_zero i)

/-- **One more write.** -/
theorem Slots.place (hn : 0 < n) (h : Slots n history slots) (a : α) :
    Slots n (history ++ [a]) (place n history.length slots a) := by
  have hlength := h.length
  constructor
  · unfold Ring.place
    split
    · rw [List.length_append, List.length_append, hlength]
      simp only [List.length_singleton]
      omega
    · rw [List.length_set, List.length_append, hlength]
      simp only [List.length_singleton]
      omega
  · intro i hi hlast
    rw [List.length_append, List.length_singleton] at hi hlast
    rcases Nat.lt_or_eq_of_le (Nat.le_of_lt_succ hi) with hlt | rfl
    · have hold := h.last i hlt fun j hij hj => hlast j hij (Nat.lt_succ_of_lt hj)
      have hne := hlast history.length hlt (Nat.lt_succ_self _)
      have hslot : i % n < slots.length := by
        by_contra hout
        rw [List.getElem?_eq_none (Nat.le_of_not_lt hout), List.getElem?_eq_getElem hlt] at hold
        cases hold
      rw [List.getElem?_append_left hlt, ← hold]
      unfold Ring.place
      split
      · exact List.getElem?_append_left hslot
      · exact List.getElem?_set_ne hne
    · rw [List.getElem?_concat_length]
      unfold Ring.place
      split
      · rename_i hfree
        rw [Nat.mod_eq_of_lt hfree, show history.length = slots.length by omega]
        exact List.getElem?_concat_length
      · rename_i hfull
        have hslot : history.length % n < slots.length := by
          have hmod := Nat.mod_lt history.length hn
          omega
        exact List.getElem?_set_self hslot

/-- The slot of the next write is one that is there, or the next one behind them. -/
theorem Slots.mod_le_length (hn : 0 < n) (h : Slots n history slots) :
    history.length % n ≤ slots.length := by
  rw [h.length]
  exact Nat.le_min.mpr ⟨Nat.mod_le _ _, Nat.le_of_lt (Nat.mod_lt _ hn)⟩

theorem Slots.place_eq (hn : 0 < n) (h : Slots n history slots) (a : α) :
    Ring.place n history.length slots a =
      if history.length % n = slots.length then slots ++ [a]
      else slots.set (history.length % n) a := by
  have hlen := h.length
  have hmod := Nat.mod_lt history.length hn
  unfold Ring.place
  by_cases hfree : history.length < n
  · rw [if_pos hfree, if_pos (by rw [Nat.mod_eq_of_lt hfree]; omega)]
  · rw [if_neg hfree, if_neg (by omega)]

/-- Every class of indices that has begun has a last one. -/
theorem exists_last {n m k : Nat} (hk : k < n) (hm : k < m) :
    ∃ i, i < m ∧ i % n = k ∧ ∀ j, i < j → j < m → j % n ≠ k := by
  induction m with
  | zero => exact absurd hm (Nat.not_lt_zero k)
  | succ m ih =>
    by_cases hlast : m % n = k
    · exact ⟨m, Nat.lt_succ_self m, hlast, fun j hj hj' => by omega⟩
    · have hkm : k < m := by
        rcases Nat.lt_or_eq_of_le (Nat.le_of_lt_succ hm) with hlt | rfl
        · exact hlt
        · exact absurd (Nat.mod_eq_of_lt hk) hlast
      obtain ⟨i, hi, hik, hnone⟩ := ih hkm
      refine ⟨i, Nat.lt_succ_of_lt hi, hik, fun j hij hj => ?_⟩
      rcases Nat.lt_or_eq_of_le (Nat.le_of_lt_succ hj) with hlt | rfl
      · exact hnone j hij hlt
      · exact hlast

/-- **A slot holds the last element whose index is congruent to it.** -/
theorem Slots.holds (h : Slots n history slots) {k : Nat} (hk : k < min history.length n) :
    ∃ i, i < history.length ∧ i % n = k ∧ (∀ j, i < j → j < history.length → j % n ≠ k) ∧
      slots[k]? = history[i]? := by
  obtain ⟨i, hi, rfl, hlast⟩ := exists_last (Nat.lt_of_lt_of_le hk (Nat.min_le_right _ _))
    (Nat.lt_of_lt_of_le hk (Nat.min_le_left _ _))
  exact ⟨i, hi, rfl, hlast, h.last i hi hlast⟩

/-- **The latest `n` elements are all there.** -/
theorem Slots.recent (h : Slots n history slots) {j : Nat} (hj : j < history.length)
    (hrecent : history.length ≤ j + n) : slots[j % n]? = history[j]? := by
  refine h.last j hj fun i hij hi hmod => ?_
  have hzero := Nat.sub_mod_eq_zero_of_mod_eq hmod
  rw [Nat.mod_eq_of_lt (by omega)] at hzero
  omega

/-! ## The cursor -/

/-- `c` is a place of the next write, the `m`-th: its slot, or one past the last slot. -/
structure Cursor (n m c : Nat) : Prop where
  le : c ≤ n
  reached : c ≤ m
  mod : c % n = m % n

theorem Cursor.zero (n : Nat) : Cursor n 0 0 := ⟨Nat.zero_le n, Nat.le_refl 0, rfl⟩

/-- **The late wrap**: the slot that is written. -/
theorem Cursor.wrap {m c : Nat} (h : Cursor n m c) : (if n ≤ c then 0 else c) = m % n := by
  split
  · rename_i hc
    rw [← h.mod, Nat.le_antisymm h.le hc, Nat.mod_self]
  · rename_i hc
    rw [← h.mod, Nat.mod_eq_of_lt (Nat.lt_of_not_le hc)]

theorem Cursor.next (hn : 0 < n) (m : Nat) : Cursor n (m + 1) (m % n + 1) :=
  ⟨Nat.mod_lt m hn, Nat.succ_le_succ (Nat.mod_le m n), Nat.mod_add_mod m n 1⟩

/-! ## Frames -/

/-- Writing `data` over `content` at `pos`; a gap is filled with `pad`. -/
def overwrite (pad : α) (content : List α) (pos : Nat) (data : List α) : List α :=
  content.take pos ++ List.replicate (pos - content.length) pad ++ data ++
    content.drop (pos + data.length)

theorem length_overwrite (pad : α) (content : List α) (pos : Nat) (data : List α) :
    (overwrite pad content pos data).length = max content.length (pos + data.length) := by
  unfold overwrite
  simp only [List.length_append, List.length_take, List.length_replicate, List.length_drop]
  omega

/-- What was written is there. -/
theorem take_drop_overwrite (pad : α) (content : List α) (pos : Nat) (data : List α) :
    ((overwrite pad content pos data).drop pos).take data.length = data := by
  have hfront : (content.take pos ++ List.replicate (pos - content.length) pad).length = pos := by
    rw [List.length_append, List.length_take, List.length_replicate]
    omega
  unfold overwrite
  rw [List.append_assoc, List.drop_left' hfront, List.take_left' rfl]

variable {w : Nat} {frames : List (List α)}

theorem length_flatten_frames (h : ∀ f ∈ frames, f.length = w) :
    frames.flatten.length = frames.length * w := by
  induction frames with
  | nil => simp
  | cons f frames ih =>
    rw [List.flatten_cons, List.length_append, h f List.mem_cons_self,
      ih fun g hg => h g (List.mem_cons_of_mem f hg), List.length_cons, Nat.succ_mul, Nat.add_comm]

/-- A frame of a file of frames. -/
theorem take_drop_flatten (h : ∀ f ∈ frames, f.length = w) {i : Nat} (hi : i < frames.length) :
    (frames.flatten.drop (i * w)).take w = frames[i] := by
  induction frames generalizing i with
  | nil => exact absurd hi (Nat.not_lt_zero i)
  | cons f frames ih =>
    have hf := h f List.mem_cons_self
    cases i with
    | zero => rw [Nat.zero_mul, List.drop_zero, List.flatten_cons, List.take_left' hf]; rfl
    | succ i =>
      rw [List.flatten_cons, Nat.succ_mul, Nat.add_comm, ← List.drop_drop, List.drop_left' hf]
      exact ih (fun g hg => h g (List.mem_cons_of_mem f hg)) (Nat.lt_of_succ_lt_succ hi)

/-- Writing inside leaves what stands before and behind. -/
theorem overwrite_append (pad : α) (front rest data : List α) :
    overwrite pad (front ++ rest) front.length data = front ++ data ++ rest.drop data.length := by
  unfold overwrite
  rw [List.take_left' rfl, ← List.drop_drop, List.drop_left' rfl,
    Nat.sub_eq_zero_of_le (by rw [List.length_append]; exact Nat.le_add_right _ _),
    List.replicate_zero, List.append_nil]

theorem overwrite_end (pad : α) (content data : List α) :
    overwrite pad content content.length data = content ++ data := by
  have h := overwrite_append pad content [] data
  rwa [List.append_nil, List.drop_nil, List.append_nil] at h

/-- **A frame written at a slot**, or behind the last one. -/
theorem overwrite_flatten (pad : α) (h : ∀ f ∈ frames, f.length = w) {i : Nat}
    {f : List α} (hf : f.length = w) (hi : i ≤ frames.length) :
    overwrite pad frames.flatten (i * w) f =
      (if i = frames.length then frames ++ [f] else frames.set i f).flatten := by
  split
  · rename_i hend
    rw [hend, ← length_flatten_frames h, overwrite_end, List.flatten_append, List.flatten_singleton]
  · rename_i hne
    have hlt : i < frames.length := Nat.lt_of_le_of_ne hi hne
    have hsplit : frames = frames.take i ++ frames[i] :: frames.drop (i + 1) := by
      rw [← List.drop_eq_getElem_cons hlt, List.take_append_drop]
    have hfront : (frames.take i).flatten.length = i * w := by
      rw [length_flatten_frames fun g hg => h g (List.mem_of_mem_take hg),
        List.length_take_of_le hi]
    have hold : f.length = frames[i].length := hf.trans (h _ (List.getElem_mem hlt)).symm
    rw [List.set_eq_take_append_cons_drop, if_pos hlt]
    conv_lhs => rw [hsplit]
    rw [List.flatten_append, List.flatten_cons, List.flatten_append, List.flatten_cons, ← hfront,
      overwrite_append, List.drop_left' hold.symm, List.append_assoc]

end Backplane.Ring
