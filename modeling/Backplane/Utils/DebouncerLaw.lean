import Backplane.Utils.Debouncer

/-!
# The law of the debouncer

What `Passed` is meant to say, for a millisecond clock that does not go back and is read modulo
`2 ^ 32`: the current run of passing samples, from its first to its last, is longer than the
duration. The two timestamps of the debouncer are `NOT_PASSED` before they are set, which is also
the stamp that the clock has once every `2 ^ 32` ms.

`passed_law_iff`: the law holds except for runs long enough to pass whose last sample has that
stamp, or which are long enough only by their first samples, that have it.
-/

namespace Backplane.Utils

variable {direction : ThresholdDirection} {Scalar : Type} [LT Scalar] [DecidableLT Scalar]

/-- The clock as the debouncer reads it. -/
def stamp (call : Nat × Scalar) : UInt32 := UInt32.ofNat call.1

/-- Feed the calls `(clock, value)` in order. -/
def CDebouncer.feedCalls (d : CDebouncer direction Scalar) (calls : List (Nat × Scalar)) :
    CDebouncer direction Scalar :=
  d.feedAll (calls.map fun call => (stamp call, call.2))

/-- The current run of passing samples: the maximal suffix of them. -/
def CDebouncer.currentRun (d : CDebouncer direction Scalar) (calls : List (Nat × Scalar)) :
    List (Nat × Scalar) :=
  calls.rtakeWhile fun call => d.passesOne call.2

/-- The last sample passes, and the run that it ends is longer than the duration. -/
def CDebouncer.LongRun (d : CDebouncer direction Scalar) (calls : List (Nat × Scalar)) : Prop :=
  ∃ first last, (d.currentRun calls).head? = some first ∧
    (d.currentRun calls).getLast? = some last ∧ d.duration < stamp last - stamp first

/-- A run that is longer than the duration does not end in the sentinel, and is so without the
samples that have it for a stamp. -/
def CDebouncer.SentinelHarmless (d : CDebouncer direction Scalar) (calls : List (Nat × Scalar)) :
    Prop :=
  d.LongRun calls → ∃ last, (d.currentRun calls).getLast? = some last ∧ stamp last ≠ NOT_PASSED ∧
    ∃ call ∈ d.currentRun calls, stamp call ≠ NOT_PASSED ∧ d.duration < stamp last - stamp call

omit [LT Scalar] [DecidableLT Scalar] in
/-- Differences of clock values, less than a wrap apart. -/
theorem toNat_stamp_sub {x y : Nat × Scalar} (hle : x.1 ≤ y.1) (hlt : y.1 - x.1 < 2 ^ 32) :
    (stamp y - stamp x).toNat = y.1 - x.1 := by
  unfold stamp
  rw [UInt32.toNat_sub, UInt32.toNat_ofNat', UInt32.toNat_ofNat']
  omega

theorem passing_calls (d : CDebouncer direction Scalar) (calls : List (Nat × Scalar)) :
    (d.passing (calls.map fun call => (stamp call, call.2))).map Prod.fst =
      (d.currentRun calls).map stamp := by
  unfold CDebouncer.passing CDebouncer.currentRun List.rtakeWhile
  rw [← List.map_reverse, List.takeWhile_map, ← List.map_reverse, List.map_map]
  rfl

/-- What `Passed` says of a run: its first stamp that is not the sentinel counts. -/
theorem passed_feedCalls_iff {d : CDebouncer direction Scalar} (hd : d.Fresh)
    (calls : List (Nat × Scalar)) :
    (d.feedCalls calls).passed = true ↔ ∃ first last,
      (d.currentRun calls).find? (fun call => stamp call != NOT_PASSED) = some first ∧
      (d.currentRun calls).getLast? = some last ∧ stamp last ≠ NOT_PASSED ∧
      d.duration < stamp last - stamp first := by
  unfold CDebouncer.feedCalls
  rw [passed_feedAll_iff hd, passing_calls, List.find?_map, List.getLast?_map]
  constructor
  · rintro ⟨_, _, hfirst, hlast, hne, hlong⟩
    obtain ⟨first, hfind, rfl⟩ := Option.map_eq_some_iff.mp hfirst
    obtain ⟨last, hget, rfl⟩ := Option.map_eq_some_iff.mp hlast
    exact ⟨first, last, hfind, hget, hne, hlong⟩
  · rintro ⟨first, last, hfind, hget, hne, hlong⟩
    exact ⟨stamp first, stamp last, Option.map_eq_some_iff.mpr ⟨first, hfind, rfl⟩,
      Option.map_eq_some_iff.mpr ⟨last, hget, rfl⟩, hne, hlong⟩

/-! ## A clock that does not go back -/

section Clock

variable {d : CDebouncer direction Scalar} {calls : List (Nat × Scalar)}

theorem sorted_currentRun (hclock : calls.Pairwise fun x y => x.1 ≤ y.1) :
    (d.currentRun calls).Pairwise fun x y => x.1 ≤ y.1 :=
  hclock.sublist (List.rtakeWhile_suffix _ calls).sublist

/-- No sample of the run is older than its first. -/
theorem head_le (hclock : calls.Pairwise fun x y => x.1 ≤ y.1) {first call : Nat × Scalar}
    (hfirst : (d.currentRun calls).head? = some first) (hcall : call ∈ d.currentRun calls) :
    first.1 ≤ call.1 := by
  have hsorted := sorted_currentRun (d := d) hclock
  obtain ⟨rest, hrest⟩ := List.head?_eq_some_iff.mp hfirst
  rw [hrest] at hsorted hcall
  rcases List.mem_cons.mp hcall with rfl | hmem
  · exact Nat.le_refl _
  · exact (List.pairwise_cons.mp hsorted).1 call hmem

/-- None is younger than its last. -/
theorem le_getLast (hclock : calls.Pairwise fun x y => x.1 ≤ y.1) {last call : Nat × Scalar}
    (hlast : (d.currentRun calls).getLast? = some last) (hcall : call ∈ d.currentRun calls) :
    call.1 ≤ last.1 := by
  have hsorted := sorted_currentRun (d := d) hclock
  obtain ⟨front, hfront⟩ := List.getLast?_eq_some_iff.mp hlast
  rw [hfront] at hsorted hcall
  rcases List.mem_append.mp hcall with hmem | hmem
  · exact (List.pairwise_append.mp hsorted).2.2 call hmem last (List.mem_singleton_self last)
  · rw [List.mem_singleton.mp hmem]

/-- The first sample that does not have the sentinel is no younger than any other such. -/
theorem find_le (hclock : calls.Pairwise fun x y => x.1 ≤ y.1) {first call : Nat × Scalar}
    (hfind : (d.currentRun calls).find? (fun call => stamp call != NOT_PASSED) = some first)
    (hcall : call ∈ d.currentRun calls) (hne : stamp call ≠ NOT_PASSED) : first.1 ≤ call.1 := by
  have hsorted := sorted_currentRun (d := d) hclock
  obtain ⟨-, skipped, rest, hrun, hskipped⟩ := List.find?_eq_some_iff_append.mp hfind
  rw [hrun] at hcall hsorted
  rcases List.mem_append.mp hcall with hmem | hmem
  · exact absurd (hskipped call hmem) (by simpa using hne)
  · rcases List.mem_cons.mp hmem with rfl | hmem
    · exact Nat.le_refl _
    · exact (List.pairwise_cons.mp (List.pairwise_append.mp hsorted).2.1).1 call hmem

/-- The older a sample of the run, the longer ago. -/
theorem span_anti (hclock : calls.Pairwise fun x y => x.1 ≤ y.1)
    (hspan : ∀ first last, (d.currentRun calls).head? = some first →
      (d.currentRun calls).getLast? = some last → last.1 - first.1 < 2 ^ 32)
    {x y last : Nat × Scalar} (hx : x ∈ d.currentRun calls) (hy : y ∈ d.currentRun calls)
    (hlast : (d.currentRun calls).getLast? = some last) (hle : x.1 ≤ y.1) :
    stamp last - stamp y ≤ stamp last - stamp x := by
  have hhead := List.head?_eq_some_head (List.ne_nil_of_mem hx)
  have hwrap := hspan _ _ hhead hlast
  have hfirst := head_le hclock hhead hx
  have hxlast := le_getLast hclock hlast hx
  have hylast := le_getLast hclock hlast hy
  rw [UInt32.le_iff_toNat_le, toNat_stamp_sub hylast (by omega), toNat_stamp_sub hxlast (by omega)]
  omega

/-- **The law of the debouncer**: it has passed iff its run is longer than the duration. That is so
iff the sentinel does no harm. -/
theorem passed_law_iff (duration : UInt32) (target_value : Scalar)
    {calls : List (Nat × Scalar)} (hclock : calls.Pairwise fun x y => x.1 ≤ y.1) :
    let d : CDebouncer direction Scalar := { duration := duration, target_value := target_value }
    (∀ first last, (d.currentRun calls).head? = some first →
      (d.currentRun calls).getLast? = some last → last.1 - first.1 < 2 ^ 32) →
    (((d.feedCalls calls).passed = true ↔ d.LongRun calls) ↔ d.SentinelHarmless calls) := by
  intro d hspan
  have hd : d.Fresh := ⟨rfl, rfl⟩
  constructor
  · intro hlaw hlong
    obtain ⟨first, last, hfind, hlast, hne, hpassed⟩ := (passed_feedCalls_iff hd calls).mp
      (hlaw.mpr hlong)
    exact ⟨last, hlast, hne, first, List.mem_of_find?_eq_some hfind,
      by simpa using List.find?_some hfind, hpassed⟩
  · intro hharmless
    rw [passed_feedCalls_iff hd]
    constructor
    · -- the run is at least as long as what the debouncer measures
      rintro ⟨call, last, hfind, hlast, -, hpassed⟩
      have hmem := List.mem_of_find?_eq_some hfind
      have hhead := List.head?_eq_some_head (List.ne_nil_of_mem hmem)
      have hlonger := span_anti hclock hspan (List.mem_of_head? hhead) hmem hlast
        (head_le hclock hhead hmem)
      exact ⟨_, last, hhead, hlast, UInt32.lt_of_lt_of_le hpassed hlonger⟩
    · -- what it measures starts at `call` or before it
      intro hlong
      obtain ⟨last, hlast, hne, call, hcall, hcallne, hcalllong⟩ := hharmless hlong
      obtain ⟨first, hfind⟩ : ∃ first, (d.currentRun calls).find?
          (fun call => stamp call != NOT_PASSED) = some first :=
        Option.isSome_iff_exists.mp (List.find?_isSome.mpr ⟨call, hcall, by simpa using hcallne⟩)
      have hlonger := span_anti hclock hspan (List.mem_of_find?_eq_some hfind) hcall hlast
        (find_le hclock hfind hcall hcallne)
      exact ⟨first, last, hfind, hlast, hne, UInt32.lt_of_lt_of_le hcalllong hlonger⟩

end Clock

/-- A run of 4 ms and a duration of 3. -/
theorem passed_law_short :
    (({ duration := 3, target_value := 0 } : CDebouncer .over Int).feedCalls
        [(2, 0), (5, 7), (9, 7)]).passed = true ↔
      ({ duration := 3, target_value := 0 } : CDebouncer .over Int).LongRun
        [(2, 0), (5, 7), (9, 7)] := by
  have hrun : ({ duration := 3, target_value := 0 } : CDebouncer .over Int).currentRun
      [(2, 0), (5, 7), (9, 7)] = [(5, 7), (9, 7)] := by decide
  refine (passed_law_iff 3 0 (by decide) ?_).mpr fun _ =>
    ⟨(9, 7), by decide, by decide, (5, 7), by decide, by decide, by decide⟩
  intro first last hfirst hlast
  rw [hrun] at hfirst hlast
  cases hfirst
  cases hlast
  decide

/-- A run that starts at `0xFFFFFFFF` ms and lasts 1 ms: the debouncer takes its second sample for
the first. -/
theorem not_passed_law_sentinel :
    ¬ ((({ duration := 0, target_value := 0 } : CDebouncer .over Int).feedCalls
        [(0xFFFFFFFF, 7), (0x100000000, 7)]).passed = true ↔
      ({ duration := 0, target_value := 0 } : CDebouncer .over Int).LongRun
        [(0xFFFFFFFF, 7), (0x100000000, 7)]) := by
  intro hlaw
  have hlong : ({ duration := 0, target_value := 0 } : CDebouncer .over Int).LongRun
      [(0xFFFFFFFF, 7), (0x100000000, 7)] :=
    ⟨(0xFFFFFFFF, 7), (0x100000000, 7), by decide, by decide, by decide⟩
  exact absurd (hlaw.mpr hlong) (by decide)

end Backplane.Utils
