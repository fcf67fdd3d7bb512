import Backplane.General.Run
import Mathlib.Algebra.Order.Ring.Int
import Mathlib.Data.List.DropRight

/-!
# The debouncer

Model of `CDebouncer` (`include/f_core/utils/debouncer.hpp`) with its default
`Timestamp = uint32_t`, for either direction and any scalar with a decidable order.

Results:
* `firstTimePassed_feedAll`, `lastTimePassed_feedAll`: after any samples, the two timestamps are
  read off the maximal suffix of passing samples. A passing sample stamped with the sentinel
  `NOT_PASSED` does not set `firstTimePassed`.
* `passed_feedAll_iff`: whether it has passed is read off the stamps of that suffix.
* `passed_span`: a debouncer that passed was fed passing samples only over a span longer than its
  duration, as long as no sample bears the sentinel.
* `passed_iff_span`: with a clock that does not go back, it has passed exactly then;
  `passed_calls_iff` is about calls with 64-bit uptimes.
-/

namespace Backplane.Utils

open Backplane.Run

/-- `ThresholdDirection`. -/
inductive ThresholdDirection
  | over | under
  deriving DecidableEq

/-- `NOT_PASSED = (Timestamp) ~0`. -/
def NOT_PASSED : UInt32 := 0xFFFFFFFF

/-- `CDebouncer<direction, Scalar>`. -/
structure CDebouncer (direction : ThresholdDirection) (Scalar : Type) where
  duration : UInt32
  target_value : Scalar
  firstTimePassed : UInt32 := NOT_PASSED
  lastTimePassed : UInt32 := NOT_PASSED

variable {direction : ThresholdDirection} {Scalar : Type} [LT Scalar] [DecidableLT Scalar]

/-- `passesOne`. -/
def CDebouncer.passesOne (d : CDebouncer direction Scalar) (new_value : Scalar) : Bool :=
  if direction = .over then decide (new_value > d.target_value)
  else decide (new_value < d.target_value)

/-- `Feed`. -/
def CDebouncer.feed (d : CDebouncer direction Scalar) (t : UInt32) (new_value : Scalar) :
    CDebouncer direction Scalar :=
  if d.passesOne new_value then
    { d with
      lastTimePassed := t
      firstTimePassed := if d.firstTimePassed == NOT_PASSED then t else d.firstTimePassed }
  else { d with firstTimePassed := NOT_PASSED, lastTimePassed := NOT_PASSED }

omit [LT Scalar] [DecidableLT Scalar] in
/-- `Passed`. -/
def CDebouncer.passed (d : CDebouncer direction Scalar) : Bool :=
  if d.firstTimePassed == NOT_PASSED || d.lastTimePassed == NOT_PASSED then false
  else decide (d.lastTimePassed - d.firstTimePassed > d.duration)

/-- Feed samples `(t, value)` in order. -/
def CDebouncer.feedAll (d : CDebouncer direction Scalar) (l : List (UInt32 × Scalar)) :
    CDebouncer direction Scalar :=
  run (fun d x => d.feed x.1 x.2) d l

@[simp] theorem feed_duration (d : CDebouncer direction Scalar) (t : UInt32) (v : Scalar) :
    (d.feed t v).duration = d.duration := by
  unfold CDebouncer.feed; split <;> rfl

@[simp] theorem feed_target_value (d : CDebouncer direction Scalar) (t : UInt32) (v : Scalar) :
    (d.feed t v).target_value = d.target_value := by
  unfold CDebouncer.feed; split <;> rfl

theorem feedAll_snoc (d : CDebouncer direction Scalar) (l : List (UInt32 × Scalar)) (t : UInt32)
    (v : Scalar) : d.feedAll (l ++ [(t, v)]) = (d.feedAll l).feed t v :=
  run_snoc l (t, v)

theorem feedAll_duration (d : CDebouncer direction Scalar) (l : List (UInt32 × Scalar)) :
    (d.feedAll l).duration = d.duration :=
  run_preserves (P := fun d' : CDebouncer direction Scalar => d'.duration = d.duration)
    (fun d' x h => (feed_duration d' x.1 x.2).trans h) l rfl

theorem feedAll_target_value (d : CDebouncer direction Scalar) (l : List (UInt32 × Scalar)) :
    (d.feedAll l).target_value = d.target_value :=
  run_preserves (P := fun d' : CDebouncer direction Scalar => d'.target_value = d.target_value)
    (fun d' x h => (feed_target_value d' x.1 x.2).trans h) l rfl

/-- What passes depends on the target only. -/
theorem feedAll_passesOne (d : CDebouncer direction Scalar) (l : List (UInt32 × Scalar))
    (v : Scalar) : (d.feedAll l).passesOne v = d.passesOne v := by
  unfold CDebouncer.passesOne
  rw [feedAll_target_value]

/-! ## The maximal passing suffix -/

/-- The samples of the current run of passing samples. -/
def CDebouncer.passing (d : CDebouncer direction Scalar) (l : List (UInt32 × Scalar)) :
    List (UInt32 × Scalar) :=
  l.rtakeWhile fun x => d.passesOne x.2

theorem passing_snoc_pos {d : CDebouncer direction Scalar} (l : List (UInt32 × Scalar))
    (t : UInt32) {v : Scalar} (h : d.passesOne v = true) :
    d.passing (l ++ [(t, v)]) = d.passing l ++ [(t, v)] :=
  List.rtakeWhile_concat_pos (fun x : UInt32 × Scalar => d.passesOne x.2) l (t, v) h

theorem passing_snoc_neg {d : CDebouncer direction Scalar} (l : List (UInt32 × Scalar))
    (t : UInt32) {v : Scalar} (h : ¬ d.passesOne v = true) : d.passing (l ++ [(t, v)]) = [] :=
  List.rtakeWhile_concat_neg (fun x : UInt32 × Scalar => d.passesOne x.2) l (t, v) h

theorem passesOne_of_mem_passing {d : CDebouncer direction Scalar}
    {l : List (UInt32 × Scalar)} {x : UInt32 × Scalar} (h : x ∈ d.passing l) :
    d.passesOne x.2 = true := by
  unfold CDebouncer.passing at h
  have hx := List.mem_rtakeWhile_imp h
  exact hx

/-- A debouncer as its constructor leaves it. -/
def CDebouncer.Fresh (d : CDebouncer direction Scalar) : Prop :=
  d.firstTimePassed = NOT_PASSED ∧ d.lastTimePassed = NOT_PASSED

theorem firstTimePassed_feedAll {d : CDebouncer direction Scalar} (hd : d.Fresh)
    (l : List (UInt32 × Scalar)) :
    (d.feedAll l).firstTimePassed =
      ((((d.passing l).map Prod.fst).find? (· != NOT_PASSED)).getD NOT_PASSED) := by
  induction l using List.reverseRecOn with
  | nil => exact hd.1
  | append_singleton l x ih =>
    obtain ⟨t, v⟩ := x
    rw [feedAll_snoc]
    unfold CDebouncer.feed
    rw [feedAll_passesOne]
    split
    · rename_i hp
      rw [passing_snoc_pos l t hp, List.map_append, List.find?_append]
      simp only [ih]
      cases hf : ((d.passing l).map Prod.fst).find? (· != NOT_PASSED) with
      | none =>
        by_cases ht : t = NOT_PASSED
        · subst ht; simp
        · simp [ht]
      | some u =>
        have hu : u ≠ NOT_PASSED := by simpa using List.find?_some hf
        simp [hu]
    · rename_i hp
      rw [passing_snoc_neg l t hp]
      rfl

theorem lastTimePassed_feedAll {d : CDebouncer direction Scalar} (hd : d.Fresh)
    (l : List (UInt32 × Scalar)) :
    (d.feedAll l).lastTimePassed = (((d.passing l).map Prod.fst).getLast?).getD NOT_PASSED := by
  induction l using List.reverseRecOn with
  | nil => exact hd.2
  | append_singleton l x _ =>
    obtain ⟨t, v⟩ := x
    rw [feedAll_snoc]
    unfold CDebouncer.feed
    rw [feedAll_passesOne]
    split
    · rename_i hp
      rw [passing_snoc_pos l t hp, List.map_append]
      simp
    · rename_i hp
      rw [passing_snoc_neg l t hp]
      rfl

/-- **A debouncer has passed** iff the stamps of its current run of passing samples say so: the
first that is not the sentinel, and the last, which must not be it either. -/
theorem passed_feedAll_iff {d : CDebouncer direction Scalar} (hd : d.Fresh)
    (l : List (UInt32 × Scalar)) :
    (d.feedAll l).passed = true ↔ ∃ first last,
      ((d.passing l).map Prod.fst).find? (· != NOT_PASSED) = some first ∧
      ((d.passing l).map Prod.fst).getLast? = some last ∧ last ≠ NOT_PASSED ∧
      d.duration < last - first := by
  have hsome : ∀ first, ((d.passing l).map Prod.fst).find? (· != NOT_PASSED) = some first →
      first ≠ NOT_PASSED := fun first hf => by simpa using List.find?_some hf
  unfold CDebouncer.passed
  rw [firstTimePassed_feedAll hd, lastTimePassed_feedAll hd, feedAll_duration]
  cases hf : ((d.passing l).map Prod.fst).find? (· != NOT_PASSED) with
  | none => simp
  | some first =>
    have hne := hsome first hf
    cases hl : ((d.passing l).map Prod.fst).getLast? with
    | none => simp
    | some last =>
      by_cases hlast : last = NOT_PASSED
      · simp [hlast]
      · simp [hne, hlast]

/-- **A debouncer that passed** was fed nothing but passing samples over a span longer than its
duration: the span starts at `first`, `last` is its last sample. -/
theorem passed_span {d : CDebouncer direction Scalar} (hd : d.Fresh)
    {l : List (UInt32 × Scalar)} (hl : ∀ x ∈ l, x.1 ≠ NOT_PASSED)
    (h : (d.feedAll l).passed = true) :
    ∃ pre first span last, l = pre ++ first :: span ∧ (first :: span).getLast? = some last ∧
      (∀ x ∈ first :: span, d.passesOne x.2 = true) ∧ d.duration < last.1 - first.1 := by
  have hsuffix : d.passing l <:+ l := List.rtakeWhile_suffix _ l
  obtain ⟨pre, hpre⟩ := hsuffix
  unfold CDebouncer.passed at h
  rw [firstTimePassed_feedAll hd, lastTimePassed_feedAll hd, feedAll_duration] at h
  cases hp : d.passing l with
  | nil => rw [hp] at h; simp at h
  | cons first span =>
    rw [hp] at h hpre
    have hfirst : first.1 ≠ NOT_PASSED := hl first (by rw [← hpre]; simp)
    refine ⟨pre, first, span, (first :: span).getLast (by simp), hpre.symm,
      List.getLast?_eq_some_getLast _, fun x hx => ?_, ?_⟩
    · rw [← hp] at hx
      exact passesOne_of_mem_passing hx
    · split at h
      · exact absurd h Bool.false_ne_true
      · have hgt := of_decide_eq_true h
        rw [List.map_cons, List.find?_cons_of_pos (by simpa using hfirst)] at hgt
        rw [← List.map_cons (f := Prod.fst), List.getLast?_map,
          List.getLast?_eq_getLast_of_ne_nil (by simp)] at hgt
        exact hgt

theorem passing_append {d : CDebouncer direction Scalar} (pre : List (UInt32 × Scalar))
    {span : List (UInt32 × Scalar)} (h : ∀ x ∈ span, d.passesOne x.2 = true) :
    d.passing (pre ++ span) = d.passing pre ++ span := by
  unfold CDebouncer.passing List.rtakeWhile
  rw [List.reverse_append, List.takeWhile_append_of_pos fun x hx => h x (List.mem_reverse.mp hx),
    List.reverse_append, List.reverse_reverse]

/-- A 32-bit difference that does not wrap. -/
theorem lt_sub_iff {d a b : UInt32} (hle : b.toNat ≤ a.toNat) :
    d < a - b ↔ b.toNat + d.toNat < a.toNat := by
  have hb := b.toNat_lt
  have ha := a.toNat_lt
  rw [UInt32.lt_iff_toNat_lt, UInt32.toNat_sub]
  omega

/-- **A debouncer fed nothing but passing samples** since before `last` minus its duration has
passed. -/
theorem passed_of_span {d : CDebouncer direction Scalar} (hd : d.Fresh)
    {pre span : List (UInt32 × Scalar)} {first last : UInt32 × Scalar}
    (hne : ∀ x ∈ pre ++ first :: span, x.1 ≠ NOT_PASSED)
    (hclock : (pre ++ first :: span).Pairwise fun x y => x.1.toNat ≤ y.1.toNat)
    (hall : ∀ x ∈ first :: span, d.passesOne x.2 = true)
    (hlast : (first :: span).getLast? = some last)
    (hlong : first.1.toNat + d.duration.toNat < last.1.toNat) :
    (d.feedAll (pre ++ first :: span)).passed = true := by
  -- the run of passing samples starts at `first` or before it
  obtain ⟨head, rest, hhead, hmem, hle⟩ : ∃ head rest,
      d.passing pre ++ first :: span = head :: rest ∧ head ∈ pre ++ first :: span ∧
        head.1.toNat ≤ first.1.toNat := by
    cases hp : d.passing pre with
    | nil => exact ⟨first, span, rfl, by simp, Nat.le_refl _⟩
    | cons x xs =>
      have hx : x ∈ pre := by
        have hsuffix : d.passing pre <:+ pre := List.rtakeWhile_suffix _ pre
        exact hsuffix.subset (by rw [hp]; exact List.mem_cons_self ..)
      have hbefore := (List.pairwise_append.mp hclock).2.2 x hx first (List.mem_cons_self ..)
      exact ⟨x, xs ++ first :: span, rfl, List.mem_append_left _ hx, hbefore⟩
  have hfirst : (d.feedAll (pre ++ first :: span)).firstTimePassed = head.1 := by
    rw [firstTimePassed_feedAll hd, passing_append pre hall, hhead, List.map_cons,
      List.find?_cons_of_pos (by simpa using hne head hmem)]
    rfl
  have hend : (d.feedAll (pre ++ first :: span)).lastTimePassed = last.1 := by
    rw [lastTimePassed_feedAll hd, passing_append pre hall, List.map_append,
      List.getLast?_append_of_ne_nil _ (by simp), List.getLast?_map, hlast]
    rfl
  have hlastne : last.1 ≠ NOT_PASSED :=
    hne last (List.mem_append_right _ (List.mem_of_getLast? hlast))
  unfold CDebouncer.passed
  rw [hfirst, hend, feedAll_duration, beq_false_of_ne (hne head hmem), beq_false_of_ne hlastne]
  exact decide_eq_true ((lt_sub_iff (by omega)).mpr (by omega))

/-- **With a clock that does not go back**, a debouncer has passed iff it was fed passing samples
only over a span longer than its duration, up to the last. -/
theorem passed_iff_span {d : CDebouncer direction Scalar} (hd : d.Fresh)
    {l : List (UInt32 × Scalar)} (hne : ∀ x ∈ l, x.1 ≠ NOT_PASSED)
    (hclock : l.Pairwise fun x y => x.1.toNat ≤ y.1.toNat) :
    (d.feedAll l).passed = true ↔ ∃ pre first span last, l = pre ++ first :: span ∧
      (first :: span).getLast? = some last ∧ (∀ x ∈ first :: span, d.passesOne x.2 = true) ∧
      first.1.toNat + d.duration.toNat < last.1.toNat := by
  constructor
  · intro h
    obtain ⟨pre, first, span, last, rfl, hlast, hall, hlong⟩ := passed_span hd hne h
    refine ⟨pre, first, span, last, rfl, hlast, hall, (lt_sub_iff ?_).mp hlong⟩
    have hspan := (List.pairwise_append.mp hclock).2.1
    rcases List.mem_cons.mp (List.mem_of_getLast? hlast) with rfl | hmem
    · exact Nat.le_refl _
    · exact (List.pairwise_cons.mp hspan).1 last hmem
  · rintro ⟨pre, first, span, last, rfl, hlast, hall, hlong⟩
    exact passed_of_span hd hne hclock hall hlast hlong

theorem ne_NOT_PASSED {t : UInt32} (h : t.toNat < 2 ^ 32 - 1) : t ≠ NOT_PASSED := by
  rintro rfl
  exact absurd h (by decide)

/-- **Calls with 64-bit uptimes**, in order and below the sentinel: the debouncer has passed iff the
calls end in a span of passing ones longer than its duration. -/
theorem passed_calls_iff {α : Type} {d : CDebouncer direction Scalar} (hd : d.Fresh)
    {sample : UInt64 × α → UInt32 × Scalar} (hsample : ∀ call, (sample call).1 = call.1.toUInt32)
    {calls : List (UInt64 × α)} {last : UInt64 × α}
    (hfits : ∀ call ∈ calls, call.1.toNat < 2 ^ 32 - 1)
    (hclock : calls.Pairwise fun x y => x.1.toNat ≤ y.1.toNat)
    (hend : calls.getLast? = some last) :
    (d.feedAll (calls.map sample)).passed = true ↔
      ∃ pre first span, calls = pre ++ first :: span ∧
        (∀ call ∈ first :: span, d.passesOne (sample call).2 = true) ∧
        first.1.toNat + d.duration.toNat < last.1.toNat := by
  have hstamp : ∀ call ∈ calls, (sample call).1.toNat = call.1.toNat := by
    intro call hcall
    have hlt := hfits call hcall
    rw [hsample, UInt64.toNat_toUInt32]
    omega
  have hne : ∀ x ∈ calls.map sample, x.1 ≠ NOT_PASSED := by
    intro x hx
    obtain ⟨call, hcall, rfl⟩ := List.mem_map.mp hx
    exact ne_NOT_PASSED ((hstamp call hcall).symm ▸ hfits call hcall)
  have hordered : (calls.map sample).Pairwise fun x y => x.1.toNat ≤ y.1.toNat := by
    refine List.pairwise_map.mpr (hclock.imp_of_mem ?_)
    intro a b ha hb hab
    rwa [hstamp a ha, hstamp b hb]
  have hlaststamp := hstamp last (List.mem_of_getLast? hend)
  rw [passed_iff_span hd hne hordered]
  constructor
  · rintro ⟨pre', first', span', last', heq, hlast, hall, hlong⟩
    obtain ⟨pre, rest, hcalls, rfl, hrest⟩ := List.map_eq_append_iff.mp heq
    obtain ⟨first, span, rfl, rfl, rfl⟩ := List.map_eq_cons_iff.mp hrest
    refine ⟨pre, first, span, hcalls, fun call hcall => ?_, ?_⟩
    · exact hall (sample call) (List.mem_map_of_mem hcall)
    · -- the span ends with the last call
      have hfirst := hstamp first (by rw [hcalls]; simp)
      rw [hcalls, List.getLast?_append_of_ne_nil _ (by simp)] at hend
      rw [← List.map_cons, List.getLast?_map, hend] at hlast
      cases hlast
      rwa [hfirst, hlaststamp] at hlong
  · rintro ⟨pre, first, span, hcalls, hall, hlong⟩
    have hfirst := hstamp first (by rw [hcalls]; simp)
    refine ⟨pre.map sample, sample first, span.map sample, sample last, ?_, ?_, ?_, ?_⟩
    · rw [hcalls, List.map_append, List.map_cons]
    · rw [hcalls, List.getLast?_append_of_ne_nil _ (by simp)] at hend
      rw [← List.map_cons, List.getLast?_map, hend]
      rfl
    · intro x hx
      rw [← List.map_cons] at hx
      obtain ⟨call, hcall, rfl⟩ := List.mem_map.mp hx
      exact hall call hcall
    · rwa [hfirst, hlaststamp]

end Backplane.Utils
