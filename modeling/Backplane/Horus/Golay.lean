import Mathlib.Data.Nat.Bitwise
import Backplane.General.Bits
import Backplane.General.Gf2

/-!
# The Golay code of the Horus telemetry

Model of `get_syndrome`, `golay23_init` and `golay23_decode`
(`lib/f_core/radio/protocols/horus/golay.c`). The patterns are the non-negative ones below `2^23`
that `golay23_decode` asserts, so `int32_t` is `Nat` here. An array `a[1..r]` is a list with the
unused entry 0.

Results:
* `getSyndrome_eq`: the two nested loops are the division by the generator.
* `lookup_decodingTable`: the table names every pattern of up to three errors at its syndrome.
* `golay23Decode_corrects`: up to three errors in a codeword are corrected.
-/

namespace Backplane.Horus

open Backplane.Bits
open Backplane.Gf2

/-! ## Syndromes -/

def X22 : Nat := 0x00400000

def X11 : Nat := 0x00000800

def MASK12 : Nat := 0xfffff800

def GENPOL : Nat := 0x00000c75

/-- `while (!(aux & pattern)) aux = aux >> 1;` -/
def shiftAux (pattern : Nat) : Nat → Nat → Nat
  | 0, aux => aux
  | fuel + 1, aux => if aux &&& pattern = 0 then shiftAux pattern fuel (aux >>> 1) else aux

/-- `while (pattern & MASK12) { .. }` -/
def divide : Nat → Nat → Nat → Nat
  | 0, _, pattern => pattern
  | fuel + 1, aux, pattern =>
    if pattern &&& MASK12 = 0 then pattern
    else
      let aux := shiftAux pattern 23 aux
      divide fuel aux (pattern ^^^ (aux / X11) * GENPOL)

/-- `get_syndrome`. The loops end long before the fuel: see `divide_eq`. -/
def getSyndrome (pattern : Nat) : Nat :=
  if X11 ≤ pattern then divide 23 X22 pattern else pattern

theorem degree_GENPOL : Degree GENPOL 11 where
  top := by decide
  lt := by decide

/-- The inner loop finds the top bit. -/
theorem shiftAux_eq {pattern top : Nat} (hle : 2 ^ top ≤ pattern) (hlt : pattern < 2 ^ (top + 1))
    {fuel d : Nat} (h : d ≤ fuel) : shiftAux pattern fuel (2 ^ (top + d)) = 2 ^ top := by
  induction d generalizing fuel with
  | zero =>
    have htop : pattern.testBit top = true :=
      Nat.testBit_of_two_pow_le_and_two_pow_add_one_gt hle hlt
    cases fuel with
    | zero => rfl
    | succ fuel =>
      rw [shiftAux, Nat.two_pow_and, Nat.add_zero, htop, if_neg]
      exact Nat.ne_of_gt (Nat.mul_pos (Nat.two_pow_pos top) Nat.one_pos)
  | succ d ih =>
    cases fuel with
    | zero => exact absurd h (Nat.not_succ_le_zero d)
    | succ fuel =>
      have hzero : pattern.testBit (top + (d + 1)) = false :=
        Nat.testBit_lt_two_pow
          (Nat.lt_of_lt_of_le hlt (Nat.pow_le_pow_right (by omega) (by omega)))
      rw [shiftAux, Nat.two_pow_and, hzero, Bool.toNat_false, if_pos (Nat.mul_zero _),
        Nat.shiftRight_eq_div_pow, ← Nat.add_assoc, Nat.pow_succ, Nat.pow_one,
        Nat.mul_div_cancel _ (by omega)]
      exact ih (Nat.le_of_succ_le_succ h)

/-- What the outer loop ends with. -/
theorem and_MASK12 {pattern : Nat} (h : pattern < 2 ^ 23) :
    pattern &&& MASK12 = 0 ↔ pattern < 2 ^ 11 := by
  have hmask : ∀ i < 12, MASK12.testBit (11 + i) = true := by decide
  constructor
  · intro hand
    apply Nat.lt_pow_two_of_testBit
    intro i hi
    rcases Nat.lt_or_ge i 23 with hlt | hge
    · have hbit := congrArg (Nat.testBit · i) hand
      have hi' := hmask (i - 11) (by omega)
      rw [Nat.add_sub_cancel' hi] at hi'
      simpa [Nat.testBit_and, hi'] using hbit
    · exact Nat.testBit_lt_two_pow (Nat.lt_of_lt_of_le h (Nat.pow_le_pow_right (by omega) hge))
  · intro hlt
    apply Nat.eq_of_testBit_eq
    intro i
    rw [Nat.testBit_and, Nat.zero_testBit]
    rcases Nat.lt_or_ge i 11 with hi | hi
    · have hlow : ∀ i < 11, MASK12.testBit i = false := by decide
      rw [hlow i hi, Bool.and_false]
    · rw [Nat.testBit_lt_two_pow (Nat.lt_of_lt_of_le hlt (Nat.pow_le_pow_right (by omega) hi)),
        Bool.false_and]

/-- A polynomial of degree at least 11 has its top bit at some `11 + j`. -/
theorem exists_top {pattern m : Nat} (hge : 2 ^ 11 ≤ pattern) (hlt : pattern < 2 ^ (m + 11)) :
    ∃ j, j < m ∧ 2 ^ (j + 11) ≤ pattern ∧ pattern < 2 ^ (j + 11 + 1) := by
  have hpos : pattern ≠ 0 := by omega
  have hlog : 11 ≤ pattern.log2 := (Nat.le_log2 hpos).mpr hge
  have hlog' : pattern.log2 < m + 11 := (Nat.log2_lt hpos).mpr hlt
  refine ⟨pattern.log2 - 11, by omega, ?_, ?_⟩
  · rw [Nat.sub_add_cancel hlog]
    exact Nat.log2_self_le hpos
  · rw [Nat.sub_add_cancel hlog]
    exact Nat.lt_log2_self

/-- The outer loop divides, with fuel for every bit above the remainder. -/
theorem divide_eq (m : Nat) (hm : m ≤ 12) {pattern a fuel : Nat} (hlt : pattern < 2 ^ (m + 11))
    (ha : m ≤ a + 1) (ha' : a ≤ 11) (hfuel : m < fuel) :
    divide fuel (2 ^ (a + 11)) pattern = remainder GENPOL 11 m pattern := by
  -- each round takes the top bit off, so the next one starts below it
  induction m using Nat.strongRecOn generalizing pattern a fuel with
  | ind m ih =>
    cases fuel with
    | zero => exact absurd hfuel (Nat.not_lt_zero m)
    | succ fuel =>
      have h23 : pattern < 2 ^ 23 :=
        Nat.lt_of_lt_of_le hlt (Nat.pow_le_pow_right (by omega) (by omega))
      rw [divide]
      split
      · rename_i hdone
        rw [remainder_of_lt ((and_MASK12 h23).mp hdone)]
      · rename_i hmore
        have hge : 2 ^ 11 ≤ pattern := Nat.le_of_not_lt fun h => hmore ((and_MASK12 h23).mpr h)
        obtain ⟨j, hj, hle, hlt'⟩ := exists_top hge hlt
        have haux : shiftAux pattern 23 (2 ^ (a + 11)) = 2 ^ (j + 11) := by
          rw [show a + 11 = j + 11 + (a - j) by omega]
          exact shiftAux_eq hle hlt' (by omega)
        have hdiv : 2 ^ (j + 11) / X11 * GENPOL = GENPOL <<< j := by
          rw [Nat.pow_add, show X11 = 2 ^ 11 from rfl, Nat.mul_div_cancel _ (by omega),
            Nat.shiftLeft_eq, Nat.mul_comm]
        have htop : pattern.testBit (j + 11) = true :=
          Nat.testBit_of_two_pow_le_and_two_pow_add_one_gt hle hlt'
        have hreduce : reduce GENPOL 11 j pattern = pattern ^^^ GENPOL <<< j := by
          rw [reduce, if_pos htop]
        have hnext := reduce_lt degree_GENPOL hlt'
        rw [hreduce] at hnext
        have hskip : remainder GENPOL 11 m pattern = remainder GENPOL 11 (j + 1) pattern := by
          rw [show m = j + 1 + (m - (j + 1)) by omega]
          exact remainder_add (by rwa [Nat.add_right_comm]) _
        simp only [haux, hdiv]
        rw [hskip, remainder, hreduce]
        exact ih j hj (by omega) hnext (by omega) (by omega) (by omega)

/-- **`get_syndrome`** is the remainder of the division by the generator. -/
theorem getSyndrome_eq {pattern : Nat} (h : pattern < 2 ^ 23) :
    getSyndrome pattern = remainder GENPOL 11 12 pattern := by
  unfold getSyndrome
  split
  · exact divide_eq 12 (Nat.le_refl _) h (Nat.le_refl 12) (Nat.le_refl 11) (by decide)
  · rename_i hlow
    exact (remainder_of_lt (Nat.lt_of_not_le hlow) 12).symm

/-! ## The decoding table -/

/-- `arr2int`. -/
def arr2int (a : List Nat) (r : Nat) : Nat :=
  (List.range r).foldl (fun result i => result + 1 <<< (a.getD (i + 1) 0 - 1)) 0

/-- `while (a[j] == n - r + j) j--;` -/
def lastBelow (n r : Nat) (a : List Nat) : Nat → Nat
  | 0 => 0
  | j + 1 => if a.getD (j + 1) 0 = n - r + (j + 1) then lastBelow n r a j else j + 1

/-- `nextcomb`. -/
def nextcomb (n r : Nat) (a : List Nat) : List Nat :=
  let a := a.set r (a.getD r 0 + 1)
  if a.getD r 0 ≤ n then a
  else
    let j := lastBelow n r a (r - 1)
    -- `for (i = r; i >= j; i--)`, so that `a[j]` is the last one to change
    (List.range (r - j + 1)).foldl (fun a k => a.set (r - k) (a.getD j 0 + (r - k) - j + 1)) a

/-- The patterns of the loop over single errors. -/
def singles : Nat → Nat → List Nat
  | 0, _ => []
  | count + 1, temp => temp * 2 :: singles count (temp * 2)

/-- The patterns of a loop over `r` errors: that of `a`, and `count` more. -/
def combinations (r : Nat) : Nat → List Nat → List Nat
  | 0, a => [arr2int a r]
  | count + 1, a => arr2int a r :: combinations r count (nextcomb 23 r a)

/-- `golay23_init`, the decoding table. -/
def decodingTable : Array Nat :=
  let table := ((Array.replicate 2048 0).setIfInBounds 0 0).setIfInBounds 1 1
  let table := (singles 22 1).foldl (write getSyndrome) table
  let table := (combinations 2 252 [0, 1, 2]).foldl (write getSyndrome) table
  (combinations 3 1770 [0, 1, 2, 3]).foldl (write getSyndrome) table

/-- `golay23_decode`. -/
def golay23Decode (received_codeword : Nat) : Nat :=
  received_codeword ^^^ lookup decodingTable (getSyndrome received_codeword)

/-- The patterns of one error that the loop over single errors leaves. -/
def shifted : List Nat := (List.range 22).map fun i => 2 ^ (i + 1)

/-- The patterns of two errors. -/
def pairs : List Nat :=
  (List.range 23).flatMap fun i => ((List.range 23).filter (i < ·)).map fun j => 2 ^ i + 2 ^ j

/-- The patterns of three errors. -/
def triples : List Nat :=
  (List.range 23).flatMap fun i => ((List.range 23).filter (i < ·)).flatMap fun j =>
    ((List.range 23).filter (j < ·)).map fun k => 2 ^ i + 2 ^ j + 2 ^ k

/-- All patterns, in the order they are written. -/
def patterns : List Nat := 0 :: 1 :: (shifted ++ pairs ++ triples)

theorem singles_eq : singles 22 1 = shifted := by decide

/-- `nextcomb` goes through all pairs. -/
theorem combinations_two : combinations 2 252 [0, 1, 2] = pairs := by decide +kernel

/-- `nextcomb` goes through all triples. -/
theorem combinations_three : combinations 3 1770 [0, 1, 2, 3] = triples := by decide +kernel

theorem decodingTable_eq :
    decodingTable = patterns.foldl (write getSyndrome) (Array.replicate 2048 0) := by
  rw [decodingTable, singles_eq, combinations_two, combinations_three, patterns, List.foldl_cons,
    List.foldl_cons, List.foldl_append, List.foldl_append]
  rfl

theorem patterns_lt : ∀ pattern ∈ patterns, pattern < 2 ^ 23 := by decide +kernel

/-- No two patterns share a syndrome. -/
theorem nodup_syndromes : (patterns.map getSyndrome).Nodup := by
  rw [List.map_congr_left fun pattern hp => getSyndrome_eq (patterns_lt pattern hp)]
  exact (nodup_of_distinct 0 (by decide +kernel)).1

/-- Every pattern of up to three errors is among them. -/
theorem mem_patterns {pattern : Nat} (hlt : pattern < 2 ^ 23)
    (h : pattern.bitIndices.length ≤ 3) : pattern ∈ patterns := by
  simp only [patterns, shifted, pairs, triples, List.mem_cons, List.mem_append, List.mem_map,
    List.mem_flatMap, List.mem_filter, List.mem_range, decide_eq_true_eq]
  rcases few_bits hlt h with
    rfl | ⟨i, hi, rfl⟩ | ⟨i, j, hij, hj, rfl⟩ | ⟨i, j, k, hij, hjk, hk, rfl⟩
  · exact .inl rfl
  · cases i with
    | zero => exact .inr (.inl rfl)
    | succ i => exact .inr (.inr (.inl (.inl ⟨i, by omega, rfl⟩)))
  · exact .inr (.inr (.inl (.inr ⟨i, by omega, j, ⟨hj, hij⟩, rfl⟩)))
  · exact .inr (.inr (.inr ⟨i, by omega, j, ⟨by omega, hij⟩, k, ⟨hk, hjk⟩, rfl⟩))

/-- **The decoding table** names every pattern of up to three errors at its syndrome. -/
theorem lookup_decodingTable {pattern : Nat} (hlt : pattern < 2 ^ 23)
    (h : pattern.bitIndices.length ≤ 3) :
    lookup decodingTable (getSyndrome pattern) = pattern := by
  rw [decodingTable_eq]
  refine lookup_written nodup_syndromes _ (fun p hp => ?_) (mem_patterns hlt h)
  rw [getSyndrome_eq (patterns_lt p hp), Array.size_replicate]
  exact remainder_lt (n := 12) degree_GENPOL (patterns_lt p hp)

/-! ## Correction -/

/-- A codeword: the message above its parity bits. -/
def codeword (message : Nat) : Nat := encode GENPOL 11 12 message

/-- A codeword by `get_syndrome`, as the encoder puts it together. -/
theorem codeword_eq {message : Nat} (h : message < 2 ^ 12) :
    codeword message = message * 2 ^ 11 + getSyndrome (message <<< 11) := by
  rw [codeword, encode_eq degree_GENPOL h, getSyndrome_eq (shiftLeft_lt h)]

/-- The parity bits of a message. -/
theorem parity_lt {message : Nat} (h : message < 2 ^ 12) :
    getSyndrome (message <<< 11) < 2 ^ 11 := by
  rw [getSyndrome_eq (shiftLeft_lt h)]
  exact remainder_lt degree_GENPOL (shiftLeft_lt h)

theorem codeword_lt {message : Nat} (h : message < 2 ^ 12) : codeword message < 2 ^ 23 := by
  have hparity := parity_lt h
  rw [codeword_eq h]
  omega

/-- The message stands above its parity bits. -/
theorem codeword_shiftRight {message : Nat} (h : message < 2 ^ 12) :
    codeword message >>> 11 = message := by
  have hparity := parity_lt h
  rw [codeword_eq h, Nat.shiftRight_eq_div_pow]
  omega

/-- **Up to three errors in a codeword are corrected.** -/
theorem golay23Decode_corrects {message received : Nat} (hmessage : message < 2 ^ 12)
    (hreceived : received < 2 ^ 23)
    (h : (codeword message ^^^ received).bitIndices.length ≤ 3) :
    golay23Decode received = codeword message := by
  have herror : codeword message ^^^ received < 2 ^ 23 :=
    Nat.xor_lt_two_pow (codeword_lt hmessage) hreceived
  have htable := lookup_decodingTable herror h
  rw [getSyndrome_eq herror] at htable
  have hcorrect := correct (remainder_encode degree_GENPOL hmessage) htable
  rw [← codeword, ← Nat.xor_assoc, Nat.xor_self, Nat.zero_xor] at hcorrect
  rw [golay23Decode, getSyndrome_eq hreceived]
  exact hcorrect

end Backplane.Horus
