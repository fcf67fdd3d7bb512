import Backplane.General.Bits

/-!
# Interleaver and scrambler

Model of `interleave` and `scramble` (`lib/f_core/radio/protocols/horus/horus.c`), which permute
and mask the bits of a packet behind the sync bytes. Both number the bits of a byte from the lowest
one (`lsb`), other than the rest of the protocol.

Results:
* `lsb_interleave`: the bits of an interleaved buffer.
* `interleave_interleave`: for the size of a Horus V2 packet, direction 1 undoes direction 0.
* `lsb_scramble`: every bit is masked by a bit of a fixed sequence.
* `scramble_scramble`: the scrambler undoes itself.
-/

namespace Backplane.Horus

open Backplane.Bits

/-! ## Bits from the lowest -/

/-- Bit `k` of bytes, each from its lowest bit. -/
def lsb (bytes : List UInt8) (k : Nat) : Bool := (bytes.getD (k / 8) 0).toNat.testBit (k % 8)

theorem byte_ext {a b : UInt8} (h : ∀ k < 8, a.toNat.testBit k = b.toNat.testBit k) : a = b := by
  apply UInt8.toNat_inj.mp
  apply Nat.eq_of_testBit_eq
  intro k
  rcases Nat.lt_or_ge k 8 with hk | hk
  · exact h k hk
  · have hpow : 2 ^ 8 ≤ 2 ^ k := Nat.pow_le_pow_right (by omega) hk
    rw [Nat.testBit_lt_two_pow (Nat.lt_of_lt_of_le a.toNat_lt hpow),
      Nat.testBit_lt_two_pow (Nat.lt_of_lt_of_le b.toNat_lt hpow)]

theorem testBit_ofNat {k : Nat} (hk : k < 8) (v : Nat) :
    (UInt8.ofNat v).toNat.testBit k = v.testBit k := by
  rw [UInt8.toNat_ofNat', Nat.testBit_mod_two_pow, decide_eq_true hk, Bool.true_and]

/-- A shifted bit stands alone. -/
theorem testBit_shiftLeft_toNat (bit : Bool) (i k : Nat) :
    (bit.toNat <<< i).testBit k = (decide (i = k) && bit) := by
  cases bit with
  | false => simp
  | true => rw [Bool.toNat_true, Nat.one_shiftLeft, Nat.testBit_two_pow, Bool.and_true]

theorem lsb_zeros (n k : Nat) : lsb (List.replicate n 0) k = false := by
  unfold lsb
  rw [List.getD_eq_getElem?_getD, List.getElem?_replicate]
  split <;> exact Nat.zero_testBit _

/-- Bytes are known by these bits. -/
theorem lsb_ext {a b : List UInt8} (hlen : a.length = b.length)
    (h : ∀ k < 8 * a.length, lsb a k = lsb b k) : a = b := by
  apply List.ext_getElem hlen
  intro i hi hi'
  apply byte_ext
  intro k hk
  have hbit := h (8 * i + k) (by omega)
  rw [lsb, lsb, show (8 * i + k) / 8 = i by omega, show (8 * i + k) % 8 = k by omega,
    ← List.getElem_eq_getD, ← List.getElem_eq_getD] at hbit
  exact hbit

/-- The bits after one byte was changed. -/
theorem lsb_modify {bytes : List UInt8} {i : Nat} (hi : i < bytes.length) (f : UInt8 → UInt8)
    (k : Nat) : lsb (bytes.modify i f) k =
      if k / 8 = i then (f (bytes.getD i 0)).toNat.testBit (k % 8) else lsb bytes k := by
  unfold lsb
  rw [List.getD_eq_getElem?_getD, List.getElem?_modify]
  split
  · rename_i heq
    rw [if_pos heq.symm, ← heq, List.getElem?_eq_getElem (heq ▸ hi), List.getD_eq_getElem?_getD,
      List.getElem?_eq_getElem (heq ▸ hi)]
    rfl
  · rename_i hne
    rw [if_neg fun h => hne h.symm, List.getD_eq_getElem?_getD]
    simp

/-! ## The interleaver -/

def primes : List Nat :=
  [2,   3,   5,   7,   11,  13,  17,  19,  23,  29,  31,  37,  41,  43,  47,  53,  59,  61,  67,
   71,  73,  79,  83,  89,  97,  101, 103, 107, 109, 113, 127, 131, 137, 139, 149, 151, 157, 163,
   167, 173, 179, 181, 191, 193, 197, 199, 211, 223, 227, 229, 233, 239, 241, 251, 257, 263, 269,
   271, 277, 281, 283, 293, 307, 311, 313, 317, 331, 337, 347, 349, 379, 383, 389, 757, 761, 769,
   773]

/-- `b`: the last prime before `while ((primes[i] < nbits) && (i < imax)) i++;` stops. -/
def nearestPrime (nbits : Nat) : Nat :=
  let i := 1 + ((primes.drop 1).takeWhile (· < nbits)).length
  primes.getD (i - 1) 0

/-- The bit read and the bit written in round `n`. -/
def bitPair (b nbits dir n : Nat) : Nat × Nat :=
  let i := n
  let j := b * i % nbits
  if dir ≠ 0 then (j, i) else (i, j)

/-- `out[jbyte] |= ibit << jshift;` -/
def interleaveBit (inout : List UInt8) (i j : Nat) (out : List UInt8) : List UInt8 :=
  let ibit := ((inout.getD (i / 8) 0).toNat >>> (i % 8)) &&& 1
  out.modify (j / 8) fun byte => UInt8.ofNat (byte.toNat ||| ibit <<< (j % 8))

/-- `interleave`: the `nbytes` bytes afterwards. -/
def interleave (inout : List UInt8) (nbytes dir : Nat) : List UInt8 :=
  let nbits := nbytes * 8 % 2 ^ 16
  let b := nearestPrime nbits
  (List.range nbits).foldl (fun out n =>
    interleaveBit inout (bitPair b nbits dir n).1 (bitPair b nbits dir n).2 out)
    (List.replicate nbytes 0)

theorem length_interleaveBit (inout : List UInt8) (i j : Nat) (out : List UInt8) :
    (interleaveBit inout i j out).length = out.length := List.length_modify _ _ _

/-- One bit is or-ed into its place. -/
theorem lsb_interleaveBit (inout : List UInt8) (i : Nat) {j : Nat} {out : List UInt8}
    (hj : j < 8 * out.length) (k : Nat) : lsb (interleaveBit inout i j out) k =
      (lsb out k || (decide (j = k) && lsb inout i)) := by
  unfold interleaveBit
  simp only [shiftRight_and_one]
  rw [lsb_modify (show j / 8 < out.length by omega)]
  split
  · rename_i hbyte
    have hshift : decide (j = k) = decide (j % 8 = k % 8) := decide_eq_decide.mpr (by omega)
    rw [testBit_ofNat (Nat.mod_lt _ (by decide)), Nat.testBit_or, testBit_shiftLeft_toNat, hshift,
      ← hbyte]
    rfl
  · rename_i hbyte
    rw [decide_eq_false fun heq => hbyte (by rw [heq]), Bool.false_and, Bool.or_false]

/-- What many rounds leave in a bit. -/
theorem foldl_interleaveBit (inout : List UInt8) (source target : Nat → Nat) (rounds : List Nat)
    (out : List UInt8) (h : ∀ n ∈ rounds, target n < 8 * out.length) (k : Nat) :
    lsb (rounds.foldl (fun out n => interleaveBit inout (source n) (target n) out) out) k =
      (lsb out k || rounds.any fun n => decide (target n = k) && lsb inout (source n)) := by
  induction rounds generalizing out with
  | nil => simp
  | cons n rounds ih =>
    have hn := h n List.mem_cons_self
    rw [List.foldl_cons, ih, lsb_interleaveBit inout _ hn, List.any_cons, Bool.or_assoc]
    intro m hm
    rw [length_interleaveBit]
    exact h m (List.mem_cons_of_mem _ hm)

theorem length_interleave (inout : List UInt8) (nbytes dir : Nat) :
    (interleave inout nbytes dir).length = nbytes := by
  have hfold : ∀ (rounds : List Nat) (f g : Nat → Nat) (out : List UInt8),
      (rounds.foldl (fun out n => interleaveBit inout (f n) (g n) out) out).length =
        out.length := by
    intro rounds f g
    induction rounds with
    | nil => exact fun _ => rfl
    | cons n rounds ih =>
      intro out
      rw [List.foldl_cons, ih, length_interleaveBit]
  unfold interleave
  rw [hfold, List.length_replicate]

/-- **The bits of an interleaved buffer**: bit `k` is any bit that is written there. -/
theorem lsb_interleave {nbytes : Nat} (hsize : nbytes * 8 < 2 ^ 16) (inout : List UInt8)
    (dir k : Nat) : lsb (interleave inout nbytes dir) k =
      (List.range (nbytes * 8)).any fun n =>
        decide ((bitPair (nearestPrime (nbytes * 8)) (nbytes * 8) dir n).2 = k) &&
          lsb inout (bitPair (nearestPrime (nbytes * 8)) (nbytes * 8) dir n).1 := by
  unfold interleave
  simp only [Nat.mod_eq_of_lt hsize]
  rw [foldl_interleaveBit, lsb_zeros, Bool.false_or]
  intro n hn
  have hlt := List.mem_range.mp hn
  rw [List.length_replicate, bitPair]
  split
  · show n < 8 * nbytes
    omega
  · have hmod := Nat.mod_lt (nearestPrime (nbytes * 8) * n) (Nat.zero_lt_of_lt hlt)
    show nearestPrime (nbytes * 8) * n % (nbytes * 8) < 8 * nbytes
    omega

/-- The prime for the 63 bytes behind the sync bytes. -/
theorem nearestPrime_packet : nearestPrime 504 = 389 := by decide

/-- Of the rounds that write one bit each, the one that writes bit `j` decides it. -/
theorem any_target {n j k : Nat} {target : Nat → Nat} (bit : Nat → Bool) (hk : k < n)
    (h : ∀ m < n, target m = j ↔ m = k) :
    ((List.range n).any fun m => decide (target m = j) && bit m) = bit k := by
  rw [Bool.eq_iff_iff, List.any_eq_true]
  constructor
  · rintro ⟨m, hm, hbit⟩
    rw [Bool.and_eq_true, decide_eq_true_eq, h m (List.mem_range.mp hm)] at hbit
    rw [← hbit.1]
    exact hbit.2
  · intro hbit
    exact ⟨k, List.mem_range.mpr hk, by rw [hbit, decide_eq_true ((h k hk).mpr rfl)]; rfl⟩

/-- Where direction 0 puts a bit; 389 is a unit modulo 504. -/
theorem lsb_interleave_zero (inout : List UInt8) {k : Nat} (hk : k < 504) :
    lsb (interleave inout 63 0) (389 * k % 504) = lsb inout k := by
  rw [lsb_interleave (by decide)]
  simp only [bitPair, Nat.reduceMul, nearestPrime_packet, ne_eq, not_true_eq_false, if_false]
  exact any_target (lsb inout) hk fun n hn => by omega

/-- Where direction 1 takes a bit from. -/
theorem lsb_interleave_one (inout : List UInt8) {k : Nat} (hk : k < 504) :
    lsb (interleave inout 63 1) k = lsb inout (389 * k % 504) := by
  rw [lsb_interleave (by decide)]
  simp only [bitPair, Nat.reduceMul, nearestPrime_packet, ne_eq, one_ne_zero, not_false_eq_true,
    if_true]
  exact any_target (fun n => lsb inout (389 * n % 504)) hk fun n _ => Iff.rfl

/-- **Direction 1 undoes direction 0** on the 63 bytes behind the sync bytes. -/
theorem interleave_interleave {inout : List UInt8} (h : inout.length = 63) :
    interleave (interleave inout 63 0) 63 1 = inout := by
  apply lsb_ext
  · rw [length_interleave, h]
  · intro k hk
    rw [length_interleave] at hk
    rw [lsb_interleave_one _ (by omega), lsb_interleave_zero _ (by omega)]

/-! ## The scrambler -/

/-- `((scrambler & 0x2) >> 1) ^ (scrambler & 0x1)` -/
def scramblerOut (scrambler : UInt16) : UInt16 :=
  ((scrambler &&& 0x2) >>> 1) ^^^ (scrambler &&& 0x1)

/-- `scrambler >>= 1; scrambler |= scrambler_out << 14;` -/
def nextScrambler (scrambler : UInt16) : UInt16 :=
  (scrambler >>> 1) ||| (scramblerOut scrambler <<< 14)

/-- Bit `i` of the buffer, xor-ed with the output of the scrambler. -/
def scrambleBit (inout : List UInt8) (i : Nat) (scrambler_out : UInt16) : List UInt8 :=
  let ibyte := i / 8
  let ishift := i % 8
  let ibit := ((inout.getD ibyte 0).toNat >>> ishift) &&& 1
  let ibits := ibit ^^^ scrambler_out.toNat
  let mask := 1 <<< ishift
  inout.modify ibyte fun byte =>
    UInt8.ofNat ((byte &&& ~~~ UInt8.ofNat mask).toNat ||| ibits <<< ishift)

/-- One round of `scramble`. -/
def scrambleRound (s : List UInt8 × UInt16) (i : Nat) : List UInt8 × UInt16 :=
  (scrambleBit s.1 i (scramblerOut s.2), nextScrambler s.2)

/-- `scramble`, in place: the buffer afterwards. -/
def scramble (inout : List UInt8) (nbytes : Nat) : List UInt8 :=
  ((List.range (nbytes * 8)).foldl scrambleRound (inout, 0x4a80)).1

/-- The output in round `i`. -/
def scramblerBit (i : Nat) : Bool :=
  let scrambler := nextScrambler^[i] 0x4a80
  scrambler.toNat.testBit 1 ^^ scrambler.toNat.testBit 0

theorem scramblerOut_toNat (scrambler : UInt16) : (scramblerOut scrambler).toNat =
    (scrambler.toNat.testBit 1 ^^ scrambler.toNat.testBit 0).toNat := by
  unfold scramblerOut
  rw [UInt16.toNat_xor, UInt16.toNat_shiftRight, UInt16.toNat_and, UInt16.toNat_and]
  show (scrambler.toNat &&& 2) >>> 1 ^^^ scrambler.toNat &&& 1 = _
  have hhigh : (scrambler.toNat &&& 2) >>> 1 = (scrambler.toNat.testBit 1).toNat := by
    rw [Nat.shiftRight_and_distrib, ← shiftRight_and_one]
    rfl
  have hlow : scrambler.toNat &&& 1 = (scrambler.toNat.testBit 0).toNat := by
    rw [← shiftRight_and_one, Nat.shiftRight_zero]
  rw [hhigh, hlow]
  cases scrambler.toNat.testBit 1 <;> cases scrambler.toNat.testBit 0 <;> rfl

theorem length_scrambleBit (inout : List UInt8) (i : Nat) (scrambler_out : UInt16) :
    (scrambleBit inout i scrambler_out).length = inout.length := List.length_modify _ _ _

theorem testBit_not {k : Nat} (hk : k < 8) (b : UInt8) :
    (~~~b).toNat.testBit k = !b.toNat.testBit k := by
  show (~~~b).toBitVec.getLsbD k = !b.toBitVec.getLsbD k
  rw [UInt8.toBitVec_not, BitVec.getLsbD_not, decide_eq_true hk, Bool.true_and]

/-- One round changes one bit. -/
theorem lsb_scrambleBit {inout : List UInt8} {i : Nat} (hi : i < 8 * inout.length)
    {scrambler_out : UInt16} {bit : Bool} (hout : scrambler_out.toNat = bit.toNat) (k : Nat) :
    lsb (scrambleBit inout i scrambler_out) k =
      if k = i then lsb inout k ^^ bit else lsb inout k := by
  unfold scrambleBit
  simp only [shiftRight_and_one]
  rw [lsb_modify (show i / 8 < inout.length by omega)]
  have hbits : ∀ a b : Bool, a.toNat ^^^ b.toNat = (a ^^ b).toNat := by decide
  have hk := Nat.mod_lt k (show 0 < 8 by decide)
  rcases eq_or_ne (k / 8) (i / 8) with hbyte | hbyte
  · rw [if_pos hbyte, hout, hbits, testBit_ofNat hk, Nat.testBit_or, testBit_shiftLeft_toNat,
      UInt8.toNat_and, Nat.testBit_and, testBit_not hk, testBit_ofNat hk, Nat.one_shiftLeft,
      Nat.testBit_two_pow, ← hbyte]
    rcases eq_or_ne k i with heq | hne
    · rw [if_pos heq, heq, decide_eq_true rfl]
      simp [lsb]
    · rw [if_neg hne, decide_eq_false fun h : i % 8 = k % 8 => hne (by omega)]
      simp [lsb]
  · rw [if_neg hbyte, if_neg fun heq => hbyte (by rw [heq])]

/-- The buffer and the register after `m` rounds. -/
theorem foldl_scrambleRound (inout : List UInt8) {m : Nat} (hm : m ≤ 8 * inout.length) :
    let s := (List.range m).foldl scrambleRound (inout, 0x4a80)
    s.1.length = inout.length ∧ s.2 = nextScrambler^[m] 0x4a80 ∧
      ∀ k, lsb s.1 k = if k < m then lsb inout k ^^ scramblerBit k else lsb inout k := by
  induction m with
  | zero => exact ⟨rfl, rfl, fun k => by simp⟩
  | succ m ih =>
    obtain ⟨hlen, hreg, hbits⟩ := ih (by omega)
    rw [List.range_succ, List.foldl_append, List.foldl_cons, List.foldl_nil]
    refine ⟨?_, ?_, fun k => ?_⟩
    · rw [scrambleRound, length_scrambleBit, hlen]
    · rw [scrambleRound, hreg, Function.iterate_succ_apply']
    · rw [scrambleRound, lsb_scrambleBit (by rw [hlen]; omega) (scramblerOut_toNat _), hreg, hbits]
      rcases Nat.lt_trichotomy k m with hlt | rfl | hgt
      · rw [if_neg (by omega), if_pos hlt, if_pos (by omega)]
      · rw [if_pos rfl, if_neg (by omega), if_pos (by omega)]
        rfl
      · rw [if_neg (by omega), if_neg (by omega), if_neg (by omega)]

theorem length_scramble {inout : List UInt8} {nbytes : Nat} (h : inout.length = nbytes) :
    (scramble inout nbytes).length = nbytes := by
  rw [scramble, (foldl_scrambleRound inout (by omega)).1, h]

/-- **Every bit is masked** by a bit that does not depend on the buffer. -/
theorem lsb_scramble {inout : List UInt8} {nbytes : Nat} (h : inout.length = nbytes) {k : Nat}
    (hk : k < 8 * nbytes) : lsb (scramble inout nbytes) k = (lsb inout k ^^ scramblerBit k) := by
  rw [scramble, (foldl_scrambleRound inout (by omega)).2.2, if_pos (by omega)]

/-- **The scrambler undoes itself.** -/
theorem scramble_scramble {inout : List UInt8} {nbytes : Nat} (h : inout.length = nbytes) :
    scramble (scramble inout nbytes) nbytes = inout := by
  have hlen := length_scramble h
  apply lsb_ext
  · rw [length_scramble hlen, h]
  · intro k hk
    rw [length_scramble hlen] at hk
    rw [lsb_scramble hlen hk, lsb_scramble h hk, Bool.xor_assoc, Bool.xor_self, Bool.xor_false]

end Backplane.Horus
