import Backplane.Utils.Bytes

/-!
# Formatted text

What `snprintf` makes of the conversions the code uses: `%lld` and `%s` with a minimal width.

Results:
* `length_decimal_le_iff`: which numbers have a given number of characters.
* `padLeft_decimal_injective`: a padded number can be read back.
* `snprintf_fits`, `snprintf_cut`: what stands in the buffer, when the text and its zero have room
  and when the zero takes the place of the last character.
-/

namespace Backplane.Utils

/-- The bytes of a string literal. -/
def text (s : String) : List UInt8 := s.toList.map fun c => UInt8.ofNat c.toNat

/-- `%lld` -/
def decimal (v : Int) : List UInt8 :=
  (if v < 0 then [0x2D] else []) ++ (Nat.toDigits 10 v.natAbs).map fun c => UInt8.ofNat c.toNat

/-- A minimal width, as in `%9lld`. -/
def padLeft (width : Nat) (s : List UInt8) : List UInt8 :=
  List.replicate (width - s.length) 0x20 ++ s

/-- A minimal width, as in `%-10s`. -/
def padRight (width : Nat) (s : List UInt8) : List UInt8 :=
  s ++ List.replicate (width - s.length) 0x20

def INT_MAX : Nat := 2 ^ 31 - 1

/-- `snprintf(buf, buf_size, …)`, which is to format `s`, into a zeroed buffer: the buffer, and the
length that would have been written. -/
def snprintf (buf_size : Nat) (s : List UInt8) : List UInt8 × Int :=
  let written := s.take (buf_size - 1)
  (written ++ List.replicate (buf_size - written.length) 0,
    if s.length ≤ INT_MAX then s.length else -1)

/-! ## Numbers -/

/-- A digit is the character of its byte. -/
theorem ofNat_digit {c : Char} (h : c.isDigit = true) :
    48 ≤ (UInt8.ofNat c.toNat).toNat ∧ (UInt8.ofNat c.toNat).toNat ≤ 57 ∧
      Char.ofNat (UInt8.ofNat c.toNat).toNat = c := by
  unfold Char.isDigit at h
  rw [Bool.and_eq_true, decide_eq_true_eq, decide_eq_true_eq] at h
  obtain ⟨hlow, hhigh⟩ := h
  have hlow' : 48 ≤ c.toNat := UInt32.le_iff_toNat_le.mp hlow
  have hhigh' : c.toNat ≤ 57 := UInt32.le_iff_toNat_le.mp hhigh
  have hbyte : (UInt8.ofNat c.toNat).toNat = c.toNat := by
    rw [UInt8.toNat_ofNat']
    omega
  rw [hbyte]
  exact ⟨hlow', hhigh', Char.ofNat_toNat c⟩

theorem isDigit_of_mem {n : Nat} {c : Char} (h : c ∈ Nat.toDigits 10 n) : c.isDigit = true :=
  Nat.isDigit_of_mem_toDigits (by decide) (by decide) h

/-- The characters of a number: a sign or a digit. -/
theorem mem_decimal {v : Int} {b : UInt8} (h : b ∈ decimal v) :
    45 ≤ b.toNat ∧ b.toNat ≤ 57 := by
  unfold decimal at h
  rcases List.mem_append.mp h with hsign | hdigit
  · split at hsign
    · rw [List.mem_singleton.mp hsign]
      decide
    · exact absurd hsign List.not_mem_nil
  · obtain ⟨c, hc, rfl⟩ := List.mem_map.mp hdigit
    obtain ⟨hlow, hhigh, -⟩ := ofNat_digit (isDigit_of_mem hc)
    exact ⟨Nat.le_trans (by decide) hlow, hhigh⟩

theorem length_decimal (v : Int) :
    (decimal v).length = (if v < 0 then 1 else 0) + (Nat.toDigits 10 v.natAbs).length := by
  unfold decimal
  rw [List.length_append, List.length_map]
  split <;> rfl

/-- **How long a number is.** -/
theorem length_decimal_le_iff {v : Int} {k : Nat} :
    (decimal v).length ≤ k + 2 ↔ -10 ^ (k + 1) < v ∧ v < 10 ^ (k + 2) := by
  have hcast : ∀ n : Nat, ((10 ^ n : Nat) : Int) = 10 ^ n := fun n => by rw [Int.natCast_pow]; rfl
  have hk1 := hcast (k + 1)
  have hk2 := hcast (k + 2)
  have hmono : 10 ^ (k + 1) ≤ 10 ^ (k + 2) := Nat.pow_le_pow_right (by decide) (by omega)
  rw [length_decimal, ← hk1, ← hk2]
  split
  · rename_i hneg
    have hlen := Nat.length_toDigits_le_iff (b := 10) (n := v.natAbs) (k := k + 1) (by decide)
      (by omega)
    rw [show 1 + (Nat.toDigits 10 v.natAbs).length ≤ k + 2 ↔
      (Nat.toDigits 10 v.natAbs).length ≤ k + 1 by omega, hlen]
    omega
  · rename_i hpos
    have hlen := Nat.length_toDigits_le_iff (b := 10) (n := v.natAbs) (k := k + 2) (by decide)
      (by omega)
    rw [Nat.zero_add, hlen]
    have hpow : 0 < 10 ^ (k + 1) := Nat.pow_pos (by decide)
    omega

theorem digits_injective {m n : Nat}
    (h : (Nat.toDigits 10 m).map (fun c => UInt8.ofNat c.toNat) =
      (Nat.toDigits 10 n).map fun c => UInt8.ofNat c.toNat) : m = n := by
  have hback : ∀ n, ((Nat.toDigits 10 n).map fun c => UInt8.ofNat c.toNat).map
      (fun b => Char.ofNat b.toNat) = Nat.toDigits 10 n := by
    intro n
    rw [List.map_map]
    exact (List.map_congr_left fun c hc => (ofNat_digit (isDigit_of_mem hc)).2.2).trans
      (List.map_id _)
  have hdigits := congrArg (List.map fun b : UInt8 => Char.ofNat b.toNat) h
  rw [hback, hback] at hdigits
  have hvalue := congrArg (Nat.ofDigitChars 10 · 0) hdigits
  simpa using hvalue

theorem decimal_injective {v w : Int} (h : decimal v = decimal w) : v = w := by
  have hdigit : ∀ {n : Nat} {l : List UInt8},
      0x2D :: l ≠ (Nat.toDigits 10 n).map fun c => UInt8.ofNat c.toNat := by
    intro n l heq
    have hmem : (0x2D : UInt8) ∈ (Nat.toDigits 10 n).map fun c => UInt8.ofNat c.toNat := by
      rw [← heq]
      exact List.mem_cons_self
    obtain ⟨c, hc, hcode⟩ := List.mem_map.mp hmem
    have hlow := (ofNat_digit (isDigit_of_mem hc)).1
    rw [hcode] at hlow
    exact absurd hlow (by decide)
  unfold decimal at h
  split at h <;> split at h
  · have habs := digits_injective (List.cons.inj h).2
    omega
  · exact absurd h hdigit
  · exact absurd h.symm hdigit
  · have habs := digits_injective h
    omega

/-- **A padded number is known from its text.** -/
theorem padLeft_decimal_injective {width : Nat} {v w : Int}
    (h : padLeft width (decimal v) = padLeft width (decimal w)) : v = w := by
  have hstrip : ∀ v, (padLeft width (decimal v)).dropWhile (· == 0x20) = decimal v := by
    intro v
    unfold padLeft
    rw [List.dropWhile_append_of_pos]
    · cases hv : decimal v with
      | nil => rfl
      | cons b l =>
        have hlow := (mem_decimal (v := v) (b := b) (by rw [hv]; exact List.mem_cons_self)).1
        have hne : ¬ (b == 0x20) = true := by
          intro heq
          rw [beq_iff_eq.mp heq] at hlow
          exact absurd hlow (by decide)
        exact List.dropWhile_cons_of_neg hne
    · intro b hb
      rw [List.eq_of_mem_replicate hb]
      rfl
  have hdecimal := congrArg (List.dropWhile (· == 0x20)) h
  rw [hstrip, hstrip] at hdecimal
  exact decimal_injective hdecimal

/-- The characters of a padded number: a space, a sign or a digit. -/
theorem mem_padLeft_decimal {width : Nat} {v : Int} {b : UInt8}
    (h : b ∈ padLeft width (decimal v)) : 32 ≤ b.toNat ∧ b.toNat ≤ 57 := by
  rcases List.mem_append.mp h with hpad | hnumber
  · rw [List.eq_of_mem_replicate hpad]
    decide
  · obtain ⟨hlow, hhigh⟩ := mem_decimal hnumber
    exact ⟨Nat.le_trans (by decide) hlow, hhigh⟩

theorem length_padLeft (width : Nat) (s : List UInt8) :
    (padLeft width s).length = max width s.length := by
  unfold padLeft
  rw [List.length_append, List.length_replicate]
  omega

/-! ## The buffer -/

theorem length_snprintf {buf_size : Nat} (h : 0 < buf_size) (s : List UInt8) :
    (snprintf buf_size s).1.length = buf_size := by
  unfold snprintf
  simp only [List.length_append, List.length_take, List.length_replicate]
  omega

theorem sizeT_snprintf {buf_size : Nat} {s : List UInt8} (h : s.length ≤ INT_MAX) :
    sizeT (snprintf buf_size s).2 = s.length := by
  unfold snprintf sizeT INT_MAX at *
  simp only [if_pos h]
  omega

/-- A length that is too large for an `int` is a very large one. -/
theorem sizeT_snprintf_le_iff {buf_size n : Nat} (s : List UInt8) (hn : n ≤ INT_MAX) :
    sizeT (snprintf buf_size s).2 ≤ n ↔ s.length ≤ n := by
  unfold snprintf sizeT INT_MAX at *
  simp only
  split <;> omega

/-- **Text and zero have room.** -/
theorem snprintf_fits {buf_size : Nat} {s : List UInt8} (h : s.length < buf_size) :
    (snprintf buf_size s).1.take s.length = s := by
  unfold snprintf
  simp only
  rw [List.take_of_length_le (show s.length ≤ buf_size - 1 by omega), List.take_left' rfl]

/-- **The zero takes the place of the last character.** -/
theorem snprintf_cut {s : List UInt8} (h : s ≠ []) :
    (snprintf s.length s).1 = s.dropLast ++ [0] := by
  have hpos := List.length_pos_iff.mpr h
  unfold snprintf
  simp only [List.length_take]
  rw [List.dropLast_eq_take, show s.length - min (s.length - 1) s.length = 1 by omega]
  rfl

end Backplane.Utils
