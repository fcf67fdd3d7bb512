import Mathlib.Algebra.Order.Ring.Int

/-!
# The circular buffer

Model of `CCircularBuffer` (`include/f_core/utils/circular_buffer.hpp`). `oldest_index` carries
its bound: it starts at 0 and `AddSample` reduces it modulo the length, so the buffer is never
indexed outside the array by `OldestSample`, `operator[]` or `AddSample`.
-/

namespace Backplane.Utils

/-- `CCircularBuffer<ValueT, Length>`. -/
structure CCircularBuffer (ValueT : Type) (Length : Nat) where
  oldest_index : Nat
  oldest_index_lt : oldest_index < Length
  underlying : Vector ValueT Length

variable {ValueT : Type} {Length : Nat}

/-- The constructor: `Fill(initial_value)`. -/
def CCircularBuffer.new [NeZero Length] (initial_value : ValueT) :
    CCircularBuffer ValueT Length :=
  { oldest_index := 0
    oldest_index_lt := Nat.pos_of_neZero Length
    underlying := Vector.replicate Length initial_value }

/-- `Fill`: the index stays. -/
def CCircularBuffer.fill (b : CCircularBuffer ValueT Length) (value : ValueT) :
    CCircularBuffer ValueT Length :=
  { b with underlying := Vector.replicate Length value }

/-- `AddSample`. -/
def CCircularBuffer.addSample (b : CCircularBuffer ValueT Length) (value : ValueT) :
    CCircularBuffer ValueT Length :=
  { oldest_index := (b.oldest_index + 1) % Length
    oldest_index_lt := Nat.mod_lt _ (Nat.zero_lt_of_lt b.oldest_index_lt)
    underlying := b.underlying.set b.oldest_index value b.oldest_index_lt }

/-- `Size`. -/
def CCircularBuffer.size (_ : CCircularBuffer ValueT Length) : Nat := Length

/-- `OldestSample`. -/
def CCircularBuffer.oldestSample (b : CCircularBuffer ValueT Length) : ValueT :=
  b.underlying.get ⟨b.oldest_index, b.oldest_index_lt⟩

/-- The index that `NewestSample` computes in `std::size_t`, with its largest value `SIZE_MAX`. -/
def CCircularBuffer.newestIndex (SIZE_MAX : Nat) (b : CCircularBuffer ValueT Length) : Nat :=
  let newset_index := (b.oldest_index + SIZE_MAX) % (SIZE_MAX + 1)
  -- an unsigned index is never below 0
  if newset_index < 0 then (newset_index + Length) % (SIZE_MAX + 1) else newset_index

/-- `NewestSample`: `none` where it reads outside the array. -/
def CCircularBuffer.newestSample (SIZE_MAX : Nat) (b : CCircularBuffer ValueT Length) :
    Option ValueT :=
  b.underlying.toList[b.newestIndex SIZE_MAX]?

/-- The index that `operator[]` computes in `std::size_t`. -/
def CCircularBuffer.realIndex (SIZE_MAX : Nat) (b : CCircularBuffer ValueT Length) (index : Nat) :
    Nat :=
  let real_index := (b.oldest_index + index) % (SIZE_MAX + 1)
  real_index % Length

/-- `operator[]`, where `oldest_index + index` fits in `std::size_t`: 0 is the oldest sample,
indices past the size wrap around. -/
def CCircularBuffer.at (b : CCircularBuffer ValueT Length) (index : Nat) : ValueT :=
  b.underlying.get
    ⟨(b.oldest_index + index) % Length, Nat.mod_lt _ (Nat.zero_lt_of_lt b.oldest_index_lt)⟩

end Backplane.Utils
