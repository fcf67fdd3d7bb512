import Backplane.Utils.CircularBuffer

/-!
# Rolling sums and the slope of a window

Model of `CRollingSum`, `CMovingAverage`, `LinearFitSample` and `FindSlope`
(`include/f_core/utils/linear_fit.hpp`), over any scalar with the operations the templates use. No
law of arithmetic is assumed, so the model covers `double` with rounding and NaN as well as exact
rationals.
-/

namespace Backplane.Utils

/-- `CRollingSum<T, len>`. -/
structure CRollingSum (T : Type) (len : Nat) where
  total : T
  buf : CCircularBuffer T len

/-- `Sum`. -/
def CRollingSum.sum {T : Type} {len : Nat} (r : CRollingSum T len) : T := r.total

/-- `Size`. -/
def CRollingSum.size {T : Type} {len : Nat} (_ : CRollingSum T len) : Nat := len

/-- `Fill`: the total is summed up again, oldest sample first. -/
def CRollingSum.fill {T : Type} {len : Nat} [Add T] (r : CRollingSum T len) (start : T) :
    CRollingSum T len :=
  let buf := r.buf.fill start
  { buf := buf
    total := (List.range' 1 (buf.size - 1)).foldl (fun total i => total + buf.at i)
      buf.oldestSample }

/-- The constructor. -/
def CRollingSum.new {T : Type} {len : Nat} [Add T] [NeZero len] (start : T) :
    CRollingSum T len :=
  CRollingSum.fill { total := start, buf := CCircularBuffer.new start } start

/-- `Feed`. -/
def CRollingSum.feed {T : Type} {len : Nat} [Add T] [Sub T] (r : CRollingSum T len)
    (new_value : T) : CRollingSum T len :=
  let oldest := r.buf.oldestSample
  { total := r.total - oldest + new_value
    buf := r.buf.addSample new_value }

/-- `CMovingAverage<T, len>`. -/
structure CMovingAverage (T : Type) (len : Nat) where
  rolling_sum : CRollingSum T len

/-- The constructor. -/
def CMovingAverage.new {T : Type} {len : Nat} [Add T] [NeZero len] (start : T) :
    CMovingAverage T len :=
  { rolling_sum := CRollingSum.new start }

/-- `Feed`. -/
def CMovingAverage.feed {T : Type} {len : Nat} [Add T] [Sub T] (m : CMovingAverage T len)
    (value : T) : CMovingAverage T len :=
  { rolling_sum := m.rolling_sum.feed value }

/-- `Avg`. -/
def CMovingAverage.avg {T : Type} {len : Nat} [Div T] [NatCast T] (m : CMovingAverage T len) : T :=
  m.rolling_sum.sum / (len : T)

/-- `Fill`. -/
def CMovingAverage.fill {T : Type} {len : Nat} [Add T] (m : CMovingAverage T len) (start : T) :
    CMovingAverage T len :=
  { rolling_sum := m.rolling_sum.fill start }

/-- `LinearFitSample<T>`. -/
@[ext] structure LinearFitSample (T : Type) where
  x : T
  y : T
  xx : T
  xy : T

/-- `LinearFitSample(x, y)`. -/
def LinearFitSample.new {T : Type} [Mul T] (x y : T) : LinearFitSample T :=
  { x := x, y := y, xx := x * x, xy := x * y }

instance {T : Type} [Add T] : Add (LinearFitSample T) where
  add a o := { x := a.x + o.x, y := a.y + o.y, xx := a.xx + o.xx, xy := a.xy + o.xy }

instance {T : Type} [Sub T] : Sub (LinearFitSample T) where
  sub a o := { x := a.x - o.x, y := a.y - o.y, xx := a.xx - o.xx, xy := a.xy - o.xy }

/-- `FindSlope`: the slope, or `none` where it returns false. -/
def findSlope {T : Type} [Sub T] [Mul T] [Div T] [NatCast T] [BEq T] {windowSize : Nat}
    (data : CRollingSum (LinearFitSample T) windowSize) : Option T :=
  let N : T := data.size
  let E := data.sum
  let denom := N * E.xx - E.x * E.x
  if denom == (Nat.cast 0 : T) then
    -- Would have divided by zero
    none
  else some ((N * E.xy - E.x * E.y) / denom)

end Backplane.Utils
