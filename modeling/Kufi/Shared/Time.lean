import Mathlib.Data.Int.Init

set_option autoImplicit false

/-!
# Times of the Go runtime

Nanoseconds since the Unix epoch, and the whole milliseconds they are rounded
down to.
-/

namespace Shared

abbrev Time := Int
abbrev Duration := Int

namespace Time

/-- `time.Time{}`: the first instant of year 1. -/
def zero : Time := -62135596800000000000

def unixMilli (time : Time) : Int := time / 1000000

/-- `time.UnixMilli`. -/
def ofUnixMilli (milliseconds : Int) : Time := milliseconds * 1000000

@[simp] theorem unixMilli_ofUnixMilli (milliseconds : Int) :
    unixMilli (ofUnixMilli milliseconds) = milliseconds := by
  unfold unixMilli ofUnixMilli
  omega

theorem unixMilli_mono {first second : Time} (order : first ≤ second) :
    unixMilli first ≤ unixMilli second :=
  Int.ediv_le_ediv (by decide) order

end Time

/-- `Duration.Milliseconds`. -/
def Duration.milliseconds (duration : Duration) : Int := duration.tdiv 1000000

end Shared
