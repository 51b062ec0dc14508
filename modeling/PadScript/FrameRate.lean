/-!
# Video frames and milliseconds

The console draws about 59.73 frames a second. Both conversions are one product
and one quotient of doubles, cut off toward zero.
-/

namespace PadScript

namespace FrameRate

def perSecond : Float := 59.7275

def toMillis (frame : UInt32) : UInt64 := (frame.toFloat * 1000.0 / perSecond).toUInt64

/-- The whole frames in `ms` milliseconds. There are fewer frames than milliseconds,
at most about 2 ^ 60, so the sign bit stays clear. -/
def ofMillis (ms : UInt64) : Int64 := (ms.toFloat * perSecond / 1000.0).toUInt64.toInt64

example : toMillis 0 = 0 := by decide +kernel

example : toMillis 60 = 1004 := by decide +kernel

example : ofMillis 1000 = 59 := by decide +kernel

end FrameRate

end PadScript
