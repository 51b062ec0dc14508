/-!
# The status line

Which pass of a loop is under way, and how long it is to the next planned hit.
-/

namespace PadScript.Screen

/-- Frames in a second, as the display rounds it. -/
def framesPerSecond : Int := 60

/-- Whole seconds until the hit, or a warning once it is late by a second. Seconds
are cut off toward zero, so that a hit less than a second late still reads 0. -/
def remainingText (frames : Int) : String :=
  let seconds := frames.tdiv framesPerSecond
  if seconds < 0 then "Not in time!" else toString seconds ++ " [sec]"

/-- The pass under way, from 1, if a loop was asked for. -/
def loopText? (pass : Int32) : Option Int32 → Option String
  | none => none
  | some passes =>
    if passes < 0 then some "Loop until stopped"
    else if pass = -1 then none
    else some ("Loop " ++ toString (pass + 1).toInt ++ "/" ++ toString passes.toInt)

def statusLine (pass : Int32) (passes : Option Int32) (remaining : Option Int) : String :=
  "  ".intercalate ((loopText? pass passes).toList ++ (remaining.map remainingText).toList)

end PadScript.Screen
