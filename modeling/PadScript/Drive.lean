import PadScript.Play

/-!
# A play and the end of its output

A drive plays a script on an output and then closes the output, however the play
ended. A fault of the play is reported rather than one of closing.
-/

namespace PadScript

inductive Drive
  | playing (play : Play)
  | closing (result : Except Fault Outcome)
  | finished (result : Except Report Outcome)

namespace Drive

def report (result : Except Fault Outcome) (closeFailure : Option Report) : Except Report Outcome :=
  match result, closeFailure with
  | .error fault, _ => .error ((Report.ofFault fault).within "output failed")
  | .ok _, some failure => .error failure
  | .ok outcome, none => .ok outcome

/-- One action of the play, or closing. `closeFailure` is the output's answer to
being closed at this moment. -/
def advance (drive : Drive) (moment : Moment) (closeFailure : Option Report) :
    Drive × Option Event :=
  match drive with
  | playing play =>
    match play.result? with
    | some result => (closing result, none)
    | none =>
      let (play, event) := play.advance moment
      (playing play, event)
  | closing result => (finished (report result closeFailure), some (.closed closeFailure))
  | finished result => (finished result, none)

end Drive

end PadScript
