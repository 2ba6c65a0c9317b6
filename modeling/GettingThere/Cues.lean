/-
# The cues (`getting_there/robot_cues.c` and the tables of `beacon_server.c`)
-/
import GettingThere.TonePlayer

namespace TonePlayer

/-- A note of a table. -/
def N (freqHz : UInt16) (ms : ℕ) (h : 1 ≤ ms := by decide) : Note := ⟨freqHz, ms, h⟩

/-! ## The robot -/

/-- `robot_cue_t`. -/
inductive RobotCue
  | start
  | calibrating
  | pass
  | inRange
  | collected
  | fault
  deriving DecidableEq, Repr

/-- `start`. -/
def start : List Note := [N 2000 80]

/-- `calibrating`. -/
def calibrating : List Note := [N 1500 200]

/-- `pass`. -/
def pass : List Note := [N 1800 600]

/-- `in_range`: the gaps shrink. -/
def inRange : List Note :=
  [N 3000 60, N 0 300, N 3000 60, N 0 220, N 3000 60, N 0 160, N 3000 60, N 0 110, N 3000 60,
    N 0 80, N 3000 50, N 0 60]

/-- `IN_RANGE_LOOP_FROM`. -/
def inRangeLoopFrom : ℕ := 10

/-- `collected`: three rising beeps. -/
def collected : List Note := [N 1500 200, N 0 80, N 2000 200, N 0 80, N 2700 350]

/-- `fault`: three falling beeps. -/
def fault : List Note := [N 1500 250, N 0 120, N 1000 250, N 0 120, N 700 500]

/-- `cue_play`, as a move of the player. -/
def cuePlay (cue : RobotCue) (granted : ℤ) : Action :=
  match cue with
  | .start => .play start false granted
  | .calibrating => .play calibrating true granted
  | .pass => .play pass false granted
  | .inRange => .playLoopingTail inRange inRangeLoopFrom granted
  | .collected => .play collected false granted
  | .fault => .play fault false granted

/-- `cue_stop`. -/
def cueStop : Action := .stop

/-! ## The beacon -/

/-- `cue_alive`. -/
def cueAlive : List Note := [N 2000 60]

/-- `cue_connected`. -/
def cueConnected : List Note := [N 3000 80, N 0 120]

/-- `cue_complete`. -/
def cueComplete : List Note := [N 1500 200, N 0 80, N 2000 200, N 0 80, N 2700 350]

end TonePlayer
