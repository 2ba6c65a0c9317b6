/-
# The robot under the firmware (`motion.c`, `wifi_sampler.c`)

The statics of the two files, the motor pins, and what comes from outside: the level of GP21,
the clock, the gyro, the radio and the report.  A function of the firmware is a command on
`Robot`; whenever it asks for something from outside, the answer is the one of `Outside` for
this moment, and the moments are counted by `tick`.

A loop is observed for `rounds` rounds at most, and for any `rounds`.  Notes on the run are
kept in `events` and in `acts`, the latest first: `events` is about STOP and the motor pins,
`acts` about what may happen only at certain moments.  Of a line of the report only the moment
is kept, not the text.
-/
import GettingThere.CrashLogic
import GettingThere.Faults
import GettingThere.PackedBits
import Mathlib.Logic.Function.Basic

open CrashLogic

/-! ## What comes from outside -/

/-- What the hardware and the other tasks answer, for each moment. -/
structure Outside where
  /-- GP21 reads low -/
  gp21 : ℕ → Bool
  /-- a radio callback has read GP21 low since the last time -/
  gp21Callback : ℕ → Bool
  timeUs : ℕ → UInt64
  imuInit : ℕ → Bool
  /-- the Z rate the gyro reads, if it can be read -/
  gyroZ : ℕ → Option Float32
  verifyConfig : ℕ → Bool
  reportOk : ℕ → Bool
  scanError : ℕ → Bool
  scanActive : ℕ → Bool
  /-- the code of the finished scan, and whether it came in while stopped -/
  scanResult : ℕ → ℕ × Bool
  /-- a loop is observed for this number of rounds -/
  rounds : ℕ
  /-- the build option `LINE_SEARCH_MOVING_SAMPLES` -/
  movingSamples : Bool

/-! ## Statics -/

/-- The motor pins. -/
inductive Pin
  | m1A
  | m1B
  | m2A
  | m2B
  deriving DecidableEq, Repr

/-- The states of `turn_sign`. -/
inductive TurnSign
  | unknown
  | positive
  | negative
  deriving DecidableEq, Repr

/-- `turn_sign`. -/
def TurnSign.toFloat : TurnSign → Float32
  | .unknown => 0
  | .positive => 1
  | .negative => -1

/-- `drive`. -/
structure Drive where
  active : Bool
  pending : Bool
  failed : Bool
  speed : ℤ
  peakAdjustment : ℤ
  startedMs : UInt32
  elapsedMs : UInt32
  durationMs : UInt32
  previousUs : UInt64
  targetHeading : Float32
  startHeading : Float32

/-- `wifi_sample_t`. -/
structure WifiSample where
  code : ℕ
  spread : ℕ
  deriving DecidableEq, Repr

/-- The statics of `wifi_sampler.c`. -/
structure Sampler where
  recordCount : ℕ
  scanOpen : Bool
  movingScan : Bool
  fallback : Bool
  samplerFailed : Bool
  pendingCode : ℕ
  qualificationWindows : ℕ
  scanStartedMs : UInt32
  maxStartMs : UInt32
  movingReference : WifiSample
  movingCodes : List ℕ
  movingWindowStartedMs : UInt32

/-- What is noted of a run. -/
inductive Event
  /-- `stop_pressed`: whether GP21 was read low while STOP was armed, and its result -/
  | polled (low result : Bool)
  /-- `pwm_set_gpio_level` -/
  | level (pin : Pin) (n : ℕ)
  /-- `sleep_ms`, with the levels of the pins -/
  | sleep (levels : Pin → ℕ)
  /-- `motion_arm_stop` -/
  | armed

/-- What may happen only at certain moments. -/
inductive Act
  /-- `report_printf` or `report_flush_usb`, outside the radio callbacks -/
  | line
  /-- `motors_set` may power the motors -/
  | power
  /-- `run_attempt` starts an attempt -/
  | attempt
  /-- a sector of the flash is erased, or a page is programmed -/
  | flash
  /-- `run_attempt` returns `PAYLOAD_COMPLETE` -/
  | delivered
  deriving DecidableEq, Repr

/-- The moment of an act. -/
structure Moment where
  levels : Pin → ℕ
  radioOn : Bool
  scanOpen : Bool
  samplerFailed : Bool
  attemptRunning : Bool
  attemptLost : Bool

/-- The robot. -/
structure Robot where
  outside : Outside
  tick : ℕ
  levels : Pin → ℕ
  stopArmed : Bool
  turnSign : TurnSign
  faults : Faults
  motorsPowered : Bool
  movingRecoveries : ℕ
  gyroUncertaintyDegrees : Float32
  gyroHeadingDegrees : Float32
  gyroBiasDps : Float32
  drive : Drive
  sampler : Sampler
  /-- between `cyw43_arch_init` and `cyw43_arch_deinit` -/
  radioOn : Bool
  /-- `F_ATTEMPT_RUNNING` of `payload_client.c` -/
  attemptRunning : Bool
  /-- `run_attempt` has returned `PAYLOAD_FATAL` with its attempt still running -/
  attemptLost : Bool
  events : List Event
  acts : List (Act × Moment)

/-- The robot when the firmware starts: the statics are zero, the pins are at any level. -/
def Robot.powerOn (outside : Outside) (levels : Pin → ℕ) : Robot where
  outside := outside
  tick := 0
  levels := levels
  stopArmed := false
  turnSign := .unknown
  faults := ∅
  motorsPowered := false
  movingRecoveries := 0
  gyroUncertaintyDegrees := 0
  gyroHeadingDegrees := 0
  gyroBiasDps := 0
  drive :=
    { active := false, pending := false, failed := false, speed := 0, peakAdjustment := 0,
      startedMs := 0, elapsedMs := 0, durationMs := 0, previousUs := 0, targetHeading := 0,
      startHeading := 0 }
  sampler :=
    { recordCount := 0, scanOpen := false, movingScan := false, fallback := false,
      samplerFailed := false, pendingCode := 0, qualificationWindows := 0, scanStartedMs := 0,
      maxStartMs := 0, movingReference := ⟨0, 0⟩, movingCodes := [], movingWindowStartedMs := 0 }
  radioOn := false
  attemptRunning := false
  attemptLost := false
  events := []
  acts := []

namespace Robot

/-! ## Questions and notes -/

/-- Asks for something from outside. -/
def ask {α : Type} (answer : Outside → ℕ → α) : Cmd Robot α := do
  let s ← get
  set { s with tick := s.tick + 1 }
  return answer s.outside s.tick

/-- Notes an event. -/
def note (e : Event) : Cmd Robot Unit := modify fun s => { s with events := e :: s.events }

/-- The moment of an act. -/
def moment (s : Robot) : Moment where
  levels := s.levels
  radioOn := s.radioOn
  scanOpen := s.sampler.scanOpen
  samplerFailed := s.sampler.samplerFailed
  attemptRunning := s.attemptRunning
  attemptLost := s.attemptLost

/-- The robot after an act. -/
def acted (a : Act) (s : Robot) : Robot := { s with acts := (a, s.moment) :: s.acts }

/-- Notes an act, with its moment. -/
def act (a : Act) : Cmd Robot Unit := modify (acted a)

/-- `report_printf`. -/
def reportPrintf : Cmd Robot Unit := act .line

/-- `report_flush_usb`. -/
def reportFlushUsb : Cmd Robot Unit := act .line

/-- Repeats `body` until it has a result. -/
def loop {β γ : Type} (body : β → Cmd Robot (β ⊕ γ)) (b : β) : Cmd Robot γ := do
  let s ← get
  iterate s.outside.rounds body b

/-- `fault_raise`. -/
def faultRaise (f : Fault) : Cmd Robot Unit := modify fun s => { s with faults := s.faults.raise f }

/-- `fault_clear`, for the faults that are cleared at all. -/
def faultClear (f : Fault) : Cmd Robot Unit := modify fun s => { s with faults := s.faults.clear f }

/-- `now_ms`. -/
def nowMs : Cmd Robot UInt32 := do
  let us ← ask Outside.timeUs
  return (us / 1000).toUInt32

/-- `sleep_ms`. -/
def sleepMs : Cmd Robot Unit := do
  let s ← get
  note (.sleep s.levels)

/-- `pwm_set_gpio_level`. -/
def pwmSetGpioLevel (pin : Pin) (n : ℕ) : Cmd Robot Unit := do
  modify fun s => { s with levels := Function.update s.levels pin n }
  note (.level pin n)

end Robot
