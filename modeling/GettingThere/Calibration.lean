/-
# The calibration of the colour mat (`tcs34725_calib/tcs34725_calib.c`)

A program of its own, without motors and radio.  It leads through eight surfaces; one button
captures the surface the sensor is over, the other goes back by one.  When all are captured it
prints a summary: a row for each surface, and which surfaces can be told apart.

What the sensor answers, the levels of the buttons and the clock are `Outside`, by the number of
the access.  The state also keeps notes that the code does not have: the readings behind each
surface's statistics, with the number of the access that gave them, and the summaries printed.
-/
import GettingThere.CrashLogic
import Mathlib.Data.Int.Notation
import Mathlib.Logic.Function.Basic

open CrashLogic

namespace Calibration

/-! ## Readings and statistics -/

/-- `rgbc_t`. -/
structure Rgbc where
  c : UInt16
  r : UInt16
  g : UInt16
  b : UInt16
  deriving DecidableEq, Repr

/-- `stats_t`; the ratios are times 1000. -/
structure Stats where
  n : UInt32 := 0
  sumC : UInt32 := 0
  sumR : UInt32 := 0
  sumG : UInt32 := 0
  sumB : UInt32 := 0
  minC : UInt16 := 0
  maxC : UInt16 := 0
  sumGr : UInt32 := 0
  sumBr : UInt32 := 0
  minGr : UInt16 := 0
  maxGr : UInt16 := 0
  minBr : UInt16 := 0
  maxBr : UInt16 := 0
  saturated : Bool := false
  deriving DecidableEq, Repr

/-- `FULL_SCALE`. -/
def fullScale : UInt16 := 43 * 1024

/-- `SAMPLES_PER_CAPTURE`. -/
def samplesPerCapture : ℕ := 20

/-- An index into `LABELS`: floor, white edge, rings 1 to 5, and other. -/
abbrev Label := Fin 8

/-- `ratio_x1000`. -/
def ratioX1000 (num den : UInt16) : UInt16 :=
  let value := num.toUInt32 * 1000 / (if den ≠ 0 then den.toUInt32 else 1)
  if value > 65535 then 65535 else value.toUInt16

/-- The statistics at the start of `capture`. -/
def Stats.fresh : Stats := { minC := 0xFFFF, minGr := 0xFFFF, minBr := 0xFFFF }

/-- One round of the loop of `capture`. -/
def Stats.add (st : Stats) (s : Rgbc) : Stats :=
  let gr := ratioX1000 s.g s.r
  let br := ratioX1000 s.b s.r
  { n := st.n + 1
    sumC := st.sumC + s.c.toUInt32
    sumR := st.sumR + s.r.toUInt32
    sumG := st.sumG + s.g.toUInt32
    sumB := st.sumB + s.b.toUInt32
    sumGr := st.sumGr + gr.toUInt32
    sumBr := st.sumBr + br.toUInt32
    minC := if s.c < st.minC then s.c else st.minC
    maxC := if s.c > st.maxC then s.c else st.maxC
    minGr := if gr < st.minGr then gr else st.minGr
    maxGr := if gr > st.maxGr then gr else st.maxGr
    minBr := if br < st.minBr then br else st.minBr
    maxBr := if br > st.maxBr then br else st.maxBr
    saturated := st.saturated || decide (s.c ≥ fullScale - 1) }

/-! ## Summary -/

/-- The numbers of a row of the summary. -/
structure Row where
  n : UInt32
  cMean : UInt32
  cMin : UInt16
  cMax : UInt16
  rMean : UInt32
  gMean : UInt32
  bMean : UInt32
  grMean : UInt32
  grMin : UInt16
  grMax : UInt16
  brMean : UInt32
  brMin : UInt16
  brMax : UInt16
  saturated : Bool
  deriving DecidableEq, Repr

/-- The quantities that `compare` compares. -/
inductive Quantity
  | c
  | gr
  deriving DecidableEq, Repr

/-- A line of the summary with its numbers and its verdict. -/
inductive Line
  | csv (label : Label) (row : Option Row)
  | gap (lighter darker : Label) (quantity : Quantity) (gap : ℤ) (separate : Bool)
  | distinguish (x y : Label) (cGap grGap : ℤ) (distinguishable : Bool)
  deriving DecidableEq, Repr

/-- The row of a surface. -/
def Stats.row (st : Stats) : Row where
  n := st.n
  cMean := st.sumC / st.n
  cMin := st.minC
  cMax := st.maxC
  rMean := st.sumR / st.n
  gMean := st.sumG / st.n
  bMean := st.sumB / st.n
  grMean := st.sumGr / st.n
  grMin := st.minGr
  grMax := st.maxGr
  brMean := st.sumBr / st.n
  brMin := st.minBr
  brMax := st.maxBr
  saturated := st.saturated

/-- The row of the CSV block, if the surface was captured. -/
def csv (results : Label → Stats) (label : Label) : Line :=
  .csv label (if (results label).n = 0 then none else some (results label).row)

/-- `print_gap`. -/
def printGap (lighter darker : Label) (quantity : Quantity) (lighterMin darkerMax : UInt16) :
    Line :=
  let gap : ℤ := lighterMin.toNat - darkerMax.toNat
  .gap lighter darker quantity gap (decide (gap > 0))

/-- `compare`. -/
def compare (results : Label → Stats) (lighter darker : Label) : List Line :=
  let a := results lighter
  let b := results darker
  if a.n = 0 ∨ b.n = 0 then []
  else [printGap lighter darker .c a.minC b.maxC, printGap lighter darker .gr a.minGr b.maxGr]

/-- `range_gap`. -/
def rangeGap (aMin aMax bMin bMax : ℤ) : ℤ :=
  if aMin > bMax then aMin - bMax else bMin - aMax

/-- `distinguish`. -/
def distinguish (results : Label → Stats) (x y : Label) : List Line :=
  let a := results x
  let b := results y
  if a.n = 0 ∨ b.n = 0 then []
  else
    let cGap := rangeGap a.minC.toNat a.maxC.toNat b.minC.toNat b.maxC.toNat
    let grGap := rangeGap a.minGr.toNat a.maxGr.toNat b.minGr.toNat b.maxGr.toNat
    [.distinguish x y cGap grGap (decide (cGap > 0 ∨ grGap > 0))]

/-- `FIRST_MAT` to `LAST_MAT`: the surfaces of the mat. -/
def mat : List Label := [1, 2, 3, 4, 5, 6]

/-- The floor, label 0. -/
def floorLabel : Label := 0

/-- `OTHER_LABEL`. -/
def otherLabel : Label := 7

/-- The lines of `print_summary`. -/
def printSummary (results : Label → Stats) : List Line :=
  (List.finRange 8).map (csv results) ++
    (mat.zip mat.tail).flatMap (fun i => compare results i.1 i.2) ++
    mat.flatMap (distinguish results floorLabel) ++
    mat.flatMap (distinguish results otherLabel)

/-! ## Program state -/

/-- The answer to a transfer: what `i2c_write_blocking_until` or `i2c_read_blocking_until` returns,
and the bytes that were read. -/
structure Transfer where
  result : ℤ
  data : ℕ → UInt8

/-- What the program meets, by the number of the access. -/
structure Outside where
  /-- to the bytes written, which are none for a read -/
  transfers : ℕ → List UInt8 → Transfer
  /-- `gpio_get` -/
  levels : ℕ → ℕ → Bool
  /-- `to_ms_since_boot(get_absolute_time())` -/
  clock : ℕ → UInt32

/-- A reading, with the number of the access that gave it. -/
abbrev Sample := ℕ × Rgbc

/-- A summary that was printed, and the readings behind it, the latest first. -/
structure Summary where
  lines : List Line
  samples : Label → List Sample

/-- The program with its surroundings. -/
structure Calib where
  outside : Outside
  /-- the number of the next access -/
  tick : ℕ
  i2cErrors : UInt32
  results : Label → Stats
  label : Fin 9
  nextLiveMs : UInt32
  /-- note: the readings in `results`, the latest first -/
  samples : Label → List Sample
  /-- note: the summaries printed -/
  summaries : List Summary

/-- At the start of the program. -/
def Calib.start (outside : Outside) : Calib where
  outside := outside
  tick := 0
  i2cErrors := 0
  results := fun _ => {}
  label := 0
  nextLiveMs := 0
  samples := fun _ => []
  summaries := []

/-! ## Sensor -/

/-- The number of an access, which is over. -/
def access : Cmd Calib ℕ := do
  let s ← get
  modify fun s => { s with tick := s.tick + 1 }
  return s.tick

/-- One transfer, of the bytes to write or of none. -/
def transfer (sent : List UInt8) : Cmd Calib Transfer := do
  let k ← access
  let s ← get
  return s.outside.transfers k sent

/-- `i2c_errors++`. -/
def countError : Cmd Calib Unit := modify fun s => { s with i2cErrors := s.i2cErrors + 1 }

/-- `tcs_read`. -/
def tcsRead (reg : UInt8) (len : ℕ) : Cmd Calib (Option (ℕ → UInt8)) := do
  let select ← transfer [0xA0 ||| reg]
  if select.result ≠ 1 then
    countError
    return none
  let t ← transfer []
  if t.result ≠ len then
    countError
    return none
  return some t.data

/-- `tcs_write`. -/
def tcsWrite (reg value : UInt8) : Cmd Calib Bool := do
  let t ← transfer [0x80 ||| reg, value]
  if t.result ≠ 2 then
    countError
    return false
  return true

/-- `TCS_GAIN`. -/
def tcsGain : UInt8 := 1

/-- `tcs_start`: `REG_ID`, then `REG_ATIME`, `REG_CONTROL` and `REG_ENABLE` twice. -/
def tcsStart : Cmd Calib Bool := do
  match ← tcsRead 0x12 1 with
  | none => return false
  | some id =>
    if id 0 ≠ 0x44 ∧ id 0 ≠ 0x4D then
      return false
    if !(← tcsWrite 0x01 0xD5) then
      return false
    if !(← tcsWrite 0x0F tcsGain) then
      return false
    if !(← tcsWrite 0x00 0x01) then
      return false
    tcsWrite 0x00 (0x01 ||| 0x02)

/-- Two bytes of the sensor, low byte first. -/
def word (low high : UInt8) : UInt16 := low.toUInt16 ||| (high.toUInt16 <<< 8)

/-- The reading in the data registers. -/
def rgbcOf (d : ℕ → UInt8) : Rgbc where
  c := word (d 0) (d 1)
  r := word (d 2) (d 3)
  g := word (d 4) (d 5)
  b := word (d 6) (d 7)

/-- `tcs_sample`: `REG_STATUS` with `STATUS_AVALID`, then the data from `REG_CDATAL` on. -/
def tcsSample : Cmd Calib (Option Rgbc) := do
  match ← tcsRead 0x13 1 with
  | none => return none
  | some status =>
    if status 0 &&& 0x01 = 0 then
      return none
    match ← tcsRead 0x14 8 with
    | none => return none
    | some d => return some (rgbcOf d)

/-! ## Buttons -/

/-- `gpio_get`. -/
def gpioGet (pin : ℕ) : Cmd Calib Bool := do
  let k ← access
  let s ← get
  return s.outside.levels k pin

/-- `pressed`: true once for a press, when the button is up again. -/
def pressed (n pin : ℕ) : Cmd Calib Bool := do
  if ← gpioGet pin then
    return false
  if ← gpioGet pin then
    return false
  iterate n (fun _ => do
    if ← gpioGet pin then
      return .inr true
    return .inl ()) ()

/-! ## Capture -/

/-- A reading is added to the statistics of a surface, and noted. -/
def Calib.addSample (s : Calib) (label : Label) (rgbc : Rgbc) : Calib :=
  { s with
    results := Function.update s.results label ((s.results label).add rgbc)
    samples := Function.update s.samples label ((s.tick - 1, rgbc) :: s.samples label) }

/-- The statistics of a surface start anew. -/
def Calib.clear (s : Calib) (label : Label) : Calib :=
  { s with
    results := Function.update s.results label .fresh
    samples := Function.update s.samples label [] }

/-- The loop of `capture`, with so many attempts left. -/
def captureLoop (label : Label) : ℕ → Cmd Calib Unit
  | 0 => pure ()
  | attempts + 1 => do
    let s ← get
    if (s.results label).n < UInt32.ofNat samplesPerCapture then
      match ← tcsSample with
      | none => pure ()
      | some rgbc => modify (·.addSample label rgbc)
      captureLoop label attempts

/-- `capture`. -/
def capture (label : Label) : Cmd Calib Unit := do
  modify (·.clear label)
  captureLoop label (samplesPerCapture * 3)

/-! ## Main loop -/

/-- `results[label].n = 0`. -/
def Calib.drop (s : Calib) (label : Label) : Calib :=
  { s with results := Function.update s.results label { s.results label with n := 0 } }

/-- A new round: no surface is captured. -/
def Calib.newRound (s : Calib) : Calib :=
  { s with
    results := fun label => { s.results label with n := 0 }
    label := 0 }

/-- The summary is printed, and noted. -/
def Calib.summarise (s : Calib) : Calib :=
  { s with summaries := ⟨printSummary s.results, s.samples⟩ :: s.summaries }

/-- The capture button: a new round, or the capture of the next surface. -/
def onCapture : Cmd Calib Unit := do
  let s ← get
  if h : s.label.val < 8 then
    let label : Label := ⟨s.label, h⟩
    capture label
    let s ← get
    if (s.results label).n ≠ 0 then
      modify fun s => { s with label := label.succ }
      if label.succ = Fin.last 8 then
        modify (·.summarise)
  else
    modify (·.newRound)

/-- The back button: the surface before is to be captured again. -/
def onBack : Cmd Calib Unit := do
  let s ← get
  if h : s.label ≠ 0 then
    let label := s.label.pred h
    modify fun s => { s.drop label with label := label.castSucc }

/-- `LIVE_PERIOD_MS`. -/
def livePeriodMs : UInt32 := 500

/-- The live reading, which is printed and forgotten. -/
def live : Cmd Calib Unit := do
  let k ← access
  let s ← get
  let now := s.outside.clock k
  if s.label ≠ Fin.last 8 ∧ (now - s.nextLiveMs).toInt32 ≥ 0 then
    let _ ← tcsSample
    modify fun s => { s with nextLiveMs := now + livePeriodMs }

/-- `CAPTURE_BUTTON`. -/
def captureButton : ℕ := 20

/-- `BACK_BUTTON`. -/
def backButton : ℕ := 21

/-- One round of the main loop. -/
def round (n : ℕ) : Cmd Calib Unit := do
  if ← pressed n captureButton then
    onCapture
  -- the button is read also when no surface is left to go back to
  if ← pressed n backButton then
    onBack
  live

/-- `main`, observed for `n` rounds of its loops: the sensor is started until it answers. -/
def main (n : ℕ) : Cmd Calib Empty := do
  iterate n (fun _ => do
    if ← tcsStart then
      return .inr ()
    return .inl ()) ()
  iterate n (fun _ => do
    round n
    return .inl ()) ()

end Calibration
