/-
# Wi-Fi scans (`getting_there/wifi_sampler.c`)

A sample is taken from five scans while the robot stands still.  With the build option
`LINE_SEARCH_MOVING_SAMPLES` scans also run during a drive, once stationary windows have
qualified; they can end the drive early, and nothing else.

`canContinue` is the function `wifi_sampler_init` is given.  Positions and times of the
records, which only the report prints, are left out.
-/
import GettingThere.Motion
import Mathlib.Algebra.GroupWithZero.Nat
import Mathlib.Data.List.Sort

open CrashLogic PackedBits

/-! ## The filter -/

/-- `SCANS_PER_SAMPLE` and `MIN_VALID_SCANS`. -/
def scansPerSample : ℕ := 5
def minValidScans : ℕ := 3

/-- A sample without a reading. -/
def WifiSample.missing : WifiSample := ⟨rssiMissingCode, 0⟩

/-- The readings `wifi_filter` keeps, in order. -/
def sortedCodes (codes : List ℕ) : List ℕ :=
  ((codes.take scansPerSample).filter fun c => c < rssiMissingCode ∧ c ≠ 0).insertionSort (· ≤ ·)

/-- `wifi_filter`: the mean of the readings without the outer quarters, and their range. -/
def wifiFilter (codes : List ℕ) : WifiSample :=
  let sorted := sortedCodes codes
  let valid := sorted.length
  if valid < minValidScans then .missing
  else
    let trim := valid / 4
    let kept := valid - 2 * trim
    let sum := ((sorted.drop trim).take kept).sum
    ⟨(sum + kept / 2) / kept, sorted.getD (valid - trim - 1) 0 - sorted.getD trim 0⟩

namespace Robot

/-! ## Scans -/

/-- `WIFI_RECORD_CAPACITY`. -/
def wifiRecordCapacity : ℕ := 64

/-- Changes the statics of the sampler. -/
def setSampler (f : Sampler → Sampler) : Cmd Robot Unit :=
  modify fun s => { s with sampler := f s.sampler }

/-- The scan has run for this time. -/
def scanAge : Cmd Robot UInt32 := do
  let now ← nowMs
  let s ← get
  return now - s.sampler.scanStartedMs

/-- The moving acquisition ends for good, and the robot stops. -/
def fallBack : Cmd Robot Unit := do
  setSampler fun p => { p with fallback := true }
  motionStop

/-- The sampler fails for good. -/
def failSampler (f : Fault) : Cmd Robot Unit := do
  motionStop
  faultRaise f
  setSampler fun p => { p with samplerFailed := true }

/-- `wifi_sampler_moving_enabled`. -/
def movingEnabled (s : Robot) : Bool :=
  s.outside.movingSamples && !s.sampler.fallback && decide (3 ≤ s.sampler.qualificationWindows)

/-- `wifi_sampler_init`. -/
def wifiSamplerInit : Cmd Robot Unit := do
  setSampler fun p => { p with
    recordCount := 0
    scanOpen := false
    movingScan := false
    fallback := false
    samplerFailed := false
    qualificationWindows := 0
    maxStartMs := 0
    movingReference := .missing
    movingCodes := [] }
  reportPrintf

/-- `wifi_sampler_set_position`, as far as the moving window goes. -/
def wifiSamplerSetPosition : Cmd Robot Unit := do
  let now ← nowMs
  setSampler fun p => { p with movingCodes := [], movingWindowStartedMs := now }

/-- `wifi_sampler_set_reference`. -/
def wifiSamplerSetReference (reference : WifiSample) : Cmd Robot Unit :=
  setSampler fun p => { p with movingReference := reference }

/-- `sampler_begin`. -/
def samplerBegin (canContinue : Cmd Robot Bool) (moving : Bool) : Cmd Robot Bool := do
  let s ← get
  if s.sampler.samplerFailed || s.sampler.scanOpen then
    return false
  if !(← canContinue) then
    return false
  let s ← get
  if wifiRecordCapacity ≤ s.sampler.recordCount then
    failSampler .profile
    return false
  let started ← nowMs
  setSampler fun p => { p with
    pendingCode := rssiMissingCode
    scanStartedMs := started
    scanOpen := true
    movingScan := moving
    movingWindowStartedMs :=
      if moving ∧ p.movingCodes = [] then started else p.movingWindowStartedMs }
  let error ← ask Outside.scanError
  let elapsed ← scanAge
  setSampler fun p => { p with maxStartMs := max p.maxStartMs elapsed }
  if error then
    setSampler fun p => { p with scanOpen := false }
    failSampler .wifiScan
    reportPrintf
    return false
  if moving && decide (5 < elapsed) then
    fallBack
  return true

/-- A moving scan without a reading, or too late for its window. -/
def scanLost (code : ℕ) : Cmd Robot Bool := do
  if code = rssiMissingCode then
    return true
  let now ← nowMs
  let s ← get
  return decide (750 < now - s.sampler.movingWindowStartedMs)

/-- The part of `sampler_collect` for a scan that was started while the robot moved. -/
def collectMoving (code : ℕ) (stopped : Bool) : Cmd Robot Unit := do
  if ← scanLost code then
    fallBack
  else if stopped then
    setSampler fun p => { p with movingCodes := [] }
  else
    setSampler fun p => { p with movingCodes := p.movingCodes ++ [code] }
    let s ← get
    if s.sampler.movingCodes.length = scansPerSample then
      let sample := wifiFilter s.sampler.movingCodes
      let reference := s.sampler.movingReference
      let margin := max 3 (reference.spread + sample.spread + 1)
      if reference.code ≠ rssiMissingCode ∧ reference.code + margin ≤ sample.code then
        -- a hint only; two stationary batches decide
        motionStop
      let now ← nowMs
      setSampler fun p => { p with movingCodes := [], movingWindowStartedMs := now }

/-- `sampler_collect`. -/
def samplerCollect : Cmd Robot Bool := do
  let s ← get
  if !s.sampler.scanOpen then
    return true
  if ← ask Outside.scanActive then
    return true
  let (code, stopped) ← ask Outside.scanResult
  setSampler fun p => { p with pendingCode := code }
  let active ← motionDriveActive
  let stopped := if code = rssiMissingCode then !active else stopped
  if wifiRecordCapacity ≤ s.sampler.recordCount then
    failSampler .profile
    return false
  setSampler fun p => { p with recordCount := p.recordCount + 1, scanOpen := false }
  if s.sampler.movingScan then
    collectMoving code stopped
  return true

/-- `n` lines of the report. -/
def reportLines : ℕ → Cmd Robot Unit
  | 0 => return
  | n + 1 => do
    reportPrintf
    reportLines n

/-- `sampler_flush`. -/
def samplerFlush : Cmd Robot Bool := do
  let s ← get
  if s.drive.active || s.sampler.scanOpen then
    return false
  if ← ask Outside.scanActive then
    return false
  reportLines s.sampler.recordCount
  setSampler fun p => { p with recordCount := 0 }
  ask Outside.reportOk

/-- The wait for a scan must end. -/
def waitOver (canContinue : Cmd Robot Bool) : Cmd Robot Bool := do
  if !(← canContinue) then
    return true
  let age ← scanAge
  return decide (15000 ≤ age)

/-- The wait of `wifi_sampler_quiesce` for the scan that runs. -/
def awaitScan (canContinue : Cmd Robot Bool) : Cmd Robot Bool :=
  loop (fun _ => do
    let s ← get
    if !s.sampler.scanOpen then
      return .inr true
    if !(← ask Outside.scanActive) then
      return .inr true
    if ← waitOver canContinue then
      faultRaise .wifiScan
      setSampler fun p => { p with samplerFailed := true }
      reportPrintf
      return .inr false
    sleepMs
    return .inl ()) ()

/-- `wifi_sampler_quiesce`. -/
def wifiSamplerQuiesce (canContinue : Cmd Robot Bool) : Cmd Robot Bool := do
  motionStop
  let s ← get
  if s.sampler.samplerFailed then
    return false
  if !(← awaitScan canContinue) then
    return false
  if !(← samplerCollect) then
    return false
  samplerFlush

/-- The scan that runs is too slow for a moving window. -/
def scanSlow : Cmd Robot Bool := do
  let s ← get
  if !s.sampler.scanOpen then
    return false
  let age ← scanAge
  return decide (750 ≤ age)

/-- `wifi_sampler_poll_moving`. -/
def wifiSamplerPollMoving (canContinue : Cmd Robot Bool) : Cmd Robot Bool := do
  if !(← canContinue) then
    motionStop
    return false
  let s ← get
  if !movingEnabled s then
    return true
  if ← scanSlow then
    fallBack
    return true
  if !(← samplerCollect) then
    return false
  let s ← get
  if s.drive.active && movingEnabled s && !s.sampler.scanOpen then
    samplerBegin canContinue true
  else
    return true

/-! ## A sample -/

/-- The scans of a sample, `n` more, after the codes read so far. -/
def sampleScans (canContinue : Cmd Robot Bool) : ℕ → List ℕ → Cmd Robot (Option (List ℕ))
  | 0, codes => return some codes
  | n + 1, codes => do
    if !(← samplerBegin canContinue false) then
      return none
    if !(← wifiSamplerQuiesce canContinue) then
      return none
    let s ← get
    sampleScans canContinue n (codes ++ [s.sampler.pendingCode])

/-- A window of scans qualifies the moving acquisition, or ends it. -/
def qualify (codes : List ℕ) (elapsed : UInt32) : Cmd Robot Unit := do
  let s ← get
  if !s.sampler.fallback ∧ rssiMissingCode ∉ codes ∧ elapsed ≤ 750 ∧ s.sampler.maxStartMs ≤ 5 then
    setSampler fun p => { p with qualificationWindows := min 3 (p.qualificationWindows + 1) }
  else
    setSampler fun p => { p with
      qualificationWindows := 0
      fallback := p.fallback || s.outside.movingSamples }

/-- A sample without a reading is a fault until the next one. -/
def noteSample (sample : WifiSample) : Cmd Robot Unit :=
  if sample.code = rssiMissingCode then faultRaise .wifiLost else faultClear .wifiLost

/-- `wifi_sampler_sample`. -/
def wifiSamplerSample (canContinue : Cmd Robot Bool) : Cmd Robot (Option WifiSample) := do
  if !(← wifiSamplerQuiesce canContinue) then
    return none
  reportPrintf
  let start ← nowMs
  match ← sampleScans canContinue scansPerSample [] with
  | none => return none
  | some codes =>
    let now ← nowMs
    qualify codes (now - start)
    noteSample (wifiFilter codes)
    reportPrintf
    if !(← canContinue) then
      return none
    if !(← ask Outside.reportOk) then
      return none
    return some (wifiFilter codes)

end Robot
