/-
# Scan results (`getting_there/wifi_sampler.c`)

The same file as `WifiSampler`, with its callbacks: there the code of a scan is an answer from
outside, here `sampler_result` hears one result after another, and the scan that was heard is
known only to the driver.  The driver calls back between any two moments of the main thread, as
long as a scan is active (`radio`); it never calls back after the scan.

The drive and STOP are outside here.  The position and the time of a record, which only the report
prints, are left out.  `scans` keeps notes for the proofs: which results the driver has called
back with during which scan, and the code that was recorded for it.
-/
import GettingThere.Buffer
import GettingThere.WifiSampler

open CrashLogic PackedBits

namespace WifiScans

/-! ## What comes from outside -/

/-- `cyw43_ev_scan_result_t`, as far as `sampler_result` reads it. -/
structure ScanResult where
  ssidLen : UInt8
  ssid : Buffer UInt8 32
  bssid : Buffer UInt8 6
  rssi : Int16
  deriving DecidableEq

/-- What the driver and the rest of the firmware answer, for each moment. -/
structure Surroundings where
  /-- the results the active scan calls back with before this moment; one may be `NULL` -/
  results : ℕ → List (Option ScanResult)
  /-- the active scan ends before this moment -/
  ends : ℕ → Bool
  scanError : ℕ → Bool
  driveActive : ℕ → Bool
  canContinue : ℕ → Bool
  reportOk : ℕ → Bool
  nowMs : ℕ → UInt32
  /-- a loop is observed for this number of rounds -/
  rounds : ℕ
  /-- the build option `LINE_SEARCH_MOVING_SAMPLES` -/
  movingSamples : Bool

/-! ## Statics -/

/-- `wifi_record_t`. -/
structure WifiRecord where
  scanId : UInt32
  code : ℕ
  stopped : Bool
  deriving DecidableEq, Repr

/-- What is noted of a scan: the results, as they came, and the code recorded for it. -/
structure Scan where
  id : UInt32
  results : List ScanResult
  code : Option ℕ
  deriving DecidableEq

/-- The statics of `wifi_sampler.c`, with the driver and the notes, the latest scan first. -/
structure Scanner where
  surroundings : Surroundings
  tick : ℕ
  /-- `cyw43_wifi_scan_active` -/
  active : Bool
  records : List WifiRecord
  pendingResult : WifiRecord
  pendingBssid : Buffer UInt8 6
  targetBssid : Buffer UInt8 6
  identityLocked : Bool
  scanOpen : Bool
  movingScan : Bool
  fallback : Bool
  samplerFailed : Bool
  qualificationWindows : ℕ
  scanStartedMs : UInt32
  scanId : UInt32
  maxStartMs : UInt32
  movingReference : WifiSample
  movingCodes : List ℕ
  movingWindowStartedMs : UInt32
  scans : List Scan

/-! ## The callback -/

/-- `AP1_SSID`. -/
def ap1Ssid : List UInt8 := [0x49, 0x20, 0x41, 0x4D, 0x20, 0x50, 0x49, 0x43, 0x4F, 0x20, 0x57]

/-- The tests of `sampler_result`, before the one of the code. -/
def ignored (r : ScanResult) (s : Scanner) : Prop :=
  r.ssidLen ≠ 11 ∨ 0 ≤ r.rssi.toInt ∨ r.rssi.toInt ≤ -127 ∨ r.ssid.prefixOf 11 ≠ ap1Ssid ∨
    s.identityLocked = true ∧ r.bssid ≠ s.targetBssid

instance decidableIgnored (r : ScanResult) (s : Scanner) : Decidable (ignored r s) := by
  unfold ignored
  infer_instance

/-- `sampler_result`. -/
def samplerResult (result : Option ScanResult) (s : Scanner) : Scanner :=
  match result with
  | none => s
  | some r =>
    if ignored r s then s
    else
      let code := rssiEncode r.rssi.toInt
      if s.pendingResult.code ≤ code then s
      else { s with
        pendingResult := { s.pendingResult with
          stopped := !s.surroundings.driveActive s.tick
          code := code }
        pendingBssid := r.bssid }

/-- A result that was called back, noted with the scan that runs. -/
def noteResult (result : Option ScanResult) (s : Scanner) : Scanner :=
  match result, s.scans with
  | some r, scan :: older =>
    { s with scans := { scan with results := scan.results ++ [r] } :: older }
  | _, _ => s

/-- One call of the driver. -/
def callBack (s : Scanner) (result : Option ScanResult) : Scanner :=
  noteResult result (samplerResult result s)

/-- What the driver does before a moment of the main thread. -/
def radio (s : Scanner) : Scanner :=
  if s.active then
    { (s.surroundings.results s.tick).foldl callBack s with
      active := !s.surroundings.ends s.tick }
  else s

/-! ## Moments -/

/-- The next moment. -/
def passed (s : Scanner) : Scanner := { radio s with tick := s.tick + 1 }

/-- Asks for something, after what the driver has done before this moment. -/
def ask {α : Type} (answer : Scanner → α) : Cmd Scanner α := do
  modify passed
  let s ← get
  return answer s

/-- Asks for something from outside. -/
def askOutside {α : Type} (answer : Surroundings → ℕ → α) : Cmd Scanner α :=
  ask fun s => answer s.surroundings s.tick

/-- `cyw43_wifi_scan_active`. -/
def scanActive : Cmd Scanner Bool := ask fun s => s.active

/-- `sampler_now_ms`. -/
def samplerNowMs : Cmd Scanner UInt32 := askOutside Surroundings.nowMs

/-- `motion_drive_active`. -/
def motionDriveActive : Cmd Scanner Bool := askOutside Surroundings.driveActive

/-- `sampler_can_continue`. -/
def samplerCanContinue : Cmd Scanner Bool := askOutside Surroundings.canContinue

/-- The scan has run for this time. -/
def scanAge : Cmd Scanner UInt32 := do
  let now ← samplerNowMs
  let s ← get
  return now - s.scanStartedMs

/-! ## Scans -/

/-- `wifi_sampler_init`; the notes begin again. -/
def wifiSamplerInit : Cmd Scanner Unit :=
  modify fun s => { s with
    records := []
    qualificationWindows := 0
    movingCodes := []
    scanId := 0
    maxStartMs := 0
    identityLocked := false
    scanOpen := false
    movingScan := false
    fallback := false
    samplerFailed := false
    movingReference := .missing
    scans := [] }

/-- `wifi_sampler_set_position`, as far as the moving window goes. -/
def wifiSamplerSetPosition : Cmd Scanner Unit := do
  let now ← samplerNowMs
  modify fun s => { s with movingCodes := [], movingWindowStartedMs := now }

/-- `wifi_sampler_set_reference`. -/
def wifiSamplerSetReference (reference : WifiSample) : Cmd Scanner Unit :=
  modify fun s => { s with movingReference := reference }

/-- `wifi_sampler_moving_enabled`. -/
def movingEnabled (s : Scanner) : Bool :=
  s.surroundings.movingSamples && !s.fallback && decide (3 ≤ s.qualificationWindows)

/-- `cyw43_wifi_scan`: an error, or a scan that is active from now on. -/
def cyw43WifiScan : Cmd Scanner Bool := do
  let error ← askOutside Surroundings.scanError
  if !error then
    modify fun s => { s with active := true, scans := ⟨s.scanId, [], none⟩ :: s.scans }
  return error

/-- The sampler fails for good. -/
def failSampler : Cmd Scanner Unit := modify fun s => { s with samplerFailed := true }

/-- `sampler_begin` sets up the record of a scan. -/
def newRecord (s : Scanner) : Scanner :=
  { s with
    scanId := s.scanId + 1
    pendingResult := ⟨s.scanId + 1, rssiMissingCode, false⟩ }

/-- `sampler_begin`. -/
def samplerBegin (moving : Bool) : Cmd Scanner Bool := do
  let s ← get
  if s.samplerFailed || s.scanOpen then
    return false
  if !(← samplerCanContinue) then
    return false
  let s ← get
  if Robot.wifiRecordCapacity ≤ s.records.length then
    failSampler
    return false
  modify newRecord
  let started ← samplerNowMs
  modify fun s => { s with
    scanStartedMs := started
    scanOpen := true
    movingScan := moving
    movingWindowStartedMs :=
      if moving ∧ s.movingCodes = [] then started else s.movingWindowStartedMs }
  let error ← cyw43WifiScan
  let elapsed ← scanAge
  modify fun s => { s with maxStartMs := max s.maxStartMs elapsed }
  if error then
    modify fun s => { s with scanOpen := false }
    failSampler
    return false
  if moving && decide (5 < elapsed) then
    modify fun s => { s with fallback := true }
  return true

/-- A moving scan without a reading, or too late for its window. -/
def scanLost (code : ℕ) : Cmd Scanner Bool := do
  if code = rssiMissingCode then
    return true
  let now ← samplerNowMs
  let s ← get
  return decide (750 < now - s.movingWindowStartedMs)

/-- The part of `sampler_collect` for a scan that was started while the robot moved. -/
def collectMoving (record : WifiRecord) : Cmd Scanner Unit := do
  if ← scanLost record.code then
    modify fun s => { s with fallback := true }
  else if record.stopped then
    modify fun s => { s with movingCodes := [] }
  else
    modify fun s => { s with movingCodes := s.movingCodes ++ [record.code] }
    let s ← get
    if s.movingCodes.length = scansPerSample then
      -- a gain over the reference stops the drive, which is outside here
      let now ← samplerNowMs
      modify fun s => { s with movingCodes := [], movingWindowStartedMs := now }

/-- The record of a scan without a reading; a reading fixes the target, the first time. -/
def settleRecord : Cmd Scanner WifiRecord := do
  let s ← get
  if s.pendingResult.code = rssiMissingCode then
    let active ← motionDriveActive
    return { s.pendingResult with stopped := !active }
  else
    if !s.identityLocked then
      modify fun s => { s with targetBssid := s.pendingBssid, identityLocked := true }
    return s.pendingResult

/-- The code of the latest scan is noted. -/
def noteCode (code : ℕ) : List Scan → List Scan
  | scan :: older => { scan with code := some code } :: older
  | [] => []

/-- `sampler_collect` after the end of the scan. -/
def fileRecord : Cmd Scanner Bool := do
  let record ← settleRecord
  let s ← get
  if Robot.wifiRecordCapacity ≤ s.records.length then
    failSampler
    return false
  modify fun s => { s with
    records := s.records ++ [record]
    scanOpen := false
    scans := noteCode record.code s.scans }
  if s.movingScan then
    collectMoving record
  return true

/-- `sampler_collect`. -/
def samplerCollect : Cmd Scanner Bool := do
  let s ← get
  if !s.scanOpen then
    return true
  if ← scanActive then
    return true
  fileRecord

/-- `sampler_flush`. -/
def samplerFlush : Cmd Scanner Bool := do
  if ← motionDriveActive then
    return false
  let s ← get
  if s.scanOpen then
    return false
  if ← scanActive then
    return false
  modify fun s => { s with records := [] }
  askOutside Surroundings.reportOk

/-- The wait for a scan must end. -/
def waitOver : Cmd Scanner Bool := do
  if !(← samplerCanContinue) then
    return true
  let age ← scanAge
  return decide (15000 ≤ age)

/-- Repeats `body` until it has a result. -/
def loop {β γ : Type} (body : β → Cmd Scanner (β ⊕ γ)) (b : β) : Cmd Scanner γ := do
  let s ← get
  iterate s.surroundings.rounds body b

/-- One round of the wait: over, given up, or 5 ms more. -/
def waitRound (_ : Unit) : Cmd Scanner (Unit ⊕ Bool) := do
  let s ← get
  if !s.scanOpen then
    return .inr true
  if !(← scanActive) then
    return .inr true
  if ← waitOver then
    failSampler
    return .inr false
  return .inl ()

/-- The wait of `wifi_sampler_quiesce` for the scan that runs. -/
def awaitScan : Cmd Scanner Bool := loop waitRound ()

/-- `wifi_sampler_quiesce`. -/
def wifiSamplerQuiesce : Cmd Scanner Bool := do
  let s ← get
  if s.samplerFailed then
    return false
  if !(← awaitScan) then
    return false
  if !(← samplerCollect) then
    return false
  samplerFlush

/-- The scan that runs is too slow for a moving window. -/
def scanSlow : Cmd Scanner Bool := do
  let s ← get
  if !s.scanOpen then
    return false
  let age ← scanAge
  return decide (750 ≤ age)

/-- `wifi_sampler_poll_moving`. -/
def wifiSamplerPollMoving : Cmd Scanner Bool := do
  if !(← samplerCanContinue) then
    return false
  let s ← get
  if !movingEnabled s then
    return true
  if ← scanSlow then
    modify fun s => { s with fallback := true }
    return true
  if !(← samplerCollect) then
    return false
  let active ← motionDriveActive
  let s ← get
  if active && movingEnabled s && !s.scanOpen then
    samplerBegin true
  else
    return true

/-! ## A sample -/

/-- The scans of a sample, `n` more, after the codes read so far. -/
def sampleScans : ℕ → List ℕ → Cmd Scanner (Option (List ℕ))
  | 0, codes => return some codes
  | n + 1, codes => do
    if !(← samplerBegin false) then
      return none
    if !(← wifiSamplerQuiesce) then
      return none
    let s ← get
    sampleScans n (codes ++ [s.pendingResult.code])

/-- A window of scans qualifies the moving acquisition, or ends it. -/
def qualify (codes : List ℕ) (elapsed : UInt32) : Cmd Scanner Unit :=
  modify fun s =>
    if !s.fallback ∧ rssiMissingCode ∉ codes ∧ elapsed ≤ 750 ∧ s.maxStartMs ≤ 5 then
      { s with qualificationWindows := min 3 (s.qualificationWindows + 1) }
    else
      { s with
        qualificationWindows := 0
        fallback := s.fallback || s.surroundings.movingSamples }

/-- `wifi_sampler_sample`, with the readings it has taken. -/
def wifiSamplerSample : Cmd Scanner (Option (List ℕ × WifiSample)) := do
  if !(← wifiSamplerQuiesce) then
    return none
  let start ← samplerNowMs
  match ← sampleScans scansPerSample [] with
  | none => return none
  | some codes =>
    let now ← samplerNowMs
    qualify codes (now - start)
    if !(← samplerCanContinue) then
      return none
    if !(← askOutside Surroundings.reportOk) then
      return none
    return some (codes, wifiFilter codes)

/-! ## Calls -/

/-- The functions of the file that other code calls. -/
inductive Call
  | init
  | setPosition
  | setReference (reference : WifiSample)
  | quiesce
  | pollMoving
  | sample
  deriving DecidableEq, Repr

/-- Performs a call; what it returns is the caller's business. -/
def perform : Call → Cmd Scanner Unit
  | .init => wifiSamplerInit
  | .setPosition => wifiSamplerSetPosition
  | .setReference reference => wifiSamplerSetReference reference
  | .quiesce => wifiSamplerQuiesce >>= fun _ => pure ()
  | .pollMoving => wifiSamplerPollMoving >>= fun _ => pure ()
  | .sample => wifiSamplerSample >>= fun _ => pure ()

end WifiScans
