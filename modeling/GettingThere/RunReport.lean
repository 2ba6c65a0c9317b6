/-
# The run report (`run_report.c`, `report_store.c`, `report_flash.c`)

Text goes from `report_printf` and `report_defer_printf` into `pending`, from there at a
checkpoint through `report_store_append` to the flash, and from the flash through
`report_store_replay` (`LogPages`) back to the user.  The functions are commands on `Sys`:

* a flash operation takes its `Outcome` from `outcomes`; when the list is used up the power
  is cut, and an outcome can cut it in the middle of an operation;
* wherever the critical section is free a radio callback may queue text: `await` is such a
  point, and `arrivals` says which lines are queued there;
* `connected` says what `stdio_usb_connected` answers.

A line is the whole text its format produces; `report_format` sees the first 511 bytes and
the length.  `submitted`, `erased` and `operations` are notes for the statements: the lines
submitted before the report was closed, in the order of the lock, whether `report_flash_erase`
has erased the journal, and what was done on the flash, the latest first.  The poll of GP21
between two sectors plays no part here.
-/
import GettingThere.CrashLogic
import GettingThere.LogPages

namespace ReportStore

open CrashLogic TransferProtocol

/-- How a flash operation turns out. It is done; or it is reported as failed; or it is
reported as done although the page is damaged; or the power is cut. -/
inductive Outcome
  | done
  | fails (damage : Damage)
  | corrupts (damage : Damage)
  | cut (damage : Damage)

/-- The statics of `report_store.c`. -/
structure Store where
  next : ℕ
  active : Bool
  deriving DecidableEq, Repr

/-- `pending` up to `pending_length`, and `report_state`. -/
structure Report where
  pending : Bytes
  active : Bool
  failed : Bool
  closed : Bool
  deriving DecidableEq, Repr

/-- The ring of text for the USB display. -/
structure UsbQueue where
  queue : Buffer UInt8 4096
  head : ℕ
  length : ℕ
  overflow : Bool
  deriving DecidableEq

/-- What was done on the flash: a sector erased, or a page programmed, well or badly. -/
inductive FlashOperation
  | erase (sector : ℕ)
  | program (offset : ℕ)
  deriving DecidableEq, Repr

/-- Flash, statics, what is still to come from outside, and the notes. -/
structure Sys where
  flash : Flash
  store : Store
  report : Report
  usb : UsbQueue
  usbText : Bytes
  outcomes : List Outcome
  arrivals : List (List Bytes)
  connected : List Bool
  submitted : List Bytes
  erased : Bool
  operations : List FlashOperation

/-- A robot with an erased journal, before it is switched on. -/
def newRobot : Sys where
  flash := fun _ => .erased
  store := ⟨0, false⟩
  report := ⟨[], false, false, false⟩
  usb := ⟨.filled 4096 0, 0, 0, false⟩
  usbText := []
  outcomes := []
  arrivals := []
  connected := []
  submitted := []
  erased := false
  operations := []

/-- `REPORT_CAPACITY`. -/
def reportCapacity : ℕ := 32768

/-- `USB_QUEUE_CAPACITY`. -/
def usbQueueCapacity : ℕ := 4096

/-- `sizeof(line)`. -/
def lineSize : ℕ := 512

/-! ## Lines -/

/-- What is left of a line in the buffer of `report_format`. -/
def lineText (line : Bytes) : Bytes := line.take (lineSize - 1)

/-- The part of `report_format` that keeps a line for the saved run. -/
def Report.keep (line : Bytes) (r : Report) : Report :=
  if r.closed then r
  else if lineSize ≤ line.length ∨ reportCapacity < r.pending.length + (lineText line).length then
    { r with failed := true }
  else if r.failed then r
  else { r with pending := r.pending ++ lineText line }

/-- Copies bytes into the ring from position `pos` on. -/
def ringWrite (queue : Buffer UInt8 4096) : ℕ → Bytes → Buffer UInt8 4096
  | _, [] => queue
  | pos, b :: bs => ringWrite (queue.write (pos % usbQueueCapacity) [b]) (pos + 1) bs

/-- The part of `report_format` that queues a line for the display.  The free part is an unsigned
difference of 32 bits, and the length is a counter of 16. -/
def UsbQueue.put (text : Bytes) (u : UsbQueue) : UsbQueue :=
  if text.length ≤ (usbQueueCapacity + 2 ^ 32 - u.length) % 2 ^ 32 then
    { u with
      queue := ringWrite u.queue (u.head + u.length) text
      length := (u.length + text.length) % 65536 }
  else { u with overflow := true }

/-- The critical section of `report_format`, for a line that is not empty. -/
def Sys.format (line : Bytes) (s : Sys) : Sys :=
  if line = [] then s
  else { s with
    report := s.report.keep line
    usb := s.usb.put (lineText line)
    submitted := if s.report.closed then s.submitted else s.submitted ++ [line] }

/-- The lines radio callbacks queue while the critical section is free. -/
def Sys.arrive (s : Sys) : Sys :=
  match s.arrivals with
  | [] => s
  | lines :: rest => lines.foldl (fun s line => s.format line) { s with arrivals := rest }

/-- A point where the critical section is free. -/
def await : Cmd Sys Unit := modify Sys.arrive

/-- The bytes `report_flush_usb` takes out of the ring. -/
def UsbQueue.front (u : UsbQueue) : Bytes :=
  (List.range (min u.length 512)).map fun i =>
    u.queue.cells.getD ((u.head + i) % usbQueueCapacity) 0

/-- The ring without its first `n` bytes. -/
def UsbQueue.drop (n : ℕ) (u : UsbQueue) : UsbQueue :=
  { u with head := (u.head + n) % usbQueueCapacity, length := u.length - n, overflow := false }

/-- What the display shows when lines did not fit the ring. -/
def usbOverflowNote : String :=
  "USB display queue full; use saved-run replay for the recorded text.\n"

/-- `report_flush_usb`. -/
def reportFlushUsb : Cmd Sys Unit := do
  await
  let s ← get
  set { s with connected := s.connected.tail }
  if s.connected.headD true = false then
    await
    modify fun s => { s with usb := { s.usb with head := 0, length := 0, overflow := false } }
  else
    await
    let s ← get
    let text := s.usb.front
    set { s with usb := s.usb.drop text.length }
    await
    let note := if s.usb.overflow then ascii usbOverflowNote else []
    modify fun t => { t with usbText := t.usbText ++ text ++ note }

/-- `report_printf`. -/
def reportPrintf (line : Bytes) : Cmd Sys Unit := do
  await
  modify (Sys.format line)
  if line ≠ [] then reportFlushUsb

/-- `report_defer_printf`. -/
def reportDeferPrintf (line : Bytes) : Cmd Sys Unit := do
  await
  modify (Sys.format line)

/-! ## Flash -/

/-- How the next flash operation turns out; without an answer the power is gone. -/
def nextOutcome : Cmd Sys Outcome := do
  await
  let s ← get
  match s.outcomes with
  | [] => CrashLogic.cut
  | outcome :: rest =>
    set { s with outcomes := rest }
    pure outcome

/-- The flash with the pages of sector `k` changed. -/
def changeSector (k : ℕ) (f : ℕ → LogPage → LogPage) (flash : Flash) : Flash :=
  fun i => if i / (flashSectorSize / reportPageBytes) = k then f i (flash i) else flash i

/-- The flash with page `i` programmed. -/
def programPage (i : ℕ) (page : LogPage) (flash : Flash) : Flash :=
  Function.update flash i ((flash i).land page)

/-- `flash_safe_execute(erase_sector, …)`; it cannot report a damaged sector as erased. -/
def eraseSector (k : ℕ) : Cmd Sys Bool := do
  let change (f : ℕ → LogPage → LogPage) : Cmd Sys Unit :=
    modify fun s => { s with flash := changeSector k f s.flash }
  match ← nextOutcome with
  | .done =>
    change fun _ _ => .erased
    modify fun s => { s with operations := .erase k :: s.operations }
    pure true
  | .fails damage | .corrupts damage =>
    change damage.page
    pure false
  | .cut damage =>
    change damage.page
    CrashLogic.cut

/-- The sectors of the journal. -/
def sectors : ℕ := reportFlashBytes / flashSectorSize

/-- The line `report_flash_erase` reports before the first sector. -/
@[irreducible] def preparingLine : Bytes :=
  ascii s!"Preparing persistent log: erasing {sectors} sectors in the reserved 512 KiB region\n"

/-- Its line for a sector that could not be erased. -/
@[irreducible] def preparationFailedLine (k : ℕ) : Bytes :=
  ascii s!"LOG PREPARATION FAILED at flash sector {k + 1}/{sectors}\n"

/-- Its line after every sixteenth sector. -/
@[irreducible] def progressLine (k : ℕ) : Bytes :=
  ascii s!"Preparing persistent log: {k + 1}/{sectors} flash sectors erased\n"

/-- The loop of `report_flash_erase`, for `n` sectors from sector `k` on. -/
def eraseSectors : ℕ → ℕ → Cmd Sys Bool
  | 0, _ => pure true
  | n + 1, k => do
    if !(← eraseSector k) then
      reportPrintf (preparationFailedLine k)
      return false
    await
    if (k + 1) % 16 = 0 then
      reportPrintf (progressLine k)
    eraseSectors n (k + 1)

/-- `report_flash_erase`. -/
def reportFlashErase : Cmd Sys Bool := do
  reportPrintf preparingLine
  if !(← eraseSectors sectors 0) then
    return false
  modify fun s => { s with erased := true }
  return true

/-- `report_flash_program`. -/
def reportFlashProgram (offset : ℕ) (page : LogPage) : Cmd Sys Bool := do
  if offset % reportPageBytes ≠ 0 ∨ reportFlashBytes - reportPageBytes < offset then
    return false
  let i := offset / reportPageBytes
  let program (page : LogPage) : Cmd Sys Unit :=
    modify fun s => { s with
      flash := programPage i page s.flash, operations := .program offset :: s.operations }
  match ← nextOutcome with
  | .done =>
    program page
    pure true
  | .fails damage =>
    program (damage.page i page)
    pure false
  | .corrupts damage =>
    program (damage.page i page)
    pure true
  | .cut damage =>
    program (damage.page i page)
    CrashLogic.cut

/-- `report_flash_read` of a page. -/
def reportFlashRead (offset : ℕ) : Cmd Sys LogPage := do
  await
  let s ← get
  return s.flash (offset / reportPageBytes)

/-! ## Store -/

/-- `write_page`. -/
def writePage (magic : UInt32) (data : Bytes) : Cmd Sys Bool := do
  let s ← get
  if pageCount ≤ s.store.next ∨ reportPageData < data.length then
    return false
  let page := makePage magic s.store.next data
  let offset := s.store.next * reportPageBytes
  if !(← reportFlashProgram offset page) then
    return false
  let verify ← reportFlashRead offset
  if page ≠ verify then
    return false
  modify fun s => { s with store := { s.store with next := (s.store.next + 1) % 4096 } }
  return true

/-- `store.active` is written. -/
def setStoreActive (active : Bool) : Cmd Sys Unit :=
  modify fun s => { s with store := { s.store with active := active } }

/-- `report_store_begin`. -/
def reportStoreBegin : Cmd Sys Bool := do
  modify fun s => { s with store := { active := false, next := 0 } }
  if !(← reportFlashErase) then
    return false
  if !(← writePage startMagic []) then
    return false
  setStoreActive true
  return true

/-- The loop of `report_store_append`: a data page for each piece of the text. -/
def appendPages (data : Bytes) : Cmd Sys Bool := do
  if _h : data = [] then
    return true
  else
    let s ← get
    -- the final page is reserved for the marker of a completed run
    if pageCount - 1 ≤ s.store.next then
      setStoreActive false
      return false
    if !(← writePage dataMagic (data.take reportPageData)) then
      setStoreActive false
      return false
    appendPages (data.drop reportPageData)
termination_by data.length
decreasing_by
  have hpos : 0 < data.length := List.length_pos_iff.mpr ‹¬data = []›
  have hmax : reportPageData = 244 := rfl
  rw [List.length_drop]
  omega

/-- `report_store_append`. -/
def reportStoreAppend (data : Bytes) : Cmd Sys Bool := do
  let s ← get
  if !s.store.active then
    return false
  appendPages data

/-- `report_store_finish`. -/
def reportStoreFinish : Cmd Sys Bool := do
  let s ← get
  if !s.store.active then
    return false
  let ok ← writePage endMagic []
  setStoreActive false
  return ok

/-! ## Report -/

/-- `report_init`. -/
def reportInit (s : Sys) : Sys :=
  { s with
    report := ⟨[], false, false, false⟩
    usb := { s.usb with head := 0, length := 0, overflow := false }
    submitted := [] }

/-- `report_failed`. -/
def reportFailed : Cmd Sys Unit := do
  await
  modify fun s => { s with report := { s.report with failed := true } }

/-- `report_ok`. -/
def reportOk : Cmd Sys Bool := do
  await
  let s ← get
  return !s.report.failed

/-- `report_checkpoint`. -/
def reportCheckpoint : Cmd Sys Bool := do
  reportFlushUsb
  await
  let s ← get
  if !s.report.active then
    return ← reportOk
  await
  let s ← get
  set { s with report := { s.report with pending := [] } }
  if s.report.pending ≠ [] then
    if !(← reportStoreAppend s.report.pending) then
      reportFailed
  reportOk

/-- `report_begin`. -/
def reportBegin : Cmd Sys Bool := do
  let active ← reportStoreBegin
  await
  modify fun s => { s with report := { s.report with
    active := active, failed := s.report.failed || !active } }
  reportCheckpoint

/-- `report_finish`. -/
def reportFinish : Cmd Sys Bool := do
  await
  modify fun s => { s with report := { s.report with closed := true } }
  let ok ← reportCheckpoint
  if !ok then
    reportFailed
  else if !(← reportStoreFinish) then
    reportFailed
  await
  modify fun s => { s with report := { s.report with active := false } }
  reportOk

end ReportStore
