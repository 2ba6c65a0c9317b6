/-
# The pages of the saved run (`getting_there/report_store.c`): records and replay

A run is saved as a start page, data pages and an end page, each programmed once.  A page
carries its index and a CRC, so that `report_store_replay` can stop at the first page that
is not one the store has written.

A page is the record `log_page_t`; on the flash it is 256 bytes, and bits can only be
cleared by programming (`LogPage.land`) or all set by an erase (`LogPage.erased`).
`Damage` is what an interrupted or failed operation may leave of a page.
-/
import GettingThere.Buffer
import GettingThere.TransferProtocol

namespace ReportStore

open TransferProtocol

/-- `REPORT_FLASH_BYTES`. -/
def reportFlashBytes : ℕ := 512 * 1024

/-- `REPORT_PAGE_BYTES`. -/
def reportPageBytes : ℕ := 256

/-- `REPORT_PAGE_DATA`: the text bytes of a page. -/
def reportPageData : ℕ := 244

/-- `PAGE_COUNT`. -/
def pageCount : ℕ := reportFlashBytes / reportPageBytes

/-- `FLASH_SECTOR_SIZE`. -/
def flashSectorSize : ℕ := 4096

/-- The text bytes of a string. -/
def ascii (s : String) : Bytes := s.toList.map fun c => UInt8.ofNat c.toNat

/-! ## Records -/

/-- `log_page_t`. -/
structure LogPage where
  magic : UInt32
  index : UInt16
  length : UInt16
  crc : UInt32
  data : Buffer UInt8 244
  deriving DecidableEq

/-- `START_MAGIC`. -/
def startMagic : UInt32 := 0x31474F4C

/-- `DATA_MAGIC`. -/
def dataMagic : UInt32 := 0x31415444

/-- `END_MAGIC`. -/
def endMagic : UInt32 := 0x31444E45

/-- One bit of the CRC loop of `crc_bytes`. -/
def crcStep (crc : UInt32) : UInt32 := (crc >>> 1) ^^^ (0xEDB88320 &&& (0 - (crc &&& 1)))

/-- `crc_bytes`. -/
def crcBytes (crc : UInt32) (bytes : Bytes) : UInt32 :=
  bytes.foldl (fun crc b => crcStep^[8] (crc ^^^ b.toUInt32)) crc

/-- The bytes of a page before its `crc` field, as the little-endian processor stores them. -/
def LogPage.header (p : LogPage) : Bytes :=
  transferWriteU32 p.magic ++ (transferWriteU16 p.index ++ transferWriteU16 p.length)

/-- The text of a page. -/
def LogPage.text (p : LogPage) : Bytes := p.data.prefixOf p.length.toNat

/-- `page_crc`. -/
def pageCrc (p : LogPage) : UInt32 := ~~~ (crcBytes (crcBytes 0xFFFFFFFF p.header) p.text)

/-- The page `write_page` puts together. -/
def makePage (magic : UInt32) (index : ℕ) (data : Bytes) : LogPage :=
  let page : LogPage := {
    magic := magic
    index := UInt16.ofNat index
    length := UInt16.ofNat data.length
    crc := 0xFFFFFFFF
    data := (Buffer.filled 244 0xFF).write 0 data }
  { page with crc := pageCrc page }

/-! ## Flash -/

/-- A page after an erase: every bit is set. -/
def LogPage.erased : LogPage := ⟨0xFFFFFFFF, 0xFFFF, 0xFFFF, 0xFFFFFFFF, .filled 244 0xFF⟩

/-- Programming can only clear bits. -/
def LogPage.land (p q : LogPage) : LogPage where
  magic := p.magic &&& q.magic
  index := p.index &&& q.index
  length := p.length &&& q.length
  crc := p.crc &&& q.crc
  data := ⟨List.zipWith (· &&& ·) p.data.cells q.data.cells, by
    rw [List.length_zipWith, p.data.length_cells, q.data.length_cells, Nat.min_self]⟩

/-- The page at index `i` passes the check of `report_store_replay`. -/
def Valid (i : ℕ) (p : LogPage) : Prop :=
  p.index.toNat = i ∧ p.length.toNat ≤ reportPageData ∧ p.crc = pageCrc p

instance (i : ℕ) (p : LogPage) : Decidable (Valid i p) := by unfold Valid; infer_instance

/-- What an operation that was interrupted, or failed, has made of a page: of the page to be
programmed, or of the old page an erase found.  Any mix of its bits may be there, as long as
a page that differs fails its check. -/
structure Damage where
  page : ℕ → LogPage → LogPage
  detected : ∀ i p, page i p = p ∨ ¬ Valid i (page i p)

/-- The journal region, page by page. -/
abbrev Flash := ℕ → LogPage

/-! ## Replay -/

/-- A start page: nothing but its magic. -/
def IsStart (p : LogPage) : Prop := Valid 0 p ∧ p.magic = startMagic ∧ p.length = 0

instance (p : LogPage) : Decidable (IsStart p) := by unfold IsStart; infer_instance

/-- The page loop of `report_store_replay` behind the start page: what it emits from page
`i` on, `n` pages at the most, and whether it has met the end page. -/
def replayPages (flash : Flash) : ℕ → ℕ → List Bytes × Bool
  | 0, _ => ([], false)
  | n + 1, i =>
    let page := flash i
    if ¬ Valid i page then ([], false)
    else if page.magic = endMagic ∧ page.length = 0 then ([], true)
    else if page.magic ≠ dataMagic ∨ page.length = 0 then ([], false)
    else
      let (rest, complete) := replayPages flash n (i + 1)
      (page.text :: rest, complete)

/-- What `report_store_replay` finds: the pieces of text it emits, and whether it calls them
complete. -/
def savedRun (flash : Flash) : Option (List Bytes × Bool) :=
  if IsStart (flash 0) then some (replayPages flash (pageCount - 1) 1) else none

/-- What `report_store_replay` passes to `emit` for a run it has found. -/
def savedText (pieces : List Bytes) (complete : Bool) : List Bytes :=
  ascii "\n========== SAVED RUN ==========\n" :: pieces ++
    [if complete then ascii "\n[COMPLETE: all recorded run text saved]\n"
      else ascii ("\n[INCOMPLETE: recovered valid prefix only; power loss, storage limit or " ++
        "write error. Unsaved tail unavailable.]\n"),
    ascii "========== END OF SAVED RUN ==========\n"]

/-- `report_store_replay`: what it passes to `emit`. -/
def reportStoreReplay (flash : Flash) : List Bytes :=
  match savedRun flash with
  | none => [ascii "\nNo saved run found (or its start record is damaged).\n"]
  | some (pieces, complete) => savedText pieces complete

/-- The text and the verdict can be read off what is emitted. -/
theorem savedText_inj {pieces pieces' : List Bytes} {complete complete' : Bool} :
    savedText pieces complete = savedText pieces' complete' ↔
      pieces = pieces' ∧ complete = complete' := by
  constructor
  · intro h
    obtain ⟨hpieces, hend⟩ := List.append_inj' (List.cons.inj h).2 rfl
    refine ⟨hpieces, ?_⟩
    have hverdict := (List.cons.inj hend).1
    cases complete <;> cases complete'
    · rfl
    · exact absurd hverdict (by decide +kernel)
    · exact absurd hverdict (by decide +kernel)
    · rfl
  · rintro ⟨rfl, rfl⟩
    rfl

/-- **`report_store_replay`** shows the run it has found. -/
theorem reportStoreReplay_eq_iff {flash : Flash} {pieces : List Bytes} {complete : Bool} :
    reportStoreReplay flash = savedText pieces complete ↔
      savedRun flash = some (pieces, complete) := by
  unfold reportStoreReplay
  cases hsaved : savedRun flash with
  | none =>
    refine iff_of_false (fun h => ?_) nofun
    have hempty : pieces ++ _ = [] := (List.cons.inj h).2.symm
    exact List.append_ne_nil_of_right_ne_nil _ (List.cons_ne_nil _ _) hempty
  | some found => rw [savedText_inj, Option.some_inj, Prod.ext_iff]

/-! ## Pages the store writes -/

/-- Programming an erased page stores it as it is. -/
theorem erased_land (p : LogPage) : LogPage.erased.land p = p := by
  obtain ⟨magic, index, length, crc, ⟨cells, hcells⟩⟩ := p
  have hones (l : List UInt8) :
      List.zipWith (· &&& ·) (List.replicate l.length (0xFF : UInt8)) l = l := by
    induction l with
    | nil => rfl
    | cons a l ih =>
      rw [List.length_cons, List.replicate_succ, List.zipWith_cons_cons, ih]
      congr 1
      apply UInt8.eq_of_toBitVec_eq
      exact BitVec.allOnes_and
  have h32 (x : UInt32) : 0xFFFFFFFF &&& x = x := by
    apply UInt32.eq_of_toBitVec_eq
    exact BitVec.allOnes_and
  have h16 (x : UInt16) : 0xFFFF &&& x = x := by
    apply UInt16.eq_of_toBitVec_eq
    exact BitVec.allOnes_and
  have hdata := hones cells
  rw [hcells] at hdata
  simp only [LogPage.land, LogPage.erased, Buffer.filled, h32, h16, hdata]

/-- An erased page fails its check. -/
theorem not_valid_erased {i : ℕ} : ¬ Valid i LogPage.erased := by
  rintro ⟨-, hlength, -⟩
  revert hlength
  decide

theorem pageCrc_congr {p q : LogPage} (hmagic : p.magic = q.magic) (hindex : p.index = q.index)
    (hlength : p.length = q.length) (hdata : p.data = q.data) : pageCrc p = pageCrc q := by
  simp only [pageCrc, LogPage.header, LogPage.text, hmagic, hindex, hlength, hdata]

variable {magic : UInt32} {i : ℕ} {data : Bytes}

/-- A page that is put together passes its check. -/
theorem valid_makePage (hi : i < pageCount) (hdata : data.length ≤ reportPageData) :
    Valid i (makePage magic i data) := by
  have hcount : pageCount = 2048 := rfl
  have hmax : reportPageData = 244 := rfl
  refine ⟨?_, ?_, pageCrc_congr rfl rfl rfl rfl⟩
  · show (UInt16.ofNat i).toNat = i
    rw [UInt16.toNat_ofNat']
    omega
  · show (UInt16.ofNat data.length).toNat ≤ reportPageData
    rw [UInt16.toNat_ofNat']
    omega

/-- The text of a page is what was put there. -/
theorem text_makePage (hdata : data.length ≤ reportPageData) :
    (makePage magic i data).text = data := by
  have hmax : reportPageData = 244 := rfl
  show ((Buffer.filled 244 0xFF).write 0 data).prefixOf (UInt16.ofNat data.length).toNat = data
  rw [UInt16.toNat_ofNat', Nat.mod_eq_of_lt (by omega), Buffer.prefixOf_write_zero _ (by omega)]

/-- A page without text has length 0, and one with text has not. -/
theorem length_makePage_eq_zero (hdata : data.length ≤ reportPageData) :
    (makePage magic i data).length = 0 ↔ data = [] := by
  have hmax : reportPageData = 244 := rfl
  show UInt16.ofNat data.length = 0 ↔ _
  rw [← UInt16.toNat_inj, UInt16.toNat_ofNat', UInt16.toNat_zero, Nat.mod_eq_of_lt (by omega),
    List.length_eq_zero_iff]

end ReportStore
