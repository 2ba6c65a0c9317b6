/-
# The format of a saved run

`SavedBytes` is the format as a grammar over the bytes of the journal region: a start record, data
records with text in them, and then an end record, or a page that is neither a data record nor an
end record, or the end of the region.  It names no record type and no page loop.

The replay accepts exactly this (`replay_format`), whatever the region holds: bytes that were never
written, torn pages, or the pages of an older run.
-/
import GettingThere.PageImage
import GettingThere.JournalSafety

namespace ReportStore

open CrashLogic TransferProtocol

/-- The journal region, byte by byte. -/
abbrev Image := Buffer UInt8 reportFlashBytes

/-- What `report_flash_read` copies for page `i`. -/
def Image.pageBytes (image : Image) (i : ℕ) : Bytes :=
  (image.cells.drop (i * reportPageBytes)).take reportPageBytes

/-- The pages of the region as records. -/
def Image.flash (image : Image) : Flash := fun i => LogPage.ofBytes (image.pageBytes i)

/-- The region with these records on its pages. -/
def imageOf (flash : Flash) : Image where
  cells := (List.range pageCount).flatMap fun i => (flash i).bytes
  length_cells := by
    rw [List.length_flatMap]
    simp only [LogPage.length_bytes, List.map_const', List.sum_replicate, List.length_range]
    rfl

/-! ## The grammar -/

/-- The bytes start with a record, and `rest` stands behind it. -/
def Record (magic : UInt32) (i : ℕ) (text raw rest : Bytes) : Prop :=
  ∃ padding, text.length + padding.length = reportPageData ∧
    raw = recordBytes magic i text padding ++ rest

/-- The bytes from page `i` on: the pieces of text that are saved there, and whether the run is
complete. -/
inductive Journal : ℕ → Bytes → List Bytes → Bool → Prop
  | full (raw : Bytes) : Journal pageCount raw [] false
  | data {i : ℕ} {text raw rest : Bytes} {pieces : List Bytes} {complete : Bool}
      (hi : i < pageCount) (hne : text ≠ []) (hrecord : Record dataMagic i text raw rest)
      (hrest : Journal (i + 1) rest pieces complete) : Journal i raw (text :: pieces) complete
  | finish {i : ℕ} {raw rest : Bytes} (hi : i < pageCount)
      (hrecord : Record endMagic i [] raw rest) : Journal i raw [] true
  | stop {i : ℕ} {raw : Bytes} (hi : i < pageCount)
      (hdata : ∀ text rest, Record dataMagic i text raw rest → text = [])
      (hend : ∀ rest, ¬ Record endMagic i [] raw rest) : Journal i raw [] false

/-- The bytes of a saved run. -/
def SavedBytes (raw : Bytes) (pieces : List Bytes) (complete : Bool) : Prop :=
  ∃ rest, Record startMagic 0 [] raw rest ∧ Journal 1 rest pieces complete

/-! ## Records and pages -/

variable {image : Image} {i : ℕ} {magic : UInt32} {text raw rest : Bytes}

/-- What stands behind a record is the rest of the bytes. -/
theorem Record.rest_eq (h : Record magic i text raw rest) : rest = raw.drop reportPageBytes := by
  obtain ⟨padding, hlen, rfl⟩ := h
  rw [List.drop_left' (length_recordBytes hlen)]

theorem Record.take_eq (h : Record magic i text raw rest) :
    ∃ padding, text.length + padding.length = reportPageData ∧
      raw.take reportPageBytes = recordBytes magic i text padding := by
  obtain ⟨padding, hlen, rfl⟩ := h
  exact ⟨padding, hlen, List.take_left' (length_recordBytes hlen)⟩

theorem Image.length_pageBytes (image : Image) (hi : i < pageCount) :
    (image.pageBytes i).length = reportPageBytes := by
  have hcount : pageCount = 2048 := rfl
  unfold Image.pageBytes
  rw [List.length_take, List.length_drop, image.length_cells]
  unfold reportPageBytes reportFlashBytes
  omega

theorem Image.drop_drop (image : Image) (i : ℕ) :
    (image.cells.drop (i * reportPageBytes)).drop reportPageBytes =
      image.cells.drop ((i + 1) * reportPageBytes) := by
  rw [List.drop_drop, Nat.succ_mul]

/-- A page that passes its check has text when its length says so. -/
theorem Valid.length_eq_zero {p : LogPage} (h : Valid i p) : p.length = 0 ↔ p.text = [] := by
  have hlen : p.text.length = p.length.toNat := p.data.length_prefixOf h.2.1
  rw [← List.length_eq_zero_iff, hlen, ← UInt16.toNat_inj, UInt16.toNat_zero]

/-- **A record of the format** is a page that passes its check, with that magic and text. -/
theorem record_iff (hi : i < pageCount) :
    Record magic i text (image.cells.drop (i * reportPageBytes))
        (image.cells.drop ((i + 1) * reportPageBytes)) ↔
      Valid i (image.flash i) ∧ (image.flash i).magic = magic ∧ (image.flash i).text = text := by
  constructor
  · intro h
    obtain ⟨padding, hlen, htake⟩ := h.take_eq
    have hpage : image.flash i = recordPage magic i text padding := by
      show LogPage.ofBytes (image.pageBytes i) = _
      rw [Image.pageBytes, htake, ofBytes_recordBytes hlen]
    rw [hpage]
    exact ⟨valid_recordPage hi hlen, rfl, text_recordPage hlen⟩
  · rintro ⟨hvalid, rfl, rfl⟩
    have hbytes : (image.flash i).bytes = image.pageBytes i :=
      LogPage.bytes_ofBytes (image.length_pageBytes hi)
    have hmax := hvalid.2.1
    refine ⟨(image.flash i).data.cells.drop (image.flash i).length.toNat, ?_, ?_⟩
    · have htext : (image.flash i).text.length = (image.flash i).length.toNat :=
        (image.flash i).data.length_prefixOf hmax
      have hcells := (image.flash i).data.length_cells
      have hdata : reportPageData = 244 := rfl
      rw [htext, List.length_drop, hcells]
      omega
    · rw [← hvalid.bytes_eq, hbytes, ← image.drop_drop]
      exact (List.take_append_drop _ _).symm

/-- The bytes behind a record are those of the next page. -/
theorem Record.next (h : Record magic i text (image.cells.drop (i * reportPageBytes)) rest) :
    rest = image.cells.drop ((i + 1) * reportPageBytes) := by
  rw [h.rest_eq, image.drop_drop]

/-- The bytes of a page are those of its record. -/
theorem imageOf_pageBytes (flash : Flash) (hi : i < pageCount) :
    (imageOf flash).pageBytes i = (flash i).bytes := by
  have hskip : ∀ k ≤ pageCount, (imageOf flash).cells.drop (k * reportPageBytes) =
      ((List.range pageCount).drop k).flatMap fun i => (flash i).bytes := by
    intro k
    induction k with
    | zero =>
      intro _
      simp only [Nat.zero_mul, List.drop_zero, imageOf]
    | succ k ih =>
      intro hk
      have hlt : k < (List.range pageCount).length := by
        rw [List.length_range]
        omega
      rw [← Image.drop_drop, ih (by omega), List.drop_eq_getElem_cons hlt, List.flatMap_cons,
        List.drop_left' (LogPage.length_bytes _)]
  have hlt : i < (List.range pageCount).length := by rwa [List.length_range]
  rw [Image.pageBytes, hskip i hi.le, List.drop_eq_getElem_cons hlt, List.flatMap_cons,
    List.take_left' (LogPage.length_bytes _), List.getElem_range]

/-- The records of a region are read back from its bytes. -/
theorem imageOf_flash (flash : Flash) (hi : i < pageCount) : (imageOf flash).flash i = flash i := by
  show LogPage.ofBytes (Image.pageBytes (imageOf flash) i) = _
  rw [imageOf_pageBytes flash hi, LogPage.ofBytes_bytes]

/-! ## The page loop and the grammar -/

section Steps

variable {flash : Flash} {n : ℕ}

/-- The page is a data record with text in it, or an end record. -/
def IsData (flash : Flash) (i : ℕ) : Prop :=
  Valid i (flash i) ∧ (flash i).magic = dataMagic ∧ (flash i).text ≠ []

def IsEnd (flash : Flash) (i : ℕ) : Prop :=
  Valid i (flash i) ∧ (flash i).magic = endMagic ∧ (flash i).text = []

theorem replayPages_isEnd (h : IsEnd flash i) : replayPages flash (n + 1) i = ([], true) := by
  obtain ⟨hvalid, hmagic, htext⟩ := h
  rw [replayPages]
  simp only
  rw [if_neg (not_not.mpr hvalid), if_pos ⟨hmagic, hvalid.length_eq_zero.mpr htext⟩]

theorem replayPages_isData (h : IsData flash i) :
    replayPages flash (n + 1) i =
      ((flash i).text :: (replayPages flash n (i + 1)).1, (replayPages flash n (i + 1)).2) := by
  obtain ⟨hvalid, hmagic, htext⟩ := h
  have hlength : (flash i).length ≠ 0 := fun hzero => htext (hvalid.length_eq_zero.mp hzero)
  rw [replayPages]
  simp only
  rw [if_neg (not_not.mpr hvalid), if_neg fun hend => hlength hend.2,
    if_neg (not_or.mpr ⟨not_not.mpr hmagic, hlength⟩)]

/-- Any other page ends the replay. -/
theorem replayPages_other (hdata : ¬ IsData flash i) (hend : ¬ IsEnd flash i) :
    replayPages flash (n + 1) i = ([], false) := by
  rw [replayPages]
  simp only
  by_cases hvalid : Valid i (flash i)
  · rw [if_neg (not_not.mpr hvalid)]
    rw [if_neg fun h => hend ⟨hvalid, h.1, hvalid.length_eq_zero.mp h.2⟩, if_pos]
    by_contra hpage
    obtain ⟨hmagic, hlength⟩ := not_or.mp hpage
    exact hdata ⟨hvalid, not_not.mp hmagic, fun htext => hlength (hvalid.length_eq_zero.mpr htext)⟩
  · rw [if_pos hvalid]

end Steps

/-- **What the page loop finds is in the grammar.** -/
theorem journal_replayPages (image : Image) : ∀ n i, n + i = pageCount →
    Journal i (image.cells.drop (i * reportPageBytes)) (replayPages image.flash n i).1
      (replayPages image.flash n i).2 := by
  intro n
  induction n with
  | zero =>
    intro i hcount
    obtain rfl : i = pageCount := by omega
    exact .full _
  | succ n ih =>
    intro i hcount
    have hi : i < pageCount := by omega
    by_cases hend : IsEnd image.flash i
    · rw [replayPages_isEnd hend]
      exact .finish hi ((record_iff hi).mpr hend)
    · by_cases hdata : IsData image.flash i
      · rw [replayPages_isData hdata]
        exact .data hi hdata.2.2 ((record_iff hi).mpr ⟨hdata.1, hdata.2.1, rfl⟩)
          (ih (i + 1) (by omega))
      · rw [replayPages_other hdata hend]
        refine .stop hi ?_ ?_
        · intro text rest hrecord
          obtain rfl := hrecord.next
          obtain ⟨hvalid, hmagic, rfl⟩ := (record_iff hi).mp hrecord
          by_contra hne
          exact hdata ⟨hvalid, hmagic, hne⟩
        · intro rest hrecord
          obtain rfl := hrecord.next
          exact hend ((record_iff hi).mp hrecord)

/-- **What is in the grammar is what the page loop finds.** -/
theorem Journal.replayPages_eq {pieces : List Bytes} {complete : Bool}
    (h : Journal i raw pieces complete) :
    ∀ n, n + i = pageCount → raw = image.cells.drop (i * reportPageBytes) →
      replayPages image.flash n i = (pieces, complete) := by
  induction h with
  | full raw =>
    intro n hcount _
    obtain rfl : n = 0 := by omega
    rfl
  | @data i text raw rest pieces complete hi hne hrecord hrest ih =>
    rintro n hcount rfl
    obtain rfl := hrecord.next
    obtain ⟨hvalid, hmagic, rfl⟩ := (record_iff hi).mp hrecord
    obtain ⟨m, rfl⟩ : ∃ m, n = m + 1 := ⟨n - 1, by omega⟩
    rw [replayPages_isData ⟨hvalid, hmagic, hne⟩, ih m (by omega) rfl]
  | @finish i raw rest hi hrecord =>
    rintro n hcount rfl
    obtain rfl := hrecord.next
    obtain ⟨m, rfl⟩ : ∃ m, n = m + 1 := ⟨n - 1, by omega⟩
    exact replayPages_isEnd ((record_iff hi).mp hrecord)
  | @stop i raw hi hdata hend =>
    rintro n hcount rfl
    obtain ⟨m, rfl⟩ : ∃ m, n = m + 1 := ⟨n - 1, by omega⟩
    refine replayPages_other ?_ ?_
    · intro h
      exact h.2.2 (hdata _ _ ((record_iff hi).mpr ⟨h.1, h.2.1, rfl⟩))
    · intro h
      exact hend _ ((record_iff hi).mpr h)

/-- The replay looks at the pages of the region only. -/
theorem replayPages_congr {flash flash' : Flash} (h : ∀ i < pageCount, flash i = flash' i) :
    ∀ n i, n + i = pageCount → replayPages flash n i = replayPages flash' n i := by
  intro n
  induction n with
  | zero => exact fun _ _ => rfl
  | succ n ih =>
    intro i hcount
    rw [replayPages, replayPages, h i (by omega), ih (i + 1) (by omega)]

/-- **The replay of the bytes** is the replay of the records. -/
theorem savedRun_imageOf (flash : Flash) : savedRun (imageOf flash).flash = savedRun flash := by
  unfold savedRun
  rw [imageOf_flash flash (by decide),
    replayPages_congr (fun i hi => imageOf_flash flash hi) (pageCount - 1) 1 (by decide)]

/-- A start page is a start record. -/
theorem isStart_iff (image : Image) :
    IsStart (image.flash 0) ↔
      Record startMagic 0 [] image.cells (image.cells.drop reportPageBytes) := by
  have hiff := @record_iff image 0 startMagic [] (by decide)
  rw [Nat.zero_mul, List.drop_zero, Nat.zero_add, Nat.one_mul] at hiff
  rw [hiff]
  constructor
  · rintro ⟨hvalid, hmagic, hlength⟩
    exact ⟨hvalid, hmagic, hvalid.length_eq_zero.mp hlength⟩
  · rintro ⟨hvalid, hmagic, htext⟩
    exact ⟨hvalid, hmagic, hvalid.length_eq_zero.mpr htext⟩

/-- A run is found exactly when the bytes are those of a saved run. -/
theorem savedBytes_iff (image : Image) (pieces : List Bytes) (complete : Bool) :
    savedRun image.flash = some (pieces, complete) ↔ SavedBytes image.cells pieces complete := by
  constructor
  · intro hsaved
    unfold savedRun at hsaved
    split at hsaved
    · rename_i hstart
      have hjournal := journal_replayPages image (pageCount - 1) 1 (by decide)
      rw [Option.some.inj hsaved, Nat.one_mul] at hjournal
      exact ⟨_, (isStart_iff image).mp hstart, hjournal⟩
    · cases hsaved
  · rintro ⟨rest, hrecord, hjournal⟩
    obtain rfl := hrecord.rest_eq
    rw [savedRun, if_pos ((isStart_iff image).mpr hrecord),
      hjournal.replayPages_eq (pageCount - 1) (by decide) (by rw [Nat.one_mul])]

/-- No run is found exactly when there is no start record. -/
theorem savedRun_eq_none_iff (image : Image) :
    savedRun image.flash = none ↔ ∀ rest, ¬ Record startMagic 0 [] image.cells rest := by
  constructor
  · intro hsaved rest hrecord
    obtain rfl := hrecord.rest_eq
    rw [savedRun, if_pos ((isStart_iff image).mpr hrecord)] at hsaved
    cases hsaved
  · intro hnone
    rw [savedRun, if_neg fun hstart => hnone _ ((isStart_iff image).mp hstart)]

/-- A run with one page of text. -/
def shortRun : Flash :=
  Function.update (Function.update (fun _ => .erased) 0 (makePage startMagic 0 [])) 1
    (makePage dataMagic 1 (ascii "ok"))

theorem log_shortRun : Log [ascii "ok"] shortRun 2 := by
  have hstart : Log [] (Function.update (fun _ => .erased) 0 (makePage startMagic 0 [])) 1 :=
    log_start fun _ _ => rfl
  exact hstart.dataPage (by decide) (by decide) (by decide)

/-- The calls of a session, and `report_store_finish` after them. -/
def finishing (x : Session) : Cmd (Sys × List Run) Bool := do
  performAll x.calls
  onFirst reportStoreFinish

/-- **A run that `report_store_finish` has finished** is a complete saved run. -/
theorem wp_finishing (x : Session) {y : Sys × List Run} (h : Kept y) :
    wp (finishing x)
      (fun ok z => ok = true → ∃ r pieces, z.2.head? = some r ∧ pieces.flatten = r.text ∧
        r.acked = r.text ∧ SavedBytes (imageOf z.1.flash).cells pieces true)
      (fun _ => True) y := by
  unfold finishing
  rw [wp_bind]
  refine wp_mono (wp_performAll x.calls y h) ?_ fun _ _ => trivial
  rintro - ⟨s, runs⟩ hkept
  rw [wp_onFirst]
  by_cases hactive : s.store.active = true
  · obtain ⟨r, earlier, pieces, rfl, hlog, hflat, hacked, -⟩ := hkept.active hactive
    refine wp_mono (wp_reportStoreFinish (F := .trivial) hactive hlog True.intro) ?_
      fun _ _ => trivial
    rintro ok t ⟨-, -, complete, hsaved, hcomplete, -⟩ hok
    refine ⟨r, pieces, rfl, hflat, hacked, ?_⟩
    rw [← savedBytes_iff, savedRun_imageOf, hsaved, hcomplete hok]
  · rw [Bool.not_eq_true] at hactive
    unfold reportStoreFinish
    rw [wp_bind, wp_get, hactive]
    exact fun hok => absurd hok nofun

/-- **The replay accepts the format**, and nothing else: on every journal region, it finds a run
exactly when the bytes are those of a saved run, with that text and that verdict, and it finds none
exactly when there is no start record.  What it emits says which run it has found.  And whatever the
journal has been through, the bytes of a run that `report_store_finish` has finished are a complete
saved run, with the text that was stored. -/
theorem replay_format :
    (∀ (image : Image) pieces complete, savedRun image.flash = some (pieces, complete) ↔
      SavedBytes image.cells pieces complete) ∧
    (∀ image : Image,
      savedRun image.flash = none ↔ ∀ rest, ¬ Record startMagic 0 [] image.cells rest) ∧
    (∀ (image : Image) pieces complete,
      reportStoreReplay image.flash = savedText pieces complete ↔
        SavedBytes image.cells pieces complete) ∧
    (∀ (sessions : List Session) (s : Sys) (x : Session) (t : Sys) (runs : List Run),
      exec (finishing x)
        (switchOn x (history sessions s).1, endRun (history sessions s).2) =
          (some true, (t, runs)) →
      ∃ r pieces, runs.head? = some r ∧ pieces.flatten = r.text ∧ r.acked = r.text ∧
        SavedBytes (imageOf t.flash).cells pieces true) := by
  refine ⟨savedBytes_iff, savedRun_eq_none_iff, ?_, ?_⟩
  · intro image pieces complete
    rw [reportStoreReplay_eq_iff, savedBytes_iff]
  · intro sessions s x t runs hexec
    have hrun := wp_finishing x (kept_switchOn x (promised_history sessions s))
    unfold wp at hrun
    rw [hexec] at hrun
    exact hrun rfl

/-- The two letters of a first run are found again. -/
theorem replay_format_firstRun :
    ∃ t runs, exec (finishing firstRun) (switchOn firstRun newRobot, [foundRun newRobot.flash]) =
        (some true, (t, runs)) ∧
      ∃ pieces, pieces.flatten = ascii "ok" ∧ SavedBytes (imageOf t.flash).cells pieces true := by
  have hrun : (exec (finishing firstRun) (switchOn firstRun newRobot, [foundRun newRobot.flash])).1 =
        some true ∧
      (exec (finishing firstRun)
        (switchOn firstRun newRobot, [foundRun newRobot.flash])).2.2.head?.map Run.text =
        some (ascii "ok") := by
    decide +kernel
  rcases hexec : exec (finishing firstRun)
    (switchOn firstRun newRobot, [foundRun newRobot.flash]) with ⟨ok, t, runs⟩
  rw [hexec] at hrun
  obtain ⟨rfl, htext⟩ := hrun
  obtain ⟨r, pieces, hhead, hflat, -, hsaved⟩ :=
    replay_format.2.2.2 [] newRobot firstRun t runs hexec
  rw [hhead] at htext
  exact ⟨t, runs, rfl, pieces, hflat.trans (Option.some_inj.mp htext), hsaved⟩

end ReportStore
