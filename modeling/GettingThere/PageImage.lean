/-
# The journal byte by byte

The replay copies each page of the flash into a `log_page_t` (`report_flash_read`), which lies in
memory as twelve bytes of header fields and 244 of text.  `LogPage.bytes` is a record as it lies
there, `LogPage.ofBytes` the record of 256 bytes; they are inverse to each other.

`recordBytes` is the format of one record, without any record type: the fields in their order,
with the CRC of what stands before it and behind it.
-/
import GettingThere.CrcBursts

namespace TransferProtocol

@[simp] theorem length_transferWriteU16 (value : UInt16) :
    (transferWriteU16 value).length = 2 := rfl

@[simp] theorem length_transferWriteU32 (value : UInt32) :
    (transferWriteU32 value).length = 4 := rfl

/-- The bytes of a 16-bit field are the ones that were read. -/
theorem transferWriteU16_read (p : Bytes) (i : ℕ) :
    transferWriteU16 (transferReadU16 p i) = [byteAt p i, byteAt p (i + 1)] := by
  generalize ha : byteAt p i = a
  generalize hb : byteAt p (i + 1) = b
  simp only [transferReadU16, transferWriteU16, ha, hb, List.cons.injEq, and_true]
  constructor
  · apply UInt8.eq_of_toBitVec_eq
    ext j hj
    simp
  · apply UInt8.eq_of_toBitVec_eq
    ext j hj
    simp
    grind

/-- The bytes of a 32-bit field are the ones that were read. -/
theorem transferWriteU32_read (p : Bytes) (i : ℕ) :
    transferWriteU32 (transferReadU32 p i) =
      [byteAt p i, byteAt p (i + 1), byteAt p (i + 2), byteAt p (i + 3)] := by
  generalize ha : byteAt p i = a
  generalize hb : byteAt p (i + 1) = b
  generalize hc : byteAt p (i + 2) = c
  generalize hd : byteAt p (i + 3) = d
  simp only [transferReadU32, transferWriteU32, ha, hb, hc, hd, List.cons.injEq, and_true]
  refine ⟨?_, ?_, ?_, ?_⟩ <;> apply UInt8.eq_of_toBitVec_eq <;> ext j hj <;> simp <;> grind

end TransferProtocol

namespace ReportStore

open TransferProtocol

/-! ## Records in memory -/

/-- A record as it lies in memory: `log_page_t`, little-endian. -/
def LogPage.bytes (p : LogPage) : Bytes :=
  transferWriteU32 p.magic ++ (transferWriteU16 p.index ++ (transferWriteU16 p.length ++
    (transferWriteU32 p.crc ++ p.data.cells)))

/-- The record of the bytes of a page. -/
def LogPage.ofBytes (raw : Bytes) : LogPage where
  magic := transferReadU32 raw 0
  index := transferReadU16 raw 4
  length := transferReadU16 raw 6
  crc := transferReadU32 raw 8
  data := ⟨(raw.drop 12).takeD 244 0, List.takeD_length _ _ _⟩

theorem LogPage.length_bytes (p : LogPage) : p.bytes.length = reportPageBytes := by
  unfold LogPage.bytes
  simp [p.data.length_cells, reportPageBytes]

/-- **A record is read back** from its bytes. -/
theorem LogPage.ofBytes_bytes (p : LogPage) : LogPage.ofBytes p.bytes = p := by
  obtain ⟨magic, index, length, crc, data⟩ := p
  have hmagic := transferReadU32_write [] (transferWriteU16 index ++ (transferWriteU16 length ++
    (transferWriteU32 crc ++ data.cells))) magic
  have hindex := transferReadU16_write (transferWriteU32 magic) (transferWriteU16 length ++
    (transferWriteU32 crc ++ data.cells)) index
  have hlength := transferReadU16_write (transferWriteU32 magic ++ transferWriteU16 index)
    (transferWriteU32 crc ++ data.cells) length
  have hcrc := transferReadU32_write (transferWriteU32 magic ++ (transferWriteU16 index ++
    transferWriteU16 length)) data.cells crc
  simp only [List.append_assoc] at hlength hcrc
  have hdata : (LogPage.ofBytes (LogPage.bytes ⟨magic, index, length, crc, data⟩)).data = data := by
    apply Buffer.eq_of_cells
    show (data.cells.takeD 244 0) = data.cells
    rw [List.takeD_eq_take _ (by rw [data.length_cells]), List.take_of_length_le]
    rw [data.length_cells]
  rw [LogPage.mk.injEq]
  exact ⟨hmagic, hindex, hlength, hcrc, hdata⟩

/-- **Every page is the bytes of a record**, whatever stands in it. -/
theorem LogPage.bytes_ofBytes {raw : Bytes} (h : raw.length = reportPageBytes) :
    (LogPage.ofBytes raw).bytes = raw := by
  have hlen : raw.length = 256 := h
  have hhead : raw.take 12 = (List.range 12).map (byteAt raw) := by
    apply List.ext_getElem
    · simp [hlen]
    · intro i hi hi'
      rw [List.getElem_take, List.getElem_map, List.getElem_range, List.getElem_eq_getD 0]
      rfl
  have hdata : (raw.drop 12).takeD 244 0 = raw.drop 12 := by
    rw [List.takeD_eq_take _ (by rw [List.length_drop, hlen]), List.take_of_length_le]
    rw [List.length_drop, hlen]
  calc (LogPage.ofBytes raw).bytes
      = (List.range 12).map (byteAt raw) ++ raw.drop 12 := by
        simp only [LogPage.bytes, LogPage.ofBytes, transferWriteU32_read, transferWriteU16_read,
          hdata]
        rfl
    _ = raw := by rw [← hhead, List.take_append_drop]

/-- **Programming** clears the bits of a page byte by byte. -/
theorem LogPage.bytes_land (p q : LogPage) :
    (p.land q).bytes = List.zipWith (· &&& ·) p.bytes q.bytes := by
  have h16 (a b : UInt16) : transferWriteU16 (a &&& b) =
      List.zipWith (· &&& ·) (transferWriteU16 a) (transferWriteU16 b) := by
    simp [transferWriteU16, UInt16.shiftRight_and]
  have h32 (a b : UInt32) : transferWriteU32 (a &&& b) =
      List.zipWith (· &&& ·) (transferWriteU32 a) (transferWriteU32 b) := by
    simp [transferWriteU32, UInt32.shiftRight_and]
  unfold LogPage.bytes LogPage.land
  rw [List.zipWith_append (by rfl), List.zipWith_append (by rfl), List.zipWith_append (by rfl),
    List.zipWith_append (by rfl), h32, h16, h16, h32]

/-- An erased page is nothing but set bits. -/
theorem LogPage.bytes_erased : LogPage.erased.bytes = List.replicate reportPageBytes 0xFF := by
  decide +kernel

/-! ## The format of a record -/

/-- The bytes of a record with its text: the fields, the CRC of all but itself, and what the page
has left, which nothing checks. -/
def recordBytes (magic : UInt32) (i : ℕ) (text padding : Bytes) : Bytes :=
  let fields := transferWriteU32 magic ++ (transferWriteU16 (UInt16.ofNat i) ++
    transferWriteU16 (UInt16.ofNat text.length))
  fields ++ (transferWriteU32 (transferCrc32 (fields ++ text)) ++ (text ++ padding))

/-- The CRC of a page is the CRC of files, of the bytes in front of it and the text. -/
theorem pageCrc_eq (p : LogPage) : pageCrc p = transferCrc32 (p.header ++ p.text) := by
  rw [Crc.transferCrc32_eq, ← Crc.crcBytes_append]
  rfl

/-- A page that passes its check is a record, with what stands behind its text. -/
theorem Valid.bytes_eq {i : ℕ} {p : LogPage} (h : Valid i p) :
    p.bytes = recordBytes p.magic i p.text (p.data.cells.drop p.length.toNat) := by
  obtain ⟨hindex, hlength, hcrc⟩ := h
  have hlen : p.text.length = p.length.toNat := p.data.length_prefixOf hlength
  have hdata : p.text ++ p.data.cells.drop p.length.toNat = p.data.cells :=
    List.take_append_drop _ _
  unfold recordBytes
  rw [hlen, ← hindex, UInt16.ofNat_toNat, UInt16.ofNat_toNat, hdata]
  show _ = p.header ++ (transferWriteU32 (transferCrc32 (p.header ++ p.text)) ++ p.data.cells)
  rw [← pageCrc_eq, ← hcrc]
  simp only [LogPage.bytes, LogPage.header, List.append_assoc]

variable {magic : UInt32} {i : ℕ} {text padding : Bytes}

theorem length_recordBytes (h : text.length + padding.length = reportPageData) :
    (recordBytes magic i text padding).length = reportPageBytes := by
  have hmax : reportPageData = 244 := rfl
  unfold recordBytes
  simp only [List.length_append, length_transferWriteU16, length_transferWriteU32, reportPageBytes]
  omega

/-- The record the bytes of the format hold. -/
def recordPage (magic : UInt32) (i : ℕ) (text padding : Bytes) : LogPage where
  magic := magic
  index := UInt16.ofNat i
  length := UInt16.ofNat text.length
  crc := transferCrc32 (transferWriteU32 magic ++ (transferWriteU16 (UInt16.ofNat i) ++
    transferWriteU16 (UInt16.ofNat text.length)) ++ text)
  data := ⟨(text ++ padding).takeD 244 0, List.takeD_length _ _ _⟩

theorem recordPage_data (h : text.length + padding.length = reportPageData) :
    (recordPage magic i text padding).data.cells = text ++ padding := by
  have hlen : (text ++ padding).length = 244 := by
    rw [List.length_append, h]
    rfl
  show (text ++ padding).takeD 244 0 = text ++ padding
  rw [List.takeD_eq_take _ hlen.ge, List.take_of_length_le hlen.le]

/-- **The bytes of the format** are read as that record. -/
theorem ofBytes_recordBytes (h : text.length + padding.length = reportPageData) :
    LogPage.ofBytes (recordBytes magic i text padding) = recordPage magic i text padding := by
  have hbytes : recordBytes magic i text padding = (recordPage magic i text padding).bytes := by
    unfold LogPage.bytes
    rw [recordPage_data h]
    simp only [recordBytes, recordPage, List.append_assoc]
  rw [hbytes, LogPage.ofBytes_bytes]

theorem text_recordPage (h : text.length + padding.length = reportPageData) :
    (recordPage magic i text padding).text = text := by
  have hmax : reportPageData = 244 := rfl
  have hlen : (recordPage magic i text padding).length.toNat = text.length := by
    show (UInt16.ofNat text.length).toNat = _
    rw [UInt16.toNat_ofNat', Nat.mod_eq_of_lt (by omega)]
  unfold LogPage.text Buffer.prefixOf
  rw [hlen, recordPage_data h, List.take_left]

/-- It passes the check of its page. -/
theorem valid_recordPage (hi : i < pageCount)
    (h : text.length + padding.length = reportPageData) :
    Valid i (recordPage magic i text padding) := by
  have hcount : pageCount = 2048 := rfl
  have hmax : reportPageData = 244 := rfl
  refine ⟨?_, ?_, ?_⟩
  · show (UInt16.ofNat i).toNat = i
    rw [UInt16.toNat_ofNat', Nat.mod_eq_of_lt (by omega)]
  · show (UInt16.ofNat text.length).toNat ≤ reportPageData
    rw [UInt16.toNat_ofNat', Nat.mod_eq_of_lt (by omega)]
    omega
  · rw [pageCrc_eq, text_recordPage h]
    rfl

end ReportStore
