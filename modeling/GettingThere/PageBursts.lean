/-
# Bursts in a saved run

A page of the flash wears out, or its bits flip, while a run lies there for the next start.  When
the change of a page stays inside a window of 32 bits, and inside one of the fields the CRC speaks
for (`Hit`), the page is refused; so the replay shows the text in front of the first such page, not
a byte of it altered, and never calls it complete (`replay_burst`).

A change of the length field is not among them: it changes which bytes the CRC is taken of.
-/
import GettingThere.SavedFormat

namespace Crc

/-- A burst in a part of the data is one of the whole. -/
theorem Corrupted.append {x y : Bytes} (h : Corrupted x y) (a b : Bytes) :
    Corrupted (a ++ (x ++ b)) (a ++ (y ++ b)) := by
  have hbits (u v : Bytes) : dataBits (u ++ v) = dataBits u ++ dataBits v := List.flatMap_append
  obtain ⟨k, hk⟩ := h.window
  refine ⟨?_, ?_, (dataBits a).length + k, ?_⟩
  · simp only [List.length_append, h.length]
  · intro heq
    exact h.differ (List.append_cancel_right (List.append_cancel_left heq))
  · intro i hi
    simp only [hbits]
    have hlen : (dataBits x).length = (dataBits y).length := by
      rw [length_dataBits, length_dataBits, h.length]
    by_cases hfront : i < (dataBits a).length
    · rw [List.getElem?_append_left hfront, List.getElem?_append_left hfront]
    · have hfront := Nat.le_of_not_lt hfront
      obtain ⟨j, rfl⟩ := Nat.exists_eq_add_of_le hfront
      rw [List.getElem?_append_right hfront, List.getElem?_append_right hfront,
        Nat.add_sub_cancel_left]
      by_cases hmiddle : j < (dataBits x).length
      · rw [List.getElem?_append_left hmiddle, List.getElem?_append_left (hlen ▸ hmiddle)]
        exact hk j (by omega)
      · have hmiddle := Nat.le_of_not_lt hmiddle
        rw [List.getElem?_append_right hmiddle, List.getElem?_append_right (hlen ▸ hmiddle), hlen]

end Crc

namespace ReportStore

open TransferProtocol Crc

/-! ## One page -/

/-- A burst of at most 32 bits in one field of a page: in its magic and index, its CRC or its
text. -/
def Hit (raw raw' : Bytes) : Prop :=
  ∃ before field field' behind, raw = before ++ (field ++ behind) ∧
    raw' = before ++ (field' ++ behind) ∧ Corrupted field field' ∧
    (before.length = 0 ∧ field.length = 6 ∨ before.length = 8 ∧ field.length = 4 ∨
      before.length = 12 ∧ field.length = (transferReadU16 raw 6).toNat)

variable {i : ℕ} {p q : LogPage}

theorem transferWriteU16_injective : Function.Injective transferWriteU16 := by
  intro a b h
  rw [← transferReadU16_write [] [] a, ← transferReadU16_write [] [] b, h]

theorem transferWriteU32_injective : Function.Injective transferWriteU32 := by
  intro a b h
  rw [← transferReadU32_write [] [] a, ← transferReadU32_write [] [] b, h]

/-- The length field of a page, in its bytes and in its header. -/
theorem LogPage.length_field (p : LogPage) : transferReadU16 p.bytes 6 = p.length :=
  congrArg LogPage.length p.ofBytes_bytes

theorem LogPage.length_of_header (h : p.header = q.header) : p.length = q.length := by
  obtain ⟨-, htail⟩ := List.append_inj h rfl
  exact transferWriteU16_injective (List.append_inj htail rfl).2

theorem LogPage.text_congr (hlength : p.length = q.length) (hdata : p.data.cells = q.data.cells) :
    p.text = q.text := by
  unfold LogPage.text Buffer.prefixOf
  rw [hdata, hlength]

theorem LogPage.bytes_eq_header (p : LogPage) :
    p.bytes = p.header ++ (transferWriteU32 p.crc ++ p.data.cells) := by
  simp only [LogPage.bytes, LogPage.header, List.append_assoc]

/-- Pages that pass their checks with the same CRC field have the same CRC. -/
theorem Valid.pageCrc_eq {j : ℕ} (hp : Valid i p) (hq : Valid j q) (h : p.crc = q.crc) :
    pageCrc p = pageCrc q :=
  (hp.2.2.symm.trans h).trans hq.2.2

variable {before field field' behind : Bytes}

/-- **A burst in the magic or the index.** -/
theorem not_valid_head (hp : Valid i p) (hbytes : p.bytes = field ++ behind)
    (hbytes' : q.bytes = field' ++ behind) (hfield : Corrupted field field')
    (hlen : field.length = 6) : ¬ Valid i q := by
  have hsplit (r : LogPage) : r.bytes = (transferWriteU32 r.magic ++ transferWriteU16 r.index) ++
      (transferWriteU16 r.length ++ (transferWriteU32 r.crc ++ r.data.cells)) := by
    simp only [LogPage.bytes, List.append_assoc]
  have hlen' := hfield.length
  obtain ⟨hhead, htail⟩ := List.append_inj ((hsplit p).symm.trans hbytes) (by rw [hlen]; rfl)
  obtain ⟨hhead', htail'⟩ := List.append_inj ((hsplit q).symm.trans hbytes')
    (by rw [← hlen', hlen]; rfl)
  obtain ⟨hlength, hrest⟩ := List.append_inj (htail.trans htail'.symm) rfl
  obtain ⟨hcrc, hdata⟩ := List.append_inj hrest rfl
  have hlength := transferWriteU16_injective hlength
  have htext := LogPage.text_congr hlength hdata
  have hdigest (r : LogPage) : r.header ++ r.text =
      [] ++ ((transferWriteU32 r.magic ++ transferWriteU16 r.index) ++
        (transferWriteU16 r.length ++ r.text)) := by
    simp only [LogPage.header, List.append_assoc, List.nil_append]
  intro hq
  have hsame := hp.pageCrc_eq hq (transferWriteU32_injective hcrc)
  rw [ReportStore.pageCrc_eq, ReportStore.pageCrc_eq, hdigest p, hdigest q, hhead, hhead', hlength,
    htext] at hsame
  exact transferCrc32_ne (hfield.append [] _) hsame

/-- **A burst in the CRC.** -/
theorem not_valid_crc (hp : Valid i p) (hbytes : p.bytes = before ++ (field ++ behind))
    (hbytes' : q.bytes = before ++ (field' ++ behind)) (hfield : Corrupted field field')
    (hbefore : before.length = 8) (hlen : field.length = 4) : ¬ Valid i q := by
  have hlen' := hfield.length
  obtain ⟨hheader, htail⟩ := List.append_inj (p.bytes_eq_header.symm.trans hbytes)
    (by rw [hbefore]; rfl)
  obtain ⟨hheader', htail'⟩ := List.append_inj (q.bytes_eq_header.symm.trans hbytes')
    (by rw [hbefore]; rfl)
  obtain ⟨hcrc, hdata⟩ := List.append_inj htail (by rw [hlen]; rfl)
  obtain ⟨hcrc', hdata'⟩ := List.append_inj htail' (by rw [← hlen', hlen]; rfl)
  have hheader := hheader.trans hheader'.symm
  have htext := LogPage.text_congr (LogPage.length_of_header hheader) (hdata.trans hdata'.symm)
  intro hq
  apply hfield.differ
  rw [← hcrc, ← hcrc', hp.2.2, hq.2.2, pageCrc_eq, pageCrc_eq, hheader, htext]

/-- **A burst in the text.** -/
theorem not_valid_text (hp : Valid i p) (hbytes : p.bytes = before ++ (field ++ behind))
    (hbytes' : q.bytes = before ++ (field' ++ behind)) (hfield : Corrupted field field')
    (hbefore : before.length = 12) (hlen : field.length = p.length.toNat) : ¬ Valid i q := by
  have hsplit (r : LogPage) :
      r.bytes = (r.header ++ transferWriteU32 r.crc) ++ r.data.cells := by
    rw [r.bytes_eq_header, List.append_assoc]
  obtain ⟨hfields, hdata⟩ := List.append_inj ((hsplit p).symm.trans hbytes) (by rw [hbefore]; rfl)
  obtain ⟨hfields', hdata'⟩ := List.append_inj ((hsplit q).symm.trans hbytes')
    (by rw [hbefore]; rfl)
  obtain ⟨hheader, hcrc⟩ := List.append_inj (hfields'.trans hfields.symm) rfl
  have htext : p.text = field := by
    unfold LogPage.text Buffer.prefixOf
    rw [hdata, ← hlen, List.take_left]
  have htext' : q.text = field' := by
    unfold LogPage.text Buffer.prefixOf
    rw [hdata', LogPage.length_of_header hheader, ← hlen, hfield.length, List.take_left]
  rw [← htext, ← htext'] at hfield
  exact not_valid_burst hp hheader (transferWriteU32_injective hcrc) hfield

/-- **A hit page is refused**, when it was one that passed its check. -/
theorem not_valid_hit (hp : Valid i p) (hhit : Hit p.bytes q.bytes) : ¬ Valid i q := by
  obtain ⟨before, field, field', behind, hbytes, hbytes', hfield, hplace⟩ := hhit
  rw [p.length_field] at hplace
  rcases hplace with ⟨hbefore, hlen⟩ | ⟨hbefore, hlen⟩ | ⟨hbefore, hlen⟩
  · obtain rfl := List.eq_nil_of_length_eq_zero hbefore
    rw [List.nil_append] at hbytes hbytes'
    exact not_valid_head hp hbytes hbytes' hfield hlen
  · exact not_valid_crc hp hbytes hbytes' hfield hbefore hlen
  · exact not_valid_text hp hbytes hbytes' hfield hbefore hlen

/-! ## The replay -/

variable {flash flash' : Flash} {pieces : List Bytes} {k : ℕ}

/-- What the page loop finds at page `i`, when it finds a complete run there. -/
theorem replayPages_complete_cases {n : ℕ} (h : replayPages flash n i = (pieces, true)) :
    (∃ m, n = m + 1 ∧ IsEnd flash i ∧ pieces = []) ∨
    (∃ m rest, n = m + 1 ∧ IsData flash i ∧ pieces = (flash i).text :: rest ∧
      replayPages flash m (i + 1) = (rest, true)) := by
  cases n with
  | zero => cases h
  | succ m =>
    by_cases hend : IsEnd flash i
    · rw [replayPages_isEnd hend, Prod.mk.injEq] at h
      exact .inl ⟨m, rfl, hend, h.1.symm⟩
    · by_cases hdata : IsData flash i
      · rw [replayPages_isData hdata, Prod.mk.injEq] at h
        exact .inr ⟨m, _, rfl, hdata, h.1.symm, Prod.ext rfl h.2⟩
      · rw [replayPages_other hdata hend] at h
        cases h

/-- Every page of a complete run passes its check, and is one of the region. -/
theorem valid_of_complete : ∀ n i pieces, replayPages flash n i = (pieces, true) →
    i ≤ k → k ≤ i + pieces.length → Valid k (flash k) ∧ k < i + n := by
  intro n
  induction n with
  | zero =>
    intro i pieces h
    cases h
  | succ n ih =>
    intro i pieces h hik hki
    rcases replayPages_complete_cases h with ⟨m, -, hend, rfl⟩ | ⟨m, rest, hm, hdata, rfl, hrest⟩
    · obtain rfl : k = i := by
        rw [List.length_nil] at hki
        omega
      exact ⟨hend.1, by omega⟩
    · obtain rfl : n = m := by omega
      by_cases hfirst : k = i
      · rw [hfirst]
        exact ⟨hdata.1, by omega⟩
      · rw [List.length_cons] at hki
        obtain ⟨hvalid, hlt⟩ := ih (i + 1) rest hrest (by omega) (by omega)
        exact ⟨hvalid, by omega⟩

/-- **A page that fails its check** cuts the replay of a complete run there. -/
theorem replayPages_cut (hk : ¬ Valid k (flash' k)) : ∀ n i pieces,
    replayPages flash n i = (pieces, true) → (∀ j, i ≤ j → j < k → flash' j = flash j) → i ≤ k →
      k ≤ i + pieces.length → replayPages flash' n i = (pieces.take (k - i), false) := by
  intro n
  induction n with
  | zero =>
    intro i pieces h
    cases h
  | succ n ih =>
    intro i pieces h hsame hik hki
    by_cases hfirst : k = i
    · rw [← hfirst, Nat.sub_self, List.take_zero, replayPages_invalid hk]
    · rcases replayPages_complete_cases h with ⟨m, -, hend, rfl⟩ | ⟨m, rest, hm, hdata, rfl, hrest⟩
      · rw [List.length_nil] at hki
        omega
      · obtain rfl : n = m := by omega
        have hpage := hsame i le_rfl (by omega)
        have hdata' : IsData flash' i := by
          unfold IsData
          rw [hpage]
          exact hdata
        rw [List.length_cons] at hki
        have hcut := ih (i + 1) rest hrest (fun j hj => hsame j (by omega)) (by omega) (by omega)
        rw [replayPages_isData hdata', hcut, hpage, show k - i = (k - (i + 1)) + 1 by omega,
          List.take_succ_cons]

/-- **A burst is never shown.**  A complete run was saved; the pages in front of page `k` are as
they were, page `k` of the run was hit by a burst in one of its fields, and behind it anything may
have happened.  Without its start page the run is not found.  Otherwise the replay shows the text
that stood in front of page `k`, nothing else, and says that it is incomplete. -/
theorem replay_burst (image image' : Image) (pieces : List Bytes) (k : ℕ)
    (hsaved : SavedBytes image.cells pieces true) (hk : k ≤ pieces.length + 1)
    (hsame : ∀ i < k, image'.pageBytes i = image.pageBytes i)
    (hhit : Hit (image.pageBytes k) (image'.pageBytes k)) :
    savedRun image'.flash = if k = 0 then none else some (pieces.take (k - 1), false) := by
  have hcount : pageCount = 2048 := rfl
  rw [← savedBytes_iff, savedRun] at hsaved
  by_cases hstart : IsStart (image.flash 0)
  swap
  · rw [if_neg hstart] at hsaved
    cases hsaved
  rw [if_pos hstart] at hsaved
  have hpages := Option.some.inj hsaved
  have hflash : ∀ j, 0 ≤ j → j < k → image'.flash j = image.flash j :=
    fun j _ hj => congrArg LogPage.ofBytes (hsame j hj)
  have hvalid : Valid k (image.flash k) ∧ k < pageCount := by
    by_cases hk0 : k = 0
    · rw [hk0]
      exact ⟨hstart.1, by omega⟩
    · obtain ⟨hvalid, hlt⟩ :=
        valid_of_complete (k := k) _ 1 pieces hpages (by omega) (by omega)
      exact ⟨hvalid, by omega⟩
  have hbytes (x : Image) : (x.flash k).bytes = x.pageBytes k :=
    LogPage.bytes_ofBytes (x.length_pageBytes hvalid.2)
  rw [← hbytes image, ← hbytes image'] at hhit
  have hinvalid := not_valid_hit hvalid.1 hhit
  rw [savedRun]
  by_cases hk0 : k = 0
  · rw [if_pos hk0]
    rw [hk0] at hinvalid
    exact if_neg fun hstart' => hinvalid hstart'.1
  · rw [if_neg hk0, hflash 0 le_rfl (by omega), if_pos hstart,
      replayPages_cut hinvalid _ 1 pieces hpages (fun j _ hj => hflash j (Nat.zero_le j) hj)
        (by omega) (by omega)]

/-- One bit of the text has flipped: `ok` reads `oj`. -/
theorem replay_burst_text :
    savedRun (imageOf (Function.update (Function.update shortRun 2 (makePage endMagic 2 [])) 1
      { makePage dataMagic 1 (ascii "ok") with
        data := (Buffer.filled 244 0xFF).write 0 (ascii "oj") })).flash = some ([], false) := by
  refine replay_burst (imageOf (Function.update shortRun 2 (makePage endMagic 2 []))) _
    [ascii "ok"] 1 ?_ (by decide) ?_ ?_
  · rw [← savedBytes_iff, savedRun_imageOf, savedRun_endPage log_shortRun (by decide)]
  · intro i hi
    have hpage : i < pageCount := Nat.lt_trans hi (by decide)
    rw [imageOf_pageBytes _ hpage, imageOf_pageBytes _ hpage, Function.update_of_ne (by omega)]
  · rw [imageOf_pageBytes _ (by decide), imageOf_pageBytes _ (by decide), Function.update_self]
    refine ⟨(makePage dataMagic 1 (ascii "ok")).bytes.take 12, ascii "ok", ascii "oj",
      List.replicate 242 0xFF, by decide +kernel, by decide +kernel, ⟨rfl, by decide, 0, ?_⟩,
      .inr (.inr ⟨by decide +kernel, by decide +kernel⟩)⟩
    intro i hi
    rw [List.getElem?_eq_none, List.getElem?_eq_none] <;>
    · simp only [length_dataBits, ascii]
      simp
      omega

end ReportStore
