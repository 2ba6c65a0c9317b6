/-
# The pages of the journal

The flash can program a page once after each erase.  `Disciplined` says of the operations done so
far that every program met that: its page was erased since it was programmed last, and the
programs of a run are at offsets 0, 256, 512, … inside the journal.  `Sound` is what the store
keeps for it between two calls, whatever fails: an active store has pages 1 to 2047 left, and
these are ready.

So the end page of a run always has room, and text is refused only when it does not fit the pages
before it.
-/
import GettingThere.CommandTriples
import GettingThere.JournalSafety

namespace ReportStore

open CrashLogic TransferProtocol

/-! ## Operations -/

/-- Page `i` was erased, and not programmed since. -/
def Ready (i : ℕ) : List FlashOperation → Prop
  | [] => False
  | .erase k :: ops => i / (flashSectorSize / reportPageBytes) = k ∨ Ready i ops
  | .program offset :: ops => i * reportPageBytes ≠ offset ∧ Ready i ops

/-- The offsets programmed since the last erase, the latest first. -/
def runOffsets : List FlashOperation → List ℕ
  | [] => []
  | .erase _ :: _ => []
  | .program offset :: ops => offset :: runOffsets ops

/-- Every program is the next one of its run, inside the journal, on a page that is ready. -/
def Disciplined : List FlashOperation → Prop
  | [] => True
  | .erase _ :: ops => Disciplined ops
  | .program offset :: ops =>
    offset = reportPageBytes * (runOffsets ops).length ∧
      offset + reportPageBytes ≤ reportFlashBytes ∧ Ready (offset / reportPageBytes) ops ∧
      Disciplined ops

/-- The pages from `n` on are ready, and erased; those below were programmed in this run. -/
structure Prepared (n : ℕ) (s : Sys) : Prop where
  disciplined : Disciplined s.operations
  offsets : (runOffsets s.operations).length = n
  ready : ∀ i, n ≤ i → i < pageCount → Ready i s.operations ∧ s.flash i = .erased

/-- **What can be seen at any moment**: the operations, and the counters of the store. -/
structure Safe (s : Sys) : Prop where
  disciplined : Disciplined s.operations
  next_le : s.store.next ≤ pageCount
  active : s.store.active = true → 1 ≤ s.store.next ∧ s.store.next ≤ pageCount - 1

/-- **What the store keeps** between two calls. -/
structure Sound (s : Sys) : Prop extends Safe s where
  prepared : s.store.active = true → Prepared s.store.next s

/-- Only lines were queued. -/
structure Same (s t : Sys) : Prop where
  flash : t.flash = s.flash
  store : t.store = s.store
  operations : t.operations = s.operations

variable {s t u : Sys} {n : ℕ}

/-- A page that was cut off leaves the counters. -/
theorem Safe.of_store (h : Safe s) (hstore : t.store = s.store) (hops : Disciplined t.operations) :
    Safe t := by
  refine ⟨hops, ?_, ?_⟩
  · rw [hstore]
    exact h.next_le
  · rw [hstore]
    exact h.active

theorem Same.refl (s : Sys) : Same s s := ⟨rfl, rfl, rfl⟩

theorem Same.trans (h : Same s t) (h' : Same t u) : Same s u :=
  ⟨h'.flash.trans h.flash, h'.store.trans h.store, h'.operations.trans h.operations⟩

instance : IsPreorder Sys Same where
  refl := Same.refl
  trans _ _ _ := Same.trans

/-- Queued lines leave the pages as they are. -/
theorem Prepared.same (h : Prepared n s) (h' : Same s t) : Prepared n t where
  disciplined := by
    rw [h'.operations]
    exact h.disciplined
  offsets := by
    rw [h'.operations]
    exact h.offsets
  ready i hi hcount := by
    rw [h'.operations, h'.flash]
    exact h.ready i hi hcount

/-- A store that is not active keeps nothing but the operations and its counter. -/
theorem sound_of_inactive (hops : Disciplined s.operations) (hnext : s.store.next ≤ pageCount)
    (hinactive : s.store.active = false) : Sound s := by
  have habsurd : s.store.active ≠ true := by
    rw [hinactive]
    exact Bool.false_ne_true
  exact ⟨⟨hops, hnext, fun h => absurd h habsurd⟩, fun h => absurd h habsurd⟩

/-! ## Queued lines -/

/-- Formatting a line uses up no outcome of the flash. -/
theorem same_format (s : Sys) (line : Bytes) :
    Same s (s.format line) ∧ (s.format line).outcomes = s.outcomes := by
  unfold Sys.format
  split
  · exact ⟨.refl s, rfl⟩
  · exact ⟨⟨rfl, rfl, rfl⟩, rfl⟩

/-- Formatting several lines uses up no outcome. -/
theorem same_lines (lines : List Bytes) (s : Sys) :
    Same s (lines.foldl (fun s line => s.format line) s) ∧
      (lines.foldl (fun s line => s.format line) s).outcomes = s.outcomes := by
  induction lines generalizing s with
  | nil => exact ⟨.refl s, rfl⟩
  | cons line lines ih =>
    obtain ⟨hline, houtcomes⟩ := same_format s line
    obtain ⟨hlines, hrest⟩ := ih (s.format line)
    exact ⟨hline.trans hlines, hrest.trans houtcomes⟩

/-- The lines that arrive meanwhile use up no outcome. -/
theorem same_arrive (s : Sys) : Same s s.arrive ∧ s.arrive.outcomes = s.outcomes := by
  unfold Sys.arrive
  split
  · exact ⟨.refl s, rfl⟩
  · rename_i lines rest _
    obtain ⟨hlines, houtcomes⟩ := same_lines lines { s with arrivals := rest }
    exact ⟨⟨hlines.flash, hlines.store, hlines.operations⟩, houtcomes⟩

/-- A command that leaves the journal alone. -/
def Leaves {α : Type} (c : Cmd Sys α) : Prop :=
  ∀ s, wp c (fun _ t => Same s t) (fun t => Same s t) s

section Leaves

variable {α β : Type} {c : Cmd Sys α}

theorem Leaves.pure (a : α) : Leaves (pure a : Cmd Sys α) := fun s => .refl s

/-- Commands that leave the journal alone may follow each other. -/
theorem Leaves.bind {f : α → Cmd Sys β} (hc : Leaves c) (hf : ∀ a, Leaves (f a)) :
    Leaves (c >>= f) := Steps.bind hc hf

/-- A write to the rest of the state leaves the journal alone. -/
theorem leaves_modify {f : Sys → Sys} (hf : ∀ s, Same s (f s)) : Leaves (modify f) := hf

/-- Waiting leaves the journal alone. -/
theorem leaves_await : Leaves await := leaves_modify fun s => (same_arrive s).1

/-- Reading the state and writing back a part that does not matter. -/
theorem leaves_set {f : Sys → Cmd Sys β} {g : Sys → Sys} (hg : ∀ s, Same s (g s))
    (hf : ∀ s, Leaves (f s)) : Leaves (do let s ← get; set (g s); f s) := by
  intro s
  rw [wp_bind, wp_get, wp_bind, wp_set]
  exact wp_mono (hf s (g s)) (fun a t ht => (hg s).trans ht) fun t ht => (hg s).trans ht

/-- Flushing the USB queue leaves the journal alone. -/
theorem leaves_reportFlushUsb : Leaves reportFlushUsb := by
  apply leaves_await.bind
  intro _
  refine leaves_set (fun s => ⟨rfl, rfl, rfl⟩) ?_
  intro s
  split
  · exact leaves_await.bind fun _ => leaves_modify fun s => ⟨rfl, rfl, rfl⟩
  · apply leaves_await.bind
    intro _
    refine leaves_set (fun s => ⟨rfl, rfl, rfl⟩) ?_
    intro s
    exact leaves_await.bind fun _ => leaves_modify fun s => ⟨rfl, rfl, rfl⟩

/-- A line of the report leaves the journal alone. -/
theorem leaves_reportPrintf (line : Bytes) : Leaves (reportPrintf line) := by
  apply leaves_await.bind
  intro _
  apply (leaves_modify fun s => (same_format s line).1).bind
  intro _
  split
  · exact leaves_reportFlushUsb
  · exact Leaves.pure _

/-- The outcome of an operation is known before the operation touches the journal. -/
theorem leaves_nextOutcome : Leaves nextOutcome := by
  apply leaves_await.bind
  intro _ s
  rw [wp_bind, wp_get]
  split
  · exact .refl s
  · exact ⟨rfl, rfl, rfl⟩

end Leaves

/-! ## Erasing -/

/-- An erased sector is noted; otherwise only its pages can have changed. -/
theorem wp_eraseSector_operations (k : ℕ) (s : Sys) :
    wp (eraseSector k)
      (fun ok t => t.store = s.store ∧
        if ok then t.operations = .erase k :: s.operations ∧
          t.flash = changeSector k (fun _ _ => .erased) s.flash
        else t.operations = s.operations)
      (fun t => t.store = s.store ∧ t.operations = s.operations) s := by
  unfold eraseSector
  simp only
  rw [wp_bind]
  refine wp_mono (leaves_nextOutcome s) ?_ fun t ht => ⟨ht.store, ht.operations⟩
  intro outcome t ht
  cases outcome with
  | done =>
    refine ⟨ht.store, ?_, ?_⟩
    · show FlashOperation.erase k :: t.operations = _
      rw [ht.operations]
    · show changeSector k (fun _ _ => LogPage.erased) t.flash = _
      rw [ht.flash]
  | fails damage => exact ⟨ht.store, ht.operations⟩
  | corrupts damage => exact ⟨ht.store, ht.operations⟩
  | cut damage => exact ⟨ht.store, ht.operations⟩

/-- The sectors from `k` on are ready, and those that were ready before. -/
theorem wp_eraseSectors_operations (n k : ℕ) (h : Disciplined s.operations)
    (hoffsets : 0 < k → runOffsets s.operations = [])
    (hready : ∀ i, i / 16 < k → Ready i s.operations ∧ s.flash i = .erased) :
    wp (eraseSectors n k)
      (fun ok t => t.store = s.store ∧ Disciplined t.operations ∧
        (ok = true → (0 < k + n → runOffsets t.operations = []) ∧
          ∀ i, i / 16 < k + n → Ready i t.operations ∧ t.flash i = .erased))
      (fun t => t.store = s.store ∧ Disciplined t.operations) s := by
  induction n generalizing k s with
  | zero => exact ⟨rfl, h, fun _ => ⟨hoffsets, hready⟩⟩
  | succ n ih =>
    unfold eraseSectors
    rw [wp_bind]
    refine wp_mono (wp_eraseSector_operations k s) ?_ ?_
    swap
    · rintro t ⟨hstore, hops⟩
      rw [hops]
      exact ⟨hstore, h⟩
    rintro ok t ⟨hstore, hok⟩
    cases ok with
    | false =>
      have hops : t.operations = s.operations := hok
      have hkept (u : Sys) (hu : Same t u) : u.store = s.store ∧ Disciplined u.operations := by
        rw [hu.store, hu.operations, hops]
        exact ⟨hstore, h⟩
      simp only [Bool.not_false, if_true]
      rw [wp_bind]
      refine wp_mono (leaves_reportPrintf _ t) ?_ fun u hu => hkept u hu
      exact fun _ u hu => ⟨(hkept u hu).1, (hkept u hu).2, by rintro ⟨⟩⟩
    | true =>
      obtain ⟨hops, hflash⟩ := hok
      have hdisciplined : Disciplined t.operations := by
        rw [hops]
        exact h
      have hnone : runOffsets t.operations = [] := by
        rw [hops]
        rfl
      have hmore (i : ℕ) (hi : i / 16 < k + 1) : Ready i t.operations ∧ t.flash i = .erased := by
        rw [hops, hflash]
        unfold changeSector
        rw [show flashSectorSize / reportPageBytes = 16 from rfl]
        by_cases hthis : i / 16 = k
        · exact ⟨.inl hthis, if_pos hthis⟩
        · obtain ⟨hready', herased⟩ := hready i (by omega)
          exact ⟨.inr hready', (if_neg hthis).trans herased⟩
      have hrest (u : Sys) (hu : Same t u) :
          wp (eraseSectors n (k + 1))
            (fun ok v => v.store = s.store ∧ Disciplined v.operations ∧
              (ok = true → (0 < k + (n + 1) → runOffsets v.operations = []) ∧
                ∀ i, i / 16 < k + (n + 1) → Ready i v.operations ∧ v.flash i = .erased))
            (fun v => v.store = s.store ∧ Disciplined v.operations) u := by
        have hstore' : u.store = s.store := hu.store.trans hstore
        rw [← hu.operations] at hdisciplined hnone hmore
        rw [← hu.flash] at hmore
        rw [← hstore', show k + (n + 1) = k + 1 + n by omega]
        exact ih (k + 1) hdisciplined (fun _ => hnone) hmore
      have hkept (u : Sys) (hu : Same t u) : u.store = s.store ∧ Disciplined u.operations := by
        rw [hu.store, hu.operations]
        exact ⟨hstore, hdisciplined⟩
      simp only [Bool.not_true, Bool.false_eq_true, if_false]
      rw [wp_bind]
      refine wp_mono (leaves_await t) ?_ fun u hu => hkept u hu
      intro _ u hu
      -- a line of progress after every sixteenth sector
      split
      · rw [wp_bind]
        refine wp_mono (leaves_reportPrintf _ u) ?_ fun v hv => hkept v (hu.trans hv)
        exact fun _ v hv => hrest v (hu.trans hv)
      · exact hrest u hu

/-- **`report_flash_erase`** prepares every page. -/
theorem wp_reportFlashErase_operations (h : Disciplined s.operations) :
    wp reportFlashErase
      (fun ok t => t.store = s.store ∧ Disciplined t.operations ∧ (ok = true → Prepared 0 t))
      (fun t => t.store = s.store ∧ Disciplined t.operations) s := by
  unfold reportFlashErase
  rw [wp_bind]
  refine wp_mono (leaves_reportPrintf _ s) ?_ ?_
  swap
  · intro t ht
    rw [ht.store, ht.operations]
    exact ⟨rfl, h⟩
  intro _ t ht
  rw [wp_bind]
  have hdisciplined : Disciplined t.operations := by
    rw [ht.operations]
    exact h
  have herase := wp_eraseSectors_operations sectors 0 hdisciplined
    (fun hpos => absurd hpos (Nat.lt_irrefl 0)) fun i hi => absurd hi (Nat.not_lt_zero _)
  rw [ht.store] at herase
  refine wp_mono herase ?_ fun u hu => hu
  rintro ok u ⟨hstore, hops, hok⟩
  cases ok with
  | false => exact ⟨hstore, hops, nofun⟩
  | true =>
    obtain ⟨hoffsets, hready⟩ := hok rfl
    refine ⟨hstore, hops, fun _ => ⟨hops, ?_, fun i _ hi => ?_⟩⟩
    · show (runOffsets u.operations).length = 0
      rw [hoffsets (by decide)]
      rfl
    · have hcount : pageCount = 2048 := rfl
      have hsectors : sectors = 128 := rfl
      exact hready i (by omega)

/-! ## Programming -/

/-- The next page of a run is programmed, well or badly. -/
theorem Prepared.program (h : Prepared n s) (hn : n < pageCount) (image : LogPage) :
    Prepared (n + 1) { s with
      flash := programPage n image s.flash
      operations := .program (n * reportPageBytes) :: s.operations } where
  disciplined := by
    have hcount : pageCount = 2048 := rfl
    have hbytes : reportPageBytes = 256 := rfl
    have hregion : reportFlashBytes = 524288 := rfl
    refine ⟨?_, ?_, ?_, h.disciplined⟩
    · rw [h.offsets, Nat.mul_comm]
    · rw [hbytes, hregion]
      omega
    · rw [Nat.mul_div_cancel _ (by decide)]
      exact (h.ready n (Nat.le_refl n) hn).1
  offsets := by
    show (runOffsets s.operations).length + 1 = _
    rw [h.offsets]
  ready i hi hcount := by
    obtain ⟨hready, herased⟩ := h.ready i (Nat.le_of_succ_le hi) hcount
    have hne : i ≠ n := by omega
    refine ⟨⟨?_, hready⟩, ?_⟩
    · intro heq
      exact hne (Nat.mul_right_cancel (by decide) heq)
    · show programPage n image s.flash i = _
      unfold programPage
      rw [Function.update_of_ne hne]
      exact herased

/-- **`report_flash_program`** at the next page of a run uses that page up. -/
theorem wp_reportFlashProgram_operations {page : LogPage} (h : Prepared n s) (hn : n < pageCount) :
    wp (reportFlashProgram (n * reportPageBytes) page)
      (fun _ t => t.store = s.store ∧ Prepared (n + 1) t)
      (fun t => t.store = s.store ∧ Disciplined t.operations) s := by
  have hcount : pageCount = 2048 := rfl
  have hbytes : reportPageBytes = 256 := rfl
  have hregion : reportFlashBytes = 524288 := rfl
  unfold reportFlashProgram
  rw [hbytes, hregion, if_neg (by omega), Nat.mul_div_cancel _ (by decide)]
  simp only
  rw [wp_bind]
  refine wp_mono (leaves_nextOutcome s) ?_ ?_
  swap
  · intro t ht
    exact ⟨ht.store, (h.same ht).disciplined⟩
  intro outcome t ht
  have hprogram (image : LogPage) := (h.same ht).program hn image
  cases outcome with
  | done => exact ⟨ht.store, hprogram page⟩
  | fails damage => exact ⟨ht.store, hprogram (damage.page n page)⟩
  | corrupts damage => exact ⟨ht.store, hprogram (damage.page n page)⟩
  | cut damage => exact ⟨ht.store, (hprogram (damage.page n page)).disciplined⟩

/-- **`write_page`** moves the counter on by one page, or leaves it. -/
theorem wp_writePage_operations {magic : UInt32} {data : Bytes} (h : Prepared s.store.next s)
    (hroom : s.store.next < pageCount) :
    wp (writePage magic data)
      (fun ok t => Disciplined t.operations ∧
        if ok then Prepared (s.store.next + 1) t ∧
          t.store = { s.store with next := s.store.next + 1 }
        else t.store = s.store)
      (fun t => t.store = s.store ∧ Disciplined t.operations) s := by
  unfold writePage
  rw [wp_bind, wp_get]
  by_cases hfull : pageCount ≤ s.store.next ∨ reportPageData < data.length
  · rw [if_pos hfull]
    exact ⟨h.disciplined, rfl⟩
  rw [if_neg hfull]
  simp only
  rw [wp_bind]
  refine wp_mono (wp_reportFlashProgram_operations h hroom) ?_ fun t ht => ht
  rintro ok t ⟨hstore, ht⟩
  cases ok with
  | false => exact ⟨ht.disciplined, hstore⟩
  | true =>
    simp only [Bool.not_true, Bool.false_eq_true, if_false]
    unfold reportFlashRead
    rw [wp_bind, wp_bind]
    refine wp_mono (leaves_await t) ?_ ?_
    swap
    · intro u hu
      exact ⟨hu.store.trans hstore, (ht.same hu).disciplined⟩
    intro _ u hu
    rw [wp_bind, wp_get, wp_pure]
    have hu' := ht.same hu
    have hstore' := hu.store.trans hstore
    split
    · exact ⟨hu'.disciplined, hstore'⟩
    · refine ⟨hu'.disciplined, ⟨hu'.disciplined, hu'.offsets, hu'.ready⟩, ?_⟩
      have hcount : pageCount = 2048 := rfl
      show ({ next := (u.store.next + 1) % 4096, active := u.store.active } : Store) = _
      rw [hstore', Nat.mod_eq_of_lt (by omega)]

/-! ## The calls -/

/-- **`report_store_begin`**. -/
theorem Sound.wp_begin (h : Sound s) :
    wp reportStoreBegin (fun _ t => Sound t) (fun t => Safe t) s := by
  have hcount : pageCount = 2048 := rfl
  unfold reportStoreBegin
  rw [wp_bind, wp_modify, wp_bind]
  -- whatever fails, the store stays closed
  have hinactive (t : Sys) (hstore : t.store = ⟨0, false⟩) (hops : Disciplined t.operations) :
      Sound t := by
    refine sound_of_inactive hops ?_ ?_
    · rw [hstore]
      exact Nat.zero_le _
    · rw [hstore]
  have herase := wp_reportFlashErase_operations
    (s := { s with store := { active := false, next := 0 } }) h.disciplined
  refine wp_mono herase ?_ fun t ht => (hinactive t ht.1 ht.2).toSafe
  rintro ok t ⟨hstore, hops, hok⟩
  cases ok with
  | false => exact hinactive t hstore hops
  | true =>
    simp only [Bool.not_true, Bool.false_eq_true, if_false]
    rw [wp_bind]
    -- the run begins with page 0
    have hnext : t.store.next = 0 := by rw [hstore]
    have hprepared : Prepared t.store.next t := by
      rw [hnext]
      exact hok rfl
    have hpage := @wp_writePage_operations t startMagic [] hprepared (by omega)
    refine wp_mono hpage ?_ fun u hu => (hinactive u (hu.1.trans hstore) hu.2).toSafe
    rintro written u ⟨hops', hu⟩
    cases written with
    | false => exact hinactive u (hu.trans hstore) hops'
    | true =>
      obtain ⟨hprepared', hstore'⟩ := hu
      have hone : u.store.next = 1 := by rw [hstore', hnext]
      rw [hnext] at hprepared'
      refine ⟨⟨hops', ?_, fun _ => ?_⟩, fun _ => ?_⟩
      · show u.store.next ≤ _
        omega
      · show 1 ≤ u.store.next ∧ u.store.next ≤ _
        omega
      · show Prepared u.store.next _
        rw [hone]
        exact ⟨hprepared'.disciplined, hprepared'.offsets, hprepared'.ready⟩

/-- The page loop of `report_store_append`. -/
theorem wp_appendPages_operations {data : Bytes} (hlen : data.length ≤ n) (h : Sound s)
    (hactive : s.store.active = true) :
    wp (appendPages data) (fun _ t => Sound t) (fun t => Safe t) s := by
  have hcount : pageCount = 2048 := rfl
  induction n generalizing data s with
  | zero =>
    have hnil : data = [] := List.length_eq_zero_iff.mp (by omega)
    subst hnil
    unfold appendPages
    rw [dif_pos rfl]
    exact h
  | succ n ih =>
    unfold appendPages
    by_cases hnil : data = []
    · subst hnil
      rw [dif_pos rfl]
      exact h
    rw [dif_neg hnil, wp_bind, wp_get]
    by_cases hfull : pageCount - 1 ≤ s.store.next
    · rw [if_pos hfull]
      -- no page is left but the one for the end
      exact sound_of_inactive h.disciplined h.next_le rfl
    rw [if_neg hfull, wp_bind]
    -- one page, and then the rest of the data from the state it leaves
    have hpage := @wp_writePage_operations s dataMagic (data.take reportPageData)
      (h.prepared hactive) (by omega)
    refine wp_mono hpage ?_ ?_
    swap
    · rintro t ⟨hstore, hops⟩
      exact h.toSafe.of_store hstore hops
    rintro written t ⟨hops, ht⟩
    cases written with
    | false =>
      -- the page was not written, and the store is closed
      have hstore : t.store = s.store := ht
      refine sound_of_inactive hops ?_ rfl
      show t.store.next ≤ _
      rw [hstore]
      exact h.next_le
    | true =>
      obtain ⟨hprepared, hstore⟩ := ht
      have hnext : t.store.next = s.store.next + 1 := by rw [hstore]
      have hactive' : t.store.active = true := by rw [hstore, hactive]
      have ht : Sound t := by
        refine ⟨⟨hops, by omega, fun _ => by omega⟩, ?_⟩
        intro _
        rw [hnext]
        exact hprepared
      have hmax : reportPageData = 244 := rfl
      have hpos : 0 < data.length := List.length_pos_iff.mpr hnil
      simp only [Bool.not_true, Bool.false_eq_true, if_false]
      refine ih ?_ ht hactive'
      rw [List.length_drop]
      omega

/-- **`report_store_append`**. -/
theorem Sound.wp_append (h : Sound s) (data : Bytes) :
    wp (reportStoreAppend data) (fun _ t => Sound t) (fun t => Safe t) s := by
  unfold reportStoreAppend
  rw [wp_bind, wp_get]
  cases hactive : s.store.active with
  | false => exact h
  | true => exact wp_appendPages_operations (Nat.le_refl _) h hactive

/-- **`report_store_finish`**. -/
theorem Sound.wp_finish (h : Sound s) :
    wp reportStoreFinish (fun _ t => Sound t) (fun t => Safe t) s := by
  have hcount : pageCount = 2048 := rfl
  unfold reportStoreFinish
  rw [wp_bind, wp_get]
  cases hactive : s.store.active with
  | false => exact h
  | true =>
    simp only [Bool.not_true, Bool.false_eq_true, if_false]
    obtain ⟨hlow, hhigh⟩ := h.active hactive
    rw [wp_bind]
    have hpage := @wp_writePage_operations s endMagic [] (h.prepared hactive) (by omega)
    refine wp_mono hpage ?_ ?_
    swap
    · rintro t ⟨hstore, hops⟩
      exact h.toSafe.of_store hstore hops
    rintro ok t ⟨hops, ht⟩
    have hnext : t.store.next ≤ pageCount := by
      cases ok with
      | false =>
        have hstore : t.store = s.store := ht
        rw [hstore]
        exact h.next_le
      | true =>
        obtain ⟨-, hstore⟩ := ht
        rw [hstore]
        show s.store.next + 1 ≤ _
        omega
    exact sound_of_inactive hops hnext rfl

/-- **Every call keeps the pages in order.** -/
theorem Sound.wp_perform (h : Sound s) (call : StoreCall) (runs : List Run) :
    wp (perform call) (fun _ x => Sound x.1) (fun x => Safe x.1) (s, runs) := by
  cases call with
  | begin =>
    unfold perform
    rw [wp_bind, wp_modify]
    exact wp_bind.mpr (wp_onFirst.mpr h.wp_begin)
  | append data =>
    unfold perform
    rw [wp_bind, wp_modify, wp_bind, wp_onFirst]
    refine wp_mono (h.wp_append data) ?_ fun t ht => ht
    intro ok t ht
    cases ok with
    | false => exact ht
    | true => exact ht
  | finish =>
    unfold perform
    rw [wp_bind, wp_modify]
    exact wp_bind.mpr (wp_onFirst.mpr h.wp_finish)

/-- **So does every sequence of calls.** -/
theorem Sound.wp_performAll (calls : List StoreCall) (x : Sys × List Run) (h : Sound x.1) :
    wp (performAll calls) (fun _ y => Sound y.1) (fun y => Safe y.1) x := by
  induction calls generalizing x with
  | nil => exact h
  | cons call calls ih =>
    unfold performAll
    rw [wp_bind]
    exact wp_mono (h.wp_perform call x.2) (fun _ y hy => ih y hy) fun y hy => hy

/-! ## Room -/

/-- The pages from the counter on are erased. -/
def Room (s : Sys) : Prop := ∀ i, s.store.next ≤ i → i < pageCount → s.flash i = .erased

/-- Prepared pages are erased. -/
theorem Prepared.room (h : Prepared s.store.next s) : Room s :=
  fun i hi hcount => (h.ready i hi hcount).2

/-- **`write_page`** succeeds when the flash does. -/
theorem wp_writePage_done {magic : UInt32} {data : Bytes} {rest : List Outcome} (h : Room s)
    (hroom : s.store.next < pageCount) (hlen : data.length ≤ reportPageData)
    (hdone : s.outcomes = .done :: rest) :
    wp (writePage magic data)
      (fun ok t => ok = true ∧ t.store = { s.store with next := s.store.next + 1 } ∧ Room t ∧
        t.outcomes = rest)
      (fun _ => False) s := by
  have hcount : pageCount = 2048 := rfl
  have hbytes : reportPageBytes = 256 := rfl
  have hregion : reportFlashBytes = 524288 := rfl
  have hdiv : s.store.next * reportPageBytes / reportPageBytes = s.store.next :=
    Nat.mul_div_cancel _ (by decide)
  have hdata : reportPageData = 244 := rfl
  obtain ⟨harrive, houtcomes⟩ := same_arrive s
  unfold writePage
  rw [wp_bind, wp_get, if_neg (by omega)]
  simp only
  unfold reportFlashProgram
  rw [wp_bind, if_neg (by rw [hbytes, hregion]; omega), hdiv]
  simp only
  unfold nextOutcome await
  rw [wp_bind, wp_bind, wp_modify, wp_bind, wp_get, houtcomes, hdone]
  -- the page is programmed on an erased one
  have hflash : programPage s.store.next (makePage magic s.store.next data) s.arrive.flash =
      Function.update s.flash s.store.next (makePage magic s.store.next data) := by
    unfold programPage
    rw [harrive.flash, h s.store.next (Nat.le_refl _) hroom, erased_land]
  have hstore := harrive.store
  simp only [wp_bind, wp_set, wp_pure, wp_modify, Bool.not_true, Bool.false_eq_true, if_false]
  rw [hflash]
  unfold reportFlashRead await
  rw [wp_bind, wp_modify, wp_bind, wp_get, wp_pure, hdiv]
  generalize hu : Sys.arrive _ = u
  have hlater := same_arrive { s.arrive with
    flash := Function.update s.flash s.store.next (makePage magic s.store.next data)
    outcomes := rest
    operations := .program (s.store.next * reportPageBytes) :: s.arrive.operations }
  rw [hu] at hlater
  obtain ⟨hlater, houtcomes'⟩ := hlater
  have hread : u.flash s.store.next = makePage magic s.store.next data := by
    rw [hlater.flash]
    exact Function.update_self _ _ _
  have hcounter : u.store = s.store := hlater.store.trans hstore
  rw [hread, if_neg (not_not.mpr rfl), wp_bind, wp_modify, wp_pure]
  have hnext : ({ next := (u.store.next + 1) % 4096, active := u.store.active } : Store) =
      { s.store with next := s.store.next + 1 } := by
    rw [hcounter, Nat.mod_eq_of_lt (by omega)]
  refine ⟨rfl, hnext, ?_, houtcomes'⟩
  intro i hi hcount'
  show u.flash i = _
  have hi' : s.store.next + 1 ≤ i := by
    have hle : (u.store.next + 1) % 4096 ≤ i := hi
    rw [hcounter, Nat.mod_eq_of_lt (by omega)] at hle
    exact hle
  have hne : i ≠ s.store.next := by omega
  rw [hlater.flash]
  show Function.update _ _ _ i = _
  rw [Function.update_of_ne hne]
  exact h i (by omega) hcount'

/-- **The page loop** succeeds exactly when the text fits the pages before the last one. -/
theorem wp_appendPages_done {data : Bytes} {m : ℕ} {rest : List Outcome}
    (hlen : data.length ≤ n) (h : Room s) (hnext : s.store.next ≤ 2047)
    (hdone : s.outcomes = List.replicate m .done ++ rest) (hm : (data.length + 243) / 244 ≤ m) :
    wp (appendPages data)
      (fun ok _ => ok = decide (s.store.next + (data.length + 243) / 244 ≤ 2047))
      (fun _ => False) s := by
  have hcount : pageCount = 2048 := rfl
  have hmax : reportPageData = 244 := rfl
  have hempty (t : Sys) (ht : t.store.next ≤ 2047) :
      wp (appendPages [])
        (fun ok _ => ok = decide (t.store.next + (([] : Bytes).length + 243) / 244 ≤ 2047))
        (fun _ => False) t := by
    unfold appendPages
    rw [dif_pos rfl]
    exact (decide_eq_true ht).symm
  induction n generalizing data s m with
  | zero =>
    have hnil : data = [] := List.length_eq_zero_iff.mp (by omega)
    subst hnil
    exact hempty s hnext
  | succ n ih =>
    by_cases hnil : data = []
    · subst hnil
      exact hempty s hnext
    have hpos : 0 < data.length := List.length_pos_iff.mpr hnil
    unfold appendPages
    rw [dif_neg hnil, wp_bind, wp_get]
    by_cases hfull : pageCount - 1 ≤ s.store.next
    · rw [if_pos hfull]
      -- the data needs a page, and none is left
      exact (decide_eq_false (by omega)).symm
    rw [if_neg hfull, wp_bind]
    -- the page takes one of the outcomes, and the data one page less
    obtain ⟨m', rfl⟩ : ∃ m', m = m' + 1 := ⟨m - 1, by omega⟩
    rw [List.replicate_succ, List.cons_append] at hdone
    have hpage := @wp_writePage_done s dataMagic (data.take reportPageData) _ h (by omega)
      (List.length_take_le _ _) hdone
    refine wp_mono hpage ?_ fun t ht => ht
    rintro written t ⟨rfl, hstore, hroom, houtcomes⟩
    have hstep : t.store.next = s.store.next + 1 := by rw [hstore]
    have hdrop : (data.drop reportPageData).length = data.length - 244 := List.length_drop
    simp only [Bool.not_true, Bool.false_eq_true, if_false]
    refine wp_mono (ih (by omega) hroom (by omega) houtcomes (by omega)) ?_ fun u hu => hu
    intro ok u hok
    rw [hok, hstep, hdrop, decide_eq_decide]
    omega

/-- While the robot is switched on once. -/
theorem wp_session (x : Session) (y : Sys × List Run) (hy : Disciplined y.1.operations) :
    wp (performAll x.calls) (fun _ z => Sound z.1) (fun z => Safe z.1)
      (switchOn x y.1, endRun y.2) :=
  Sound.wp_performAll x.calls (switchOn x y.1, endRun y.2)
    (sound_of_inactive hy (Nat.zero_le _) rfl)

/-- **A session of the report** is safe at every moment, from the state in which the one before was
cut off. -/
theorem safe_session (x : Session) (y : Sys × List Run) (hy : Disciplined y.1.operations) :
    wp (performAll x.calls) (fun _ z => Safe z.1) (fun z => Safe z.1)
      (switchOn x y.1, endRun y.2) :=
  wp_mono (wp_session x y hy) (fun _ _ hz => hz.toSafe) fun _ hz => hz

/-- **The pages of the journal.**  Any number of times the robot was switched on, made calls of the
store and lost power; now it is switched on again and makes calls, whatever the flash operations
turn out to be.  Every program so far was disciplined; the counter is at most 2048, and an active
store has its counter in 1 to 2047.  When the calls are over and the store is active, an end page
is written if the flash does it, and text is appended if the flash does it exactly when its pages
and the end page fit. -/
theorem journal_pages (sessions : List Session) (x : Session) (s : Sys) :
    let before := history sessions { s with operations := [] }
    let after := exec (performAll x.calls) (switchOn x before.1, endRun before.2)
    let t := after.2.1
    Disciplined t.operations ∧ t.store.next ≤ 2048 ∧
      (t.store.active = true → 1 ≤ t.store.next ∧ t.store.next ≤ 2047) ∧
      (after.1 = some () → t.store.active = true →
        (∀ rest, ∃ u, exec reportStoreFinish { t with outcomes := .done :: rest } =
          (some true, u)) ∧
        ∀ (data : Bytes) (m : ℕ) (rest : List Outcome), (data.length + 243) / 244 ≤ m →
          ∃ u, exec (reportStoreAppend data) { t with
              outcomes := List.replicate m .done ++ rest } =
            (some (decide (t.store.next + (data.length + 243) / 244 ≤ 2047)), u)) := by
  -- every earlier session has kept the discipline
  have hhistory : Disciplined (history sessions { s with operations := [] }).1.operations := by
    unfold history
    have hfold (y : Sys × List Run) (hy : Disciplined y.1.operations) :
        Disciplined (sessions.foldl (fun s x => session x s) y).1.operations := by
      induction sessions generalizing y with
      | nil => exact hy
      | cons x sessions ih => exact ih _ (always (safe_session x y hy)).disciplined
    exact hfold _ True.intro
  intro before after t
  have hrun := wp_session x before hhistory
  have hsafe : Safe t := always (safe_session x before hhistory)
  refine ⟨hsafe.disciplined, hsafe.next_le, hsafe.active, ?_⟩
  intro hreturned hactive
  obtain ⟨hlow, hhigh⟩ := hsafe.active hactive
  have hsound : Sound t := wp_returned hrun hreturned
  -- an active store has its next page erased
  have hroom : Room t := (hsound.prepared hactive).room
  constructor
  · intro rest
    have hpage := @wp_writePage_done { t with outcomes := .done :: rest } endMagic [] rest hroom
      (Nat.lt_of_le_of_lt hhigh (by decide)) (Nat.zero_le _) rfl
    have hfinish : wp reportStoreFinish (fun ok _ => ok = true) (fun _ => False)
        { t with outcomes := .done :: rest } := by
      unfold reportStoreFinish
      rw [wp_bind, wp_get, hactive]
      simp only [Bool.not_true, Bool.false_eq_true, if_false]
      rw [wp_bind]
      exact wp_mono hpage (fun ok u hu => hu.1) fun u hu => hu
    exact exists_exec hfinish
  · intro data m rest hm
    have happend : wp (reportStoreAppend data)
        (fun ok _ => ok = decide (t.store.next + (data.length + 243) / 244 ≤ 2047))
        (fun _ => False) { t with outcomes := List.replicate m .done ++ rest } := by
      unfold reportStoreAppend
      rw [wp_bind, wp_get, hactive]
      simp only [Bool.not_true, Bool.false_eq_true, if_false]
      have hmax : reportPageData = 244 := rfl
      exact @wp_appendPages_done { t with outcomes := List.replicate m .done ++ rest } data.length
        data m rest (by omega) hroom hhigh rfl hm
    exact exists_exec happend

/-- After a first run the end page is written, and so is more text. -/
theorem journal_pages_firstRun :
    let t := (exec (performAll firstRun.calls)
      (switchOn firstRun newRobot, [foundRun newRobot.flash])).2.1
    t.store.next = 2 ∧ (∃ u, exec reportStoreFinish { t with outcomes := [.done] } = (some true, u)) ∧
      ∃ u, exec (reportStoreAppend (ascii "more")) { t with outcomes := [.done] } =
        (some true, u) := by
  intro t
  obtain ⟨hreturned, hactive, hnext⟩ : (exec (performAll firstRun.calls)
      (switchOn firstRun newRobot, [foundRun newRobot.flash])).1 = some () ∧
      t.store.active = true ∧ t.store.next = 2 := by
    decide +kernel
  obtain ⟨-, -, -, hcalls⟩ := journal_pages [] firstRun newRobot
  obtain ⟨hfinish, happend⟩ := hcalls hreturned hactive
  refine ⟨hnext, hfinish [], ?_⟩
  have hmore : ∃ u, exec (reportStoreAppend (ascii "more")) { t with outcomes := [.done] } =
      (some (decide (t.store.next + 1 ≤ 2047)), u) := happend (ascii "more") 1 [] (by decide)
  rwa [hnext] at hmore

end ReportStore
