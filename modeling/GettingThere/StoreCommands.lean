/-
# What the commands of the report store do

One rule for each command of `RunReport` that works on the flash, for any `Frame`: a
statement about the report that stays true whatever line is queued.  Radio callbacks can
queue lines at every point of a flash operation, and nothing else of the report changes
there.
-/
import GettingThere.RunReport
import GettingThere.SavedRun

namespace ReportStore

open CrashLogic TransferProtocol

/-! ## Frames -/

/-- A statement about the report and the submitted lines that every further line keeps. -/
structure Frame where
  holds : Report → List Bytes → Prop
  stable : ∀ (line : Bytes) (r : Report) (submitted : List Bytes), holds r submitted →
    holds (r.keep line) (if r.closed then submitted else submitted ++ [line])

/-- The frame says nothing. -/
def Frame.trivial : Frame := ⟨fun _ _ => True, fun _ _ _ _ => True.intro⟩

variable (F : Frame)

/-- A frame holds in a state. -/
def Frame.on (s : Sys) : Prop := F.holds s.report s.submitted

/-- A failed program has left a page that fails its check. -/
def Outcome.Strict : Outcome → Prop
  | .fails damage => ∀ i p, ¬ Valid i (damage.page i p)
  | _ => True

/-- Every operation still to come is strict. -/
def Sys.Strict (s : Sys) : Prop := ∀ outcome ∈ s.outcomes, outcome.Strict

/-- Between `s` and `t` lines were queued, and the store and the erase note are the same. -/
structure Beside (s t : Sys) : Prop where
  frame : F.on t
  store : t.store = s.store
  erased : t.erased = s.erased
  strict : s.Strict → t.Strict

/-- Nor has the flash changed. -/
structure Idle (s t : Sys) : Prop extends Beside F s t where
  flash : t.flash = s.flash

/-- A command leaves flash and store alone. -/
def Quiet {α : Type} (c : Cmd Sys α) : Prop :=
  ∀ (F : Frame) (s : Sys), F.on s → wp c (fun _ t => Idle F s t) (fun t => Idle F s t) s

variable {F} {s t u : Sys}

theorem Idle.refl (h : F.on s) : Idle F s s := ⟨⟨h, rfl, rfl, fun hs => hs⟩, rfl⟩

/-- Lines may be queued in two stretches. -/
theorem Beside.trans (h : Beside F s t) (h' : Beside F t u) : Beside F s u :=
  ⟨h'.frame, h'.store.trans h.store, h'.erased.trans h.erased, fun hs => h'.strict (h.strict hs)⟩

theorem Idle.trans (h : Idle F s t) (h' : Idle F t u) : Idle F s u :=
  ⟨h.toBeside.trans h'.toBeside, h'.flash.trans h.flash⟩

/-- Formatting a line changes neither the frame nor the flash. -/
theorem Idle.format (h : F.on s) (line : Bytes) : Idle F s (s.format line) := by
  unfold Sys.format
  split
  · exact .refl h
  · exact ⟨⟨F.stable line s.report s.submitted h, rfl, rfl, fun hs => hs⟩, rfl⟩

/-- A line that arrives is kept or not, and the frame allows for both. -/
theorem Idle.arrive (h : F.on s) : Idle F s s.arrive := by
  have lines : ∀ (ls : List Bytes) (t : Sys), Idle F s t →
      Idle F s (ls.foldl (fun s line => s.format line) t) := by
    intro ls
    induction ls with
    | nil => exact fun t ht => ht
    | cons line ls ih => exact fun t ht => ih _ (ht.trans (.format ht.frame line))
  unfold Sys.arrive
  split
  · exact .refl h
  · exact lines _ _ ⟨⟨h, rfl, rfl, fun hs => hs⟩, rfl⟩

/-! ## Quiet commands -/

section Quiet

variable {α β : Type} {c : Cmd Sys α}

theorem Quiet.pure (a : α) : Quiet (pure a : Cmd Sys α) := fun _ _ h => .refl h

/-- Commands that leave flash and store alone may follow each other. -/
theorem Quiet.bind {f : α → Cmd Sys β} (hc : Quiet c) (hf : ∀ a, Quiet (f a)) :
    Quiet (c >>= f) := by
  intro F s h
  rw [wp_bind]
  refine wp_mono (hc F s h) ?_ fun t ht => ht
  intro a t ht
  exact wp_mono (hf a F t ht.frame) (fun b u hu => ht.trans hu) fun u hu => ht.trans hu

/-- Lines arrive while the code waits. -/
theorem quiet_await : Quiet await := fun _ _ h => .arrive h

/-- A change of the display ring, or of what is to come from outside. -/
theorem quiet_modify {f : Sys → Sys}
    (hf : ∀ s, (f s).report = s.report ∧ (f s).submitted = s.submitted ∧ (f s).store = s.store ∧
      (f s).erased = s.erased ∧ (f s).flash = s.flash ∧ (f s).outcomes = s.outcomes) :
    Quiet (modify f) := by
  intro F s h
  obtain ⟨hreport, hsubmitted, hstore, herased, hflash, houtcomes⟩ := hf s
  refine ⟨⟨?_, hstore, herased, ?_⟩, hflash⟩
  · unfold Frame.on
    rw [hreport, hsubmitted]
    exact h
  · unfold Sys.Strict
    rw [houtcomes]
    exact fun hs => hs

/-- A line is formatted in the report's buffer. -/
theorem quiet_format (line : Bytes) : Quiet (modify (Sys.format line)) :=
  fun _ _ h => .format h line

/-- Reading the state and writing back a part that does not matter. -/
theorem quiet_set {f : Sys → Cmd Sys β} {g : Sys → Sys}
    (hg : ∀ s, (g s).report = s.report ∧ (g s).submitted = s.submitted ∧ (g s).store = s.store ∧
      (g s).erased = s.erased ∧ (g s).flash = s.flash ∧ (g s).outcomes = s.outcomes)
    (hf : ∀ s, Quiet (f s)) :
    Quiet (do let s ← get; set (g s); f s) := by
  intro F s h
  rw [wp_bind, wp_get, wp_bind, wp_set]
  have hidle : Idle F s (g s) := quiet_modify hg F s h
  exact wp_mono (hf s F (g s) hidle.frame) (fun a t ht => hidle.trans ht) fun t ht => hidle.trans ht

/-- Flushing the USB queue leaves flash and store alone. -/
theorem quiet_reportFlushUsb : Quiet reportFlushUsb := by
  apply quiet_await.bind
  intro _
  refine quiet_set (fun s => ⟨rfl, rfl, rfl, rfl, rfl, rfl⟩) ?_
  intro s
  split
  · exact quiet_await.bind fun _ => quiet_modify fun s => ⟨rfl, rfl, rfl, rfl, rfl, rfl⟩
  · apply quiet_await.bind
    intro _
    refine quiet_set (fun s => ⟨rfl, rfl, rfl, rfl, rfl, rfl⟩) ?_
    intro s
    exact quiet_await.bind fun _ => quiet_modify fun s => ⟨rfl, rfl, rfl, rfl, rfl, rfl⟩

/-- A line of the report is queued, not programmed. -/
theorem quiet_reportPrintf (line : Bytes) : Quiet (reportPrintf line) := by
  refine quiet_await.bind fun _ => (quiet_format line).bind ?_
  intro _
  split
  · exact quiet_reportFlushUsb
  · exact Quiet.pure _

/-- A deferred line is queued, not programmed. -/
theorem quiet_reportDeferPrintf (line : Bytes) : Quiet (reportDeferPrintf line) :=
  quiet_await.bind fun _ => quiet_format line

/-- The next operation of the flash has an outcome; if all to come are strict, this one is. -/
theorem wp_nextOutcome (h : F.on s) :
    wp nextOutcome (fun outcome t => Idle F s t ∧ (s.Strict → outcome.Strict))
      (fun t => Idle F s t) s := by
  unfold nextOutcome
  rw [wp_bind]
  refine wp_mono (quiet_await F s h) ?_ fun t ht => ht
  intro _ t ht
  rw [wp_bind, wp_get]
  split
  · exact ht
  · rename_i outcome rest houtcomes
    refine ⟨ht.trans ⟨⟨ht.frame, rfl, rfl, ?_⟩, rfl⟩, ?_⟩
    · intro hs o ho
      exact hs o (by rw [houtcomes]; exact List.mem_cons_of_mem _ ho)
    · intro hs
      exact ht.strict hs outcome (by rw [houtcomes]; exact List.mem_cons_self)

end Quiet

/-! ## Erasing -/

/-- Between `s` and `t` pages were erased or damaged. -/
structure Wears (F : Frame) (s t : Sys) : Prop extends Beside F s t where
  worn : Worn s.flash t.flash

/-- Pages are worn whatever was queued before. -/
theorem Wears.after (h : Idle F s t) (h' : Wears F t u) : Wears F s u :=
  ⟨h.toBeside.trans h'.toBeside, h.flash ▸ h'.worn⟩

/-- Pages may be worn in two stretches. -/
theorem Wears.trans (h : Wears F s t) (h' : Wears F t u) : Wears F s u :=
  ⟨h.toBeside.trans h'.toBeside, h.worn.trans h'.worn⟩

/-- Where nothing happened nothing is worn. -/
theorem Idle.wears (h : Idle F s t) : Wears F s t := ⟨h.toBeside, h.flash ▸ Worn.refl _⟩

/-- A sector changed by an operation that damages pages at the most. -/
theorem worn_changeSector (k : ℕ) {f : ℕ → LogPage → LogPage}
    (hf : ∀ i p, f i p = p ∨ ¬ Valid i (f i p)) (flash : Flash) :
    Worn flash (changeSector k f flash) := by
  intro i
  unfold changeSector
  split
  · exact hf i (flash i)
  · exact .inl rfl

/-- The pages from `from` on are erased once a sector more is. -/
theorem wp_eraseSector (k : ℕ) (h : F.on s) :
    wp (eraseSector k)
      (fun ok t => Wears F s t ∧
        (ok = true → t.flash = changeSector k (fun _ _ => .erased) s.flash))
      (fun t => Wears F s t) s := by
  unfold eraseSector
  simp only
  rw [wp_bind]
  refine wp_mono (wp_nextOutcome h) ?_ fun t ht => ht.wears
  rintro outcome t ⟨ht, -⟩
  have damaged (damage : Damage) :
      Wears F s { t with flash := changeSector k damage.page t.flash } :=
    Wears.after ht ⟨⟨ht.frame, rfl, rfl, fun hs => hs⟩,
      worn_changeSector k damage.detected t.flash⟩
  cases outcome with
  | done =>
    refine ⟨Wears.after ht ⟨⟨ht.frame, rfl, rfl, fun hs => hs⟩, ?_⟩, fun _ => ?_⟩
    · exact worn_changeSector k (fun _ _ => .inr not_valid_erased) t.flash
    · show changeSector k (fun _ _ => LogPage.erased) t.flash = _
      rw [ht.flash]
  | fails damage => exact ⟨damaged damage, nofun⟩
  | corrupts damage => exact ⟨damaged damage, nofun⟩
  | cut damage => exact damaged damage

/-- The sectors from `k` on are erased one after the other. -/
theorem wp_eraseSectors (n k : ℕ) (h : F.on s) :
    wp (eraseSectors n k)
      (fun ok t => Wears F s t ∧ (ok = true → ∀ i, t.flash i =
        if k ≤ i / 16 ∧ i / 16 < k + n then .erased else s.flash i))
      (fun t => Wears F s t) s := by
  induction n generalizing k s with
  | zero =>
    refine ⟨(Idle.refl h).wears, ?_⟩
    intro _ i
    rw [if_neg (by omega)]
  | succ n ih =>
    unfold eraseSectors
    rw [wp_bind]
    refine wp_mono (wp_eraseSector k h) ?_ fun t ht => ht
    rintro ok t ⟨hwears, hok⟩
    cases ok with
    | false =>
      simp only [Bool.not_false, if_true]
      rw [wp_bind]
      refine wp_mono (quiet_reportPrintf _ F t hwears.frame) ?_ ?_
      · exact fun _ u hu => ⟨hwears.trans hu.wears, nofun⟩
      · exact fun u hu => hwears.trans hu.wears
    | true =>
      have hrest (u : Sys) (hu : Idle F t u) :
          wp (eraseSectors n (k + 1))
            (fun ok v => Wears F s v ∧ (ok = true → ∀ i, v.flash i =
              if k ≤ i / 16 ∧ i / 16 < k + (n + 1) then .erased else s.flash i))
            (fun v => Wears F s v) u := by
        refine wp_mono (ih (k + 1) hu.frame) ?_ fun v hv => hwears.trans (Wears.after hu hv)
        rintro ok v ⟨hv, herased⟩
        refine ⟨hwears.trans (Wears.after hu hv), ?_⟩
        intro hall i
        rw [herased hall i, hu.flash, hok rfl]
        unfold changeSector
        rw [show flashSectorSize / reportPageBytes = 16 from rfl]
        by_cases hlater : k + 1 ≤ i / 16 ∧ i / 16 < k + 1 + n
        · rw [if_pos hlater, if_pos (by omega)]
        · rw [if_neg hlater]
          by_cases hthis : i / 16 = k
          · rw [if_pos hthis, if_pos (by omega)]
          · rw [if_neg hthis, if_neg (by omega)]
      simp only [Bool.not_true, Bool.false_eq_true, if_false]
      rw [wp_bind]
      refine wp_mono (quiet_await F t hwears.frame) ?_ fun u hu => hwears.trans hu.wears
      intro _ u hu
      -- a line of progress after every sixteenth sector
      split
      · rw [wp_bind]
        refine wp_mono (quiet_reportPrintf _ F u hu.frame) ?_ fun v hv => hwears.trans (hu.trans hv).wears
        exact fun _ v hv => hrest v (hu.trans hv)
      · exact hrest u hu

/-- **`report_flash_erase`** wears the pages, and has erased them all when it succeeds. -/
theorem wp_reportFlashErase (h : F.on s) :
    wp reportFlashErase
      (fun ok t => F.on t ∧ t.store = s.store ∧ (s.Strict → t.Strict) ∧
        (ok = true → t.erased = true ∧ ∀ i, i < pageCount → t.flash i = .erased) ∧
        (ok = false → Wears F s t))
      (fun t => Wears F s t) s := by
  unfold reportFlashErase
  rw [wp_bind]
  refine wp_mono (quiet_reportPrintf _ F s h) ?_ fun t ht => ht.wears
  intro _ t ht
  rw [wp_bind]
  refine wp_mono (wp_eraseSectors sectors 0 ht.frame) ?_ fun u hu => Wears.after ht hu
  rintro ok u ⟨hwears, hok⟩
  have hall := Wears.after ht hwears
  cases ok with
  | false => exact ⟨hall.frame, hall.store, hall.strict, nofun, fun _ => hall⟩
  | true =>
    refine ⟨hall.frame, hall.store, hall.strict, fun _ => ⟨rfl, ?_⟩, nofun⟩
    intro i hi
    have hcount : pageCount = 2048 := rfl
    have hsectors : sectors = 128 := rfl
    show u.flash i = _
    rw [hok rfl i, if_pos (by omega)]

/-! ## Programming -/

/-- What a program of `page` at index `i` can leave there: the page, if it can be `whole`; a
page that fails its check; or what was there. -/
structure Programs (F : Frame) (whole : Prop) (i : ℕ) (page : LogPage) (s t : Sys) : Prop
    extends Beside F s t where
  flash : t.flash = s.flash ∨ ∃ image, t.flash = Function.update s.flash i image ∧
    ((whole ∧ image = page) ∨ ¬ Valid i image)

/-- A page is programmed whatever was queued before. -/
theorem Programs.after {whole : Prop} {i : ℕ} {page : LogPage} (h : Idle F s t)
    (h' : Programs F whole i page t u) : Programs F whole i page s u := by
  refine ⟨h.toBeside.trans h'.toBeside, ?_⟩
  rw [← h.flash]
  exact h'.flash

/-- A page is programmed whatever is queued afterwards. -/
theorem Programs.idle {whole : Prop} {i : ℕ} {page : LogPage} (h : Programs F whole i page s t)
    (h' : Idle F t u) : Programs F whole i page s u := by
  refine ⟨h.toBeside.trans h'.toBeside, ?_⟩
  rw [h'.flash]
  exact h.flash

/-- A weaker condition on the whole page says less. -/
theorem Programs.imp {whole whole' : Prop} {i : ℕ} {page : LogPage} (h : Programs F whole i page s t)
    (himp : whole → whole') : Programs F whole' i page s t := by
  refine ⟨h.toBeside, ?_⟩
  rcases h.flash with hflash | ⟨image, hflash, ⟨hwhole, himage⟩ | hinvalid⟩
  · exact .inl hflash
  · exact .inr ⟨image, hflash, .inl ⟨himp hwhole, himage⟩⟩
  · exact .inr ⟨image, hflash, .inr hinvalid⟩

/-- Where nothing happened what was there is left. -/
theorem Idle.programs {whole : Prop} {i : ℕ} {page : LogPage} (h : Idle F s t) :
    Programs F whole i page s t :=
  ⟨h.toBeside, .inl h.flash⟩

/-- **`report_flash_program`** on an erased page. A strict one that fails has not stored the
page. -/
theorem wp_reportFlashProgram {i : ℕ} {page : LogPage} (hi : i < pageCount)
    (herased : s.flash i = .erased) (h : F.on s) :
    wp (reportFlashProgram (i * reportPageBytes) page)
      (fun ok t => Programs F (ok = true ∨ ¬ s.Strict) i page s t)
      (fun t => Programs F True i page s t) s := by
  have hcount : pageCount = 2048 := rfl
  have hbytes : reportPageBytes = 256 := rfl
  have hregion : reportFlashBytes = 524288 := rfl
  unfold reportFlashProgram
  rw [hbytes, hregion, if_neg (by omega), Nat.mul_div_cancel _ (by decide)]
  simp only
  rw [wp_bind]
  refine wp_mono (wp_nextOutcome h) ?_ fun t ht => ht.programs
  rintro outcome t ⟨ht, hstrict⟩
  have programmed {whole : Prop} (image : LogPage)
      (himage : (whole ∧ image = page) ∨ ¬ Valid i image) :
      Programs F whole i page s { t with
        flash := programPage i image t.flash
        operations := .program (i * 256) :: t.operations } := by
    refine Programs.after ht ⟨⟨ht.frame, rfl, rfl, fun hs => hs⟩, .inr ⟨image, ?_, himage⟩⟩
    unfold programPage
    rw [ht.flash, herased, erased_land]
  cases outcome with
  | done => exact programmed page (.inl ⟨.inl rfl, rfl⟩)
  | fails damage =>
    apply programmed _
    by_cases hs : s.Strict
    · exact .inr (hstrict hs i page)
    · exact (damage.detected i page).imp_left fun heq => ⟨.inr hs, heq⟩
  | corrupts damage =>
    exact programmed _ ((damage.detected i page).imp_left fun heq => ⟨.inl rfl, heq⟩)
  | cut damage => exact programmed _ ((damage.detected i page).imp_left fun heq => ⟨True.intro, heq⟩)

/-- **`write_page`** at an erased page, or past the end of the journal. -/
theorem wp_writePage {magic : UInt32} {data : Bytes}
    (herased : s.store.next < pageCount → s.flash s.store.next = .erased) (h : F.on s) :
    wp (writePage magic data)
      (fun ok t =>
        if ok then
          s.store.next < pageCount ∧ F.on t ∧ t.erased = s.erased ∧ (s.Strict → t.Strict) ∧
            t.flash = Function.update s.flash s.store.next (makePage magic s.store.next data) ∧
            t.store = { s.store with next := s.store.next + 1 }
        else Beside F s t ∧ (t.flash = s.flash ∨ s.store.next < pageCount ∧
          Programs F (¬ s.Strict) s.store.next (makePage magic s.store.next data) s t))
      (fun t => s.store.next < pageCount ∧
        Programs F True s.store.next (makePage magic s.store.next data) s t) s := by
  unfold writePage
  rw [wp_bind, wp_get]
  by_cases hfull : pageCount ≤ s.store.next ∨ reportPageData < data.length
  · rw [if_pos hfull]
    exact ⟨(Idle.refl h).toBeside, .inl rfl⟩
  rw [if_neg hfull]
  rw [not_or, Nat.not_le, Nat.not_lt] at hfull
  have hroom := hfull.1
  simp only
  rw [wp_bind]
  refine wp_mono (wp_reportFlashProgram hroom (herased hroom) h) ?_ fun t ht => ⟨hroom, ht⟩
  intro ok t ht
  cases ok with
  | false =>
    refine ⟨ht.toBeside, .inr ⟨hroom, ht.imp ?_⟩⟩
    rintro (hok | hstrict)
    · cases hok
    · exact hstrict
  | true =>
    have hdiv : s.store.next * reportPageBytes / reportPageBytes = s.store.next :=
      Nat.mul_div_cancel _ (by decide)
    simp only [Bool.not_true, Bool.false_eq_true, if_false]
    unfold reportFlashRead
    rw [hdiv, wp_bind, wp_bind]
    refine wp_mono (quiet_await F t ht.frame) ?_
      fun u hu => ⟨hroom, (ht.idle hu).imp fun _ => True.intro⟩
    intro _ u hu
    rw [wp_bind, wp_get, wp_pure]
    have hprograms := ht.idle hu
    by_cases hsame : makePage magic s.store.next data = u.flash s.store.next
    · rw [if_neg (not_not.mpr hsame)]
      have hstore := hprograms.store
      have hnext : (u.store.next + 1) % 4096 = s.store.next + 1 := by
        have hcount : pageCount = 2048 := rfl
        rw [hstore]
        exact Nat.mod_eq_of_lt (by omega)
      refine ⟨hroom, hprograms.frame, hprograms.erased, hprograms.strict, ?_, ?_⟩
      · -- the page that was read back is the one to be written
        show u.flash = _
        rcases hprograms.flash with hflash | ⟨image, hflash, -⟩
        · rw [hsame, hflash, Function.update_eq_self]
        · rw [hsame, hflash, Function.update_self]
      · show ({ next := _, active := u.store.active } : Store) = _
        rw [hnext, hstore]
    · rw [if_pos hsame]
      -- a page that differs was not stored as it should be
      refine ⟨hprograms.toBeside, ?_⟩
      rcases hprograms.flash with hflash | ⟨image, hflash, ⟨-, himage⟩ | hinvalid⟩
      · exact .inl hflash
      · exact absurd (by rw [hflash, Function.update_self, himage]) hsame
      · exact .inr ⟨hroom, hprograms.toBeside, .inr ⟨image, hflash, .inr hinvalid⟩⟩

/-! ## The store -/

variable {pieces : List Bytes} {data : Bytes}

/-- Replay finds `pieces` and a beginning of `data` behind them, and no end page. -/
def Holds (pieces : List Bytes) (data : Bytes) (flash : Flash) : Prop :=
  ∃ more, savedRun flash = some (pieces ++ more, false) ∧ more.flatten <+: data

/-- A log without an end holds its own pieces, and nothing of what may come behind. -/
theorem Log.holds {flash : Flash} {n : ℕ} (h : Log pieces flash n) (data : Bytes) :
    Holds pieces data flash :=
  ⟨[], by rw [List.append_nil, savedRun_log h], List.nil_prefix⟩

/-- A data page that was to be programmed behind a run. -/
theorem Programs.holds {whole : Prop} {n : ℕ} {piece : Bytes}
    (h : Programs F whole n (makePage dataMagic n piece) s t) (hlog : Log pieces s.flash n)
    (hroom : n < pageCount) (hne : piece ≠ []) (hlen : piece.length ≤ reportPageData)
    (hpre : piece <+: data) : Holds pieces data t.flash := by
  rcases h.flash with hflash | ⟨image, hflash, ⟨-, rfl⟩ | hinvalid⟩
  · rw [hflash]
    exact hlog.holds data
  · rw [hflash]
    exact ⟨[piece], savedRun_log (hlog.dataPage hroom hne hlen), by simpa using hpre⟩
  · rw [hflash]
    exact ⟨[], by rw [List.append_nil, savedRun_damagedPage hlog hinvalid], List.nil_prefix⟩

/-- An end page that was to be programmed behind a run. -/
theorem Programs.ends {whole : Prop} {n : ℕ} (h : Programs F whole n (makePage endMagic n []) s t)
    (hlog : Log pieces s.flash n) (hroom : n < pageCount) :
    ∃ complete, savedRun t.flash = some (pieces, complete) ∧ (complete = true → whole) := by
  rcases h.flash with hflash | ⟨image, hflash, ⟨hwhole, rfl⟩ | hinvalid⟩
  · exact ⟨false, by rw [hflash, savedRun_log hlog], nofun⟩
  · exact ⟨true, by rw [hflash, savedRun_endPage hlog hroom], fun _ => hwhole⟩
  · exact ⟨false, by rw [hflash, savedRun_damagedPage hlog hinvalid], nofun⟩

/-- Nothing but a start page can be on the flash. -/
def Unstarted (flash : Flash) : Prop := savedRun flash = none ∨ savedRun flash = some ([], false)

/-- An erased flash holds no start page. -/
theorem unstarted_of_erased {flash : Flash} (herased : ∀ i, i < pageCount → flash i = .erased) :
    Unstarted flash := by
  left
  rw [savedRun, if_neg]
  rintro ⟨hvalid, -⟩
  rw [herased 0 (by decide)] at hvalid
  exact not_valid_erased hvalid

/-- A start page that was to be programmed on an erased flash. -/
theorem Programs.starts {whole : Prop} (h : Programs F whole 0 (makePage startMagic 0 []) s t)
    (herased : ∀ i, i < pageCount → s.flash i = .erased) : Unstarted t.flash := by
  rcases h.flash with hflash | ⟨image, hflash, ⟨-, rfl⟩ | hinvalid⟩
  · rw [hflash]
    exact unstarted_of_erased herased
  · right
    rw [hflash]
    exact savedRun_log (log_start herased)
  · left
    rw [hflash, savedRun, if_neg]
    rintro ⟨hvalid, -⟩
    rw [Function.update_self] at hvalid
    exact hinvalid hvalid

/-- **`report_store_begin`** starts an empty run, or leaves worn pages of the old one behind,
or an erased flash with at most a start page. -/
theorem wp_reportStoreBegin (h : F.on s) :
    wp reportStoreBegin
      (fun ok t => F.on t ∧ t.store.active = ok ∧ (s.Strict → t.Strict) ∧
        if ok then t.erased = true ∧ Log [] t.flash t.store.next
        else (t.erased = s.erased ∧ Worn s.flash t.flash) ∨ Unstarted t.flash)
      (fun t => F.on t ∧
        ((t.erased = s.erased ∧ Worn s.flash t.flash) ∨ Unstarted t.flash)) s := by
  unfold reportStoreBegin
  rw [wp_bind, wp_modify, wp_bind]
  refine wp_mono (wp_reportFlashErase (s := { s with store := { active := false, next := 0 } }) h) ?_ ?_
  swap
  · intro t ht
    exact ⟨ht.frame, .inl ⟨ht.erased, ht.worn⟩⟩
  rintro ok t ⟨hframe, hstore, hstrict, hok, hfail⟩
  have hinactive : t.store.active = false := by rw [hstore]
  have hnext : t.store.next = 0 := by rw [hstore]
  cases ok with
  | false =>
    -- the erase has failed, and the old run is still there or worn
    have hwears := hfail rfl
    exact ⟨hframe, hinactive, hstrict, .inl ⟨hwears.erased, hwears.worn⟩⟩
  | true =>
    obtain ⟨hdone, herased⟩ := hok rfl
    simp only [Bool.not_true, Bool.false_eq_true, if_false]
    rw [wp_bind]
    -- the journal is empty, and its first page is written
    have hpage := @wp_writePage F t startMagic []
      (fun hroom => herased t.store.next hroom) hframe
    rw [hnext] at hpage
    refine wp_mono hpage ?_ ?_
    swap
    · rintro u ⟨-, hu⟩
      exact ⟨hu.frame, .inr (hu.starts herased)⟩
    intro written u hu
    cases written with
    | false =>
      obtain ⟨hbeside, hflash⟩ := hu
      refine ⟨hbeside.frame, by rw [hbeside.store, hinactive], fun hs => hbeside.strict (hstrict hs),
        .inr ?_⟩
      rcases hflash with hflash | ⟨-, hprograms⟩
      · rw [hflash]
        exact unstarted_of_erased herased
      · exact hprograms.starts herased
    | true =>
      obtain ⟨-, hon, hnote, hstrict', hflash, hstore'⟩ := hu
      refine ⟨hon, rfl, fun hs => hstrict' (hstrict hs), hnote.trans hdone, ?_⟩
      show Log [] u.flash u.store.next
      rw [hflash, hstore']
      exact log_start herased

/-- What an append leaves of the rest of the state. -/
structure Appends (F : Frame) (s t : Sys) : Prop where
  frame : F.on t
  erased : t.erased = s.erased
  strict : s.Strict → t.Strict

/-- Where lines were only queued nothing was appended. -/
theorem Beside.appends (h : Beside F s t) : Appends F s t := ⟨h.frame, h.erased, h.strict⟩

/-- **The page loop of `report_store_append`** adds the text to the run; where it fails or is
cut off, a beginning of the text is there. -/
theorem wp_appendPages {n : ℕ} (hlen : data.length ≤ n) (hlog : Log pieces s.flash s.store.next)
    (h : F.on s) :
    wp (appendPages data)
      (fun ok t => Appends F s t ∧ Holds pieces data t.flash ∧
        if ok then t.store.active = s.store.active ∧
          ∃ more, Log (pieces ++ more) t.flash t.store.next ∧ more.flatten = data
        else t.store.active = false)
      (fun t => Appends F s t ∧ Holds pieces data t.flash) s := by
  have hsame : Appends F s s := (Idle.refl h).toBeside.appends
  induction n generalizing data pieces s with
  | zero =>
    have hnil : data = [] := List.length_eq_zero_iff.mp (by omega)
    subst hnil
    unfold appendPages
    rw [dif_pos rfl]
    exact ⟨hsame, hlog.holds _, rfl, [], by rwa [List.append_nil], rfl⟩
  | succ n ih =>
    unfold appendPages
    by_cases hnil : data = []
    · subst hnil
      rw [dif_pos rfl]
      exact ⟨hsame, hlog.holds _, rfl, [], by rwa [List.append_nil], rfl⟩
    rw [dif_neg hnil, wp_bind, wp_get]
    by_cases hfull : pageCount - 1 ≤ s.store.next
    · rw [if_pos hfull]
      exact ⟨⟨h, rfl, fun hs => hs⟩, hlog.holds _, rfl⟩
    rw [if_neg hfull, wp_bind]
    have hmax : reportPageData = 244 := rfl
    have hpiece : data.take reportPageData ≠ [] := by
      intro htake
      rcases List.take_eq_nil_iff.mp htake with hzero | hdata
      · exact absurd hzero (by decide)
      · exact hnil hdata
    have hpieceLen : (data.take reportPageData).length ≤ reportPageData := List.length_take_le _ _
    have hpiecePrefix : data.take reportPageData <+: data := List.take_prefix _ _
    have hpage := @wp_writePage F s dataMagic (data.take reportPageData)
      (fun hroom => hlog.erased s.store.next (Nat.le_refl _) hroom) h
    refine wp_mono hpage ?_ ?_
    swap
    · rintro t ⟨hroom, ht⟩
      exact ⟨ht.toBeside.appends, ht.holds hlog hroom hpiece hpieceLen hpiecePrefix⟩
    intro written t ht
    cases written with
    | false =>
      obtain ⟨hbeside, hflash⟩ := ht
      refine ⟨⟨hbeside.frame, hbeside.erased, hbeside.strict⟩, ?_, rfl⟩
      show Holds pieces data t.flash
      rcases hflash with hflash | ⟨hroom, hprograms⟩
      · rw [hflash]
        exact hlog.holds _
      · exact hprograms.holds hlog hroom hpiece hpieceLen hpiecePrefix
    | true =>
      obtain ⟨hroom, hon, hnote, hstrict, hflash, hstore⟩ := ht
      have hlog' : Log (pieces ++ [data.take reportPageData]) t.flash t.store.next := by
        rw [hflash, hstore]
        exact hlog.dataPage hroom hpiece hpieceLen
      have hrest : (data.drop reportPageData).length ≤ n := by
        rw [List.length_drop]
        omega
      -- the pages written so far, and the rest of the text
      have hholds {flash : Flash}
          (hr : Holds (pieces ++ [data.take reportPageData]) (data.drop reportPageData) flash) :
          Holds pieces data flash := by
        obtain ⟨more, hsaved, hmore⟩ := hr
        refine ⟨data.take reportPageData :: more, ?_, ?_⟩
        · rw [hsaved, List.append_assoc]
          rfl
        · rw [List.flatten_cons]
          conv_rhs => rw [← List.take_append_drop reportPageData data]
          exact (List.prefix_append_right_inj _).mpr hmore
      have happends {u : Sys} (hu : Appends F t u) : Appends F s u :=
        ⟨hu.frame, hu.erased.trans hnote, fun hs => hu.strict (hstrict hs)⟩
      simp only [Bool.not_true, Bool.false_eq_true, if_false]
      refine wp_mono (ih hrest hlog' hon (Idle.refl hon).toBeside.appends) ?_ ?_
      · rintro ok u ⟨hu, hmore, hok⟩
        refine ⟨happends hu, hholds hmore, ?_⟩
        cases ok with
        | false => exact hok
        | true =>
          obtain ⟨hactive, more, hlog'', hflat⟩ := hok
          refine ⟨hactive.trans (by rw [hstore]), data.take reportPageData :: more, ?_, ?_⟩
          · rw [List.append_assoc] at hlog''
            exact hlog''
          · rw [List.flatten_cons, hflat, List.take_append_drop]
      · rintro u ⟨hu, hmore⟩
        exact ⟨happends hu, hholds hmore⟩

/-- **`report_store_finish`** makes a run complete, or leaves it as it is. A strict failure
leaves it as it is. -/
theorem wp_reportStoreFinish (hactive : s.store.active = true)
    (hlog : Log pieces s.flash s.store.next) (h : F.on s) :
    wp reportStoreFinish
      (fun ok t => Appends F s t ∧ t.store.active = false ∧
        ∃ complete, savedRun t.flash = some (pieces, complete) ∧ (ok = true → complete = true) ∧
          (complete = true → ok = true ∨ ¬ s.Strict))
      (fun t => Appends F s t ∧ ∃ complete, savedRun t.flash = some (pieces, complete)) s := by
  unfold reportStoreFinish
  rw [wp_bind, wp_get, hactive]
  simp only [Bool.not_true, Bool.false_eq_true, if_false]
  rw [wp_bind]
  have hpage := @wp_writePage F s endMagic []
    (fun hroom => hlog.erased s.store.next (Nat.le_refl _) hroom) h
  refine wp_mono hpage ?_ ?_
  swap
  · rintro t ⟨hroom, ht⟩
    obtain ⟨complete, hsaved, -⟩ := ht.ends hlog hroom
    exact ⟨ht.toBeside.appends, complete, hsaved⟩
  intro written t ht
  cases written with
  | false =>
    obtain ⟨hbeside, hflash⟩ := ht
    have hends : ∃ complete, savedRun t.flash = some (pieces, complete) ∧
        (complete = true → ¬ s.Strict) := by
      rcases hflash with hflash | ⟨hroom, hprograms⟩
      · exact ⟨false, by rw [hflash, savedRun_log hlog], nofun⟩
      · exact hprograms.ends hlog hroom
    obtain ⟨complete, hsaved, hstrict⟩ := hends
    exact ⟨⟨hbeside.frame, hbeside.erased, hbeside.strict⟩, rfl, complete, hsaved, nofun,
      fun hc => .inr (hstrict hc)⟩
  | true =>
    obtain ⟨hroom, hon, hnote, hstrict, hflash, -⟩ := ht
    refine ⟨⟨hon, hnote, hstrict⟩, rfl, true, ?_, fun _ => rfl, fun _ => .inl rfl⟩
    show savedRun t.flash = _
    rw [hflash, savedRun_endPage hlog hroom]

end ReportStore
