/-
# What replay shows of a report

Lines are submitted from the main thread and from radio callbacks; a report takes them to
the flash between `report_begin` and `report_finish`.  `Truthful` is the promise at every
moment: once the journal is erased, replay shows a beginning of the concatenation of the
lines submitted, and calls it complete only when it is all of them.

The account behind it (`account`) is kept by every line: the text drained from `pending` so
far, followed by `pending`, is a beginning of what was submitted, and all of it as long as no
failure is noted.  An active store has written exactly the drained text (`Between`).
-/
import GettingThere.StoreCommands

namespace ReportStore

open CrashLogic TransferProtocol

/-! ## The promise -/

/-- What replay shows of the submitted lines, for a given outcome of replay. Complete text is
all there is: the report is closed, no line was too long, and if no failed program can have
stored its page, nothing has failed. -/
def Tells (strict : Prop) (found : Option (List Bytes × Bool)) (r : Report) (lines : List Bytes) :
    Prop :=
  match found with
  | none => True
  | some (pieces, complete) =>
    pieces.flatten <+: lines.flatten ∧
      (complete = true → pieces.flatten = lines.flatten ∧ r.closed = true ∧
        (∀ line ∈ lines, line.length < lineSize) ∧ (strict → r.failed = false))

/-- **The promise**: what replay shows once the journal is erased. -/
def Truthful (strict : Prop) (s : Sys) : Prop :=
  s.erased = true → Tells strict (savedRun s.flash) s.report s.submitted

/-- The report is complete on the flash. -/
def Whole (s : Sys) : Prop :=
  ∃ pieces, savedRun s.flash = some (pieces, true) ∧ pieces.flatten = s.submitted.flatten

/-! ## Accounts -/

/-- What a line does to the report. -/
theorem keep_cases (line : Bytes) (r : Report) :
    (r.closed = true ∧ r.keep line = r) ∨
    (r.closed = false ∧ r.keep line = { r with failed := true }) ∨
    (r.closed = false ∧ r.failed = true ∧ r.keep line = r) ∨
    (r.closed = false ∧ r.failed = false ∧ line.length < lineSize ∧
      r.keep line = { r with pending := r.pending ++ line }) := by
  unfold Report.keep
  cases hclosed : r.closed with
  | true => exact .inl ⟨rfl, by rw [if_pos rfl]⟩
  | false =>
    right
    rw [if_neg (by decide)]
    by_cases hlong : lineSize ≤ line.length ∨
        reportCapacity < r.pending.length + (lineText line).length
    · exact .inl ⟨rfl, by rw [if_pos hlong]⟩
    right
    rw [if_neg hlong]
    rw [not_or, Nat.not_le] at hlong
    cases hfailed : r.failed with
    | true => exact .inl ⟨rfl, rfl, by rw [if_pos rfl]⟩
    | false =>
      refine .inr ⟨rfl, rfl, hlong.1, ?_⟩
      have htext : lineText line = line := by
        have hsize : lineSize = 512 := rfl
        exact List.take_of_length_le (by omega)
      rw [if_neg (by decide), htext]

/-- The text drained so far and `pending` make up the submitted lines, as long as nothing
has failed; every line is short then. -/
def Accounts (drained : Bytes) (r : Report) (lines : List Bytes) : Prop :=
  drained ++ r.pending <+: lines.flatten ∧
    (r.failed = false → drained ++ r.pending = lines.flatten ∧
      ∀ line ∈ lines, line.length < lineSize)

/-- The account of a report that is `active` and `closed` or not. -/
def account (drained : Bytes) (active closed : Bool) : Frame where
  holds r lines := Accounts drained r lines ∧ r.active = active ∧ r.closed = closed
  stable := by
    rintro line r lines ⟨⟨hpre, hall⟩, hactive, rfl⟩
    rcases keep_cases line r with ⟨hc, hk⟩ | ⟨hc, hk⟩ | ⟨hc, hf, hk⟩ | ⟨hc, hf, hlen, hk⟩
    · rw [hk, if_pos hc]
      exact ⟨⟨hpre, hall⟩, hactive, rfl⟩
    · rw [hk, if_neg (Bool.eq_false_iff.mp hc), Accounts, List.flatten_append]
      exact ⟨⟨hpre.trans (List.prefix_append _ _), nofun⟩, hactive, rfl⟩
    · rw [hk, if_neg (Bool.eq_false_iff.mp hc), Accounts, List.flatten_append, hf]
      exact ⟨⟨hpre.trans (List.prefix_append _ _), nofun⟩, hactive, rfl⟩
    · obtain ⟨hequal, hshort⟩ := hall hf
      have htext : drained ++ (r.pending ++ line) = (lines ++ [line]).flatten := by
        rw [← List.append_assoc, hequal]
        simp
      rw [hk, if_neg (Bool.eq_false_iff.mp hc)]
      refine ⟨⟨?_, fun _ => ⟨htext, ?_⟩⟩, hactive, rfl⟩
      · show drained ++ (r.pending ++ line) <+: _
        rw [htext]
      · intro l hl
        rcases List.mem_append.mp hl with hl | hl
        · exact hshort l hl
        · rw [List.mem_singleton.mp hl]
          exact hlen

/-- Replay emits a beginning of the submitted lines, and the run is not complete. -/
def Partly (found : Option (List Bytes × Bool)) (lines : List Bytes) : Prop :=
  ∀ pieces complete, found = some (pieces, complete) →
    complete = false ∧ pieces.flatten <+: lines.flatten

/-- The same once the journal is erased, as a frame. -/
def partly (found : Option (List Bytes × Bool)) (erased : Bool) : Frame where
  holds _ lines := erased = true → Partly found lines
  stable := by
    intro line r lines h herased pieces complete hfound
    obtain ⟨hopen, hpre⟩ := h herased pieces complete hfound
    refine ⟨hopen, ?_⟩
    split
    · exact hpre
    · rw [List.flatten_append]
      exact hpre.trans (List.prefix_append _ _)

/-- Nothing is pending once the report is closed. -/
def settled : Frame where
  holds r _ := r.closed = true → r.pending = []
  stable := by
    intro line r lines h
    rcases keep_cases line r with ⟨-, hk⟩ | ⟨hc, hk⟩ | ⟨hc, -, hk⟩ | ⟨hc, -, -, hk⟩
    · rw [hk]
      exact h
    all_goals
      rw [hk]
      intro hclosed
      exact absurd (hc.symm.trans hclosed) Bool.false_ne_true

/-- A closed report does not change, nor do the lines that count. -/
def fixed (r : Report) (lines : List Bytes) (hclosed : r.closed = true) : Frame where
  holds r' lines' := r' = r ∧ lines' = lines
  stable := by
    rintro line r' lines' ⟨rfl, rfl⟩
    rcases keep_cases line r' with ⟨-, hk⟩ | ⟨hc, -⟩ | ⟨hc, -⟩ | ⟨hc, -⟩
    · exact ⟨hk, if_pos hclosed⟩
    all_goals exact absurd (hc.symm.trans hclosed) Bool.false_ne_true

/-- Two frames at once. -/
def Frame.and (F G : Frame) : Frame where
  holds r lines := F.holds r lines ∧ G.holds r lines
  stable line r lines h := ⟨F.stable line r lines h.1, G.stable line r lines h.2⟩

/-! ## Between two calls -/

/-- An active store has written `drained`; otherwise nothing is complete. -/
def Written (drained : Bytes) (active : Bool) (s : Sys) : Prop :=
  if s.store.active = true then
    active = true ∧ s.erased = true ∧
      ∃ pieces, Log pieces s.flash s.store.next ∧ pieces.flatten = drained
  else s.erased = true → Partly (savedRun s.flash) s.submitted

/-- Between two calls, up to the end of the report. -/
structure Between (strict : Prop) (active closed : Bool) (s : Sys) : Prop where
  outcomes : strict → s.Strict
  books : ∃ drained, (account drained active closed).on s ∧ Written drained active s

variable {strict : Prop} {active closed : Bool} {s t : Sys} {drained : Bytes}

theorem Partly.tells {found : Option (List Bytes × Bool)} {lines : List Bytes}
    (h : Partly found lines) (r : Report) : Tells strict found r lines := by
  unfold Tells
  split
  · trivial
  rename_i pieces complete
  obtain ⟨hopen, hpre⟩ := h pieces complete rfl
  exact ⟨hpre, fun hc => absurd (hopen.symm.trans hc) nofun⟩

/-- What is on the flash, and a beginning of what was drained behind it. -/
theorem Holds.partly {pieces : List Bytes} {data : Bytes} {flash : Flash} {r : Report}
    {lines : List Bytes} (h : Holds pieces data flash)
    (haccounts : Accounts (pieces.flatten ++ data) r lines) : Partly (savedRun flash) lines := by
  obtain ⟨more, hsaved, hmore⟩ := h
  intro pieces' complete hfound
  rw [hsaved] at hfound
  cases hfound
  refine ⟨rfl, ?_⟩
  rw [List.flatten_append]
  exact ((List.prefix_append_right_inj _).mpr hmore).trans
    ((List.prefix_append _ _).trans haccounts.1)

theorem Written.partly (h : Written drained active s)
    (haccounts : Accounts drained s.report s.submitted) (herased : s.erased = true) :
    Partly (savedRun s.flash) s.submitted := by
  unfold Written at h
  split at h
  · obtain ⟨-, -, pieces, hlog, rfl⟩ := h
    exact (hlog.holds []).partly (by rwa [List.append_nil])
  · exact h herased

/-- What is written stays so while lines are queued. -/
theorem Written.idle (h : Written drained active s) {F : Frame}
    (ht : Idle (F.and (ReportStore.partly (savedRun s.flash) s.erased)) s t) :
    Written drained active t := by
  unfold Written at h ⊢
  rw [ht.store, ht.erased, ht.flash]
  split
  · rename_i hactive
    rw [if_pos hactive] at h
    exact h
  · exact ht.frame.2

theorem Between.partly (h : Between strict active closed s) (herased : s.erased = true) :
    Partly (savedRun s.flash) s.submitted := by
  obtain ⟨drained, ⟨haccounts, -⟩, hwritten⟩ := h.books
  exact hwritten.partly haccounts herased

theorem Between.truthful (h : Between strict active closed s) : Truthful strict s :=
  fun herased => (h.partly herased).tells _

/-- Lines may be queued at any time. -/
theorem Between.quiet {α : Type} {c : Cmd Sys α} (hc : Quiet c) (G : Frame) (hG : G.on s)
    (h : Between strict active closed s) :
    wp c (fun _ t => Between strict active closed t ∧ G.on t) (Truthful strict) s := by
  obtain ⟨drained, haccount, hwritten⟩ := h.books
  let F := (account drained active closed).and G
  have idle (t : Sys) (ht : Idle (F.and (ReportStore.partly (savedRun s.flash) s.erased)) s t) :
      Between strict active closed t ∧ G.on t := by
    obtain ⟨⟨haccount', hG'⟩, -⟩ := ht.frame
    exact ⟨⟨fun hs => ht.strict (h.outcomes hs), drained, haccount', hwritten.idle ht⟩, hG'⟩
  refine wp_mono (hc (F.and (ReportStore.partly _ _)) s ⟨⟨haccount, hG⟩, h.partly⟩) ?_ ?_
  · exact fun _ t ht => idle t ht
  · exact fun t ht => (idle t ht).1.truthful

/-- The report with a failure noted. -/
def Sys.fail (s : Sys) : Sys := { s with report := { s.report with failed := true } }

theorem Between.fail (h : Between strict active closed s) : Between strict active closed s.fail := by
  obtain ⟨drained, ⟨⟨hpre, -⟩, hactive, hclosed⟩, hwritten⟩ := h.books
  exact ⟨h.outcomes, drained, ⟨⟨hpre, nofun⟩, hactive, hclosed⟩, hwritten⟩

theorem Between.wp_reportFailed {G : Frame} (hG : G.on s) (hfail : ∀ t, G.on t → G.on t.fail)
    (h : Between strict active closed s) :
    wp reportFailed (fun _ t => Between strict active closed t ∧ G.on t) (Truthful strict) s := by
  unfold reportFailed
  rw [wp_bind]
  refine wp_mono (h.quiet quiet_await G hG) ?_ fun t ht => ht
  exact fun _ t ⟨ht, hG'⟩ => ⟨ht.fail, hfail t hG'⟩

theorem Between.wp_reportOk {G : Frame} (hG : G.on s) (h : Between strict active closed s) :
    wp reportOk (fun ok t => Between strict active closed t ∧ G.on t ∧ ok = !t.report.failed)
      (Truthful strict) s := by
  unfold reportOk
  rw [wp_bind]
  refine wp_mono (h.quiet quiet_await G hG) ?_ fun t ht => ht
  exact fun _ t ⟨ht, hG'⟩ => ⟨ht, hG', rfl⟩

/-! ## A checkpoint -/

/-- The report with nothing pending. -/
def Sys.drain (s : Sys) : Sys := { s with report := { s.report with pending := [] } }

theorem settled_drain (s : Sys) : settled.on s.drain := fun _ => rfl

/-- Nothing was pending. -/
theorem Sys.drain_eq (h : s.report.pending = []) : s.drain = s := by
  unfold Sys.drain
  rw [← h]

/-- **The text that is drained** reaches the flash, or a beginning of it does. -/
theorem Between.wp_reportStoreAppend (h : Between strict true closed s) :
    wp (reportStoreAppend s.report.pending)
      (fun _ t => Between strict true closed t ∧ settled.on t) (Truthful strict) s.drain := by
  obtain ⟨drained, ⟨haccounts, hactive, hclosed⟩, hwritten⟩ := h.books
  have haccount : (account (drained ++ s.report.pending) true closed).on s.drain := by
    refine ⟨?_, hactive, hclosed⟩
    show _ ++ [] <+: _ ∧ (_ → _ ++ [] = _ ∧ _)
    rw [List.append_nil]
    exact haccounts
  unfold Written at hwritten
  unfold reportStoreAppend
  rw [wp_bind, wp_get]
  have hsame : s.drain.store.active = s.store.active := rfl
  cases hstore : s.store.active with
  | false =>
    rw [if_neg (Bool.eq_false_iff.mp hstore)] at hwritten
    rw [hsame, hstore]
    refine ⟨⟨h.outcomes, _, haccount, ?_⟩, settled_drain s⟩
    unfold Written
    rw [hsame, if_neg (Bool.eq_false_iff.mp hstore)]
    exact hwritten
  | true =>
    rw [if_pos hstore] at hwritten
    obtain ⟨-, herased, pieces, hlog, rfl⟩ := hwritten
    rw [hsame, hstore]
    simp only [Bool.not_true, Bool.false_eq_true, if_false]
    have hpages := wp_appendPages (F := (account (pieces.flatten ++ s.report.pending) true closed).and
      settled) (s := s.drain) (Nat.le_refl s.report.pending.length) hlog ⟨haccount, settled_drain s⟩
    refine wp_mono hpages ?_ ?_
    · rintro ok t ⟨⟨⟨haccount', hsettled⟩, herased', hstrict⟩, hholds, hok⟩
      refine ⟨⟨fun hs => hstrict (h.outcomes hs), _, haccount', ?_⟩, hsettled⟩
      unfold Written
      cases ok with
      | true =>
        obtain ⟨hactive', more, hlog', hmore⟩ := hok
        rw [if_pos (hactive'.trans hstore)]
        refine ⟨rfl, herased'.trans herased, pieces ++ more, hlog', ?_⟩
        rw [List.flatten_append, hmore]
      | false =>
        rw [if_neg (Bool.eq_false_iff.mp hok)]
        exact fun _ => hholds.partly haccount'.1
    · rintro t ⟨⟨⟨haccount', -⟩, -, -⟩, hholds⟩
      exact fun _ => (hholds.partly haccount'.1).tells _

/-- **`report_checkpoint`** while the report goes on. -/
theorem Between.wp_reportCheckpoint (h : Between strict active closed s) :
    wp reportCheckpoint
      (fun ok t => Between strict active closed t ∧ ok = (!t.report.failed) ∧
        (active = true → settled.on t))
      (Truthful strict) s := by
  unfold reportCheckpoint
  rw [wp_bind]
  refine wp_mono (h.quiet quiet_reportFlushUsb .trivial True.intro) ?_ fun t ht => ht
  rintro _ t ⟨ht, -⟩
  rw [wp_bind]
  refine wp_mono (ht.quiet quiet_await .trivial True.intro) ?_ fun t ht => ht
  rintro _ u ⟨hu, -⟩
  rw [wp_bind, wp_get]
  obtain ⟨drained, ⟨-, hactive, -⟩, -⟩ := hu.books
  rw [hactive]
  cases active with
  | false =>
    simp only [Bool.not_false, if_true]
    refine wp_mono (hu.wp_reportOk (G := .trivial) True.intro) ?_ fun t ht => ht
    exact fun ok v ⟨hv, _, hok⟩ => ⟨hv, hok, nofun⟩
  | true =>
    simp only [Bool.not_true, Bool.false_eq_true, if_false]
    rw [wp_bind]
    refine wp_mono (hu.quiet quiet_await .trivial True.intro) ?_ fun t ht => ht
    rintro _ v ⟨hv, -⟩
    rw [wp_bind, wp_get, wp_bind, wp_set]
    show wp _ _ _ v.drain
    have ending {w : Sys} (hw : Between strict true closed w) (hsettled : settled.on w) :
        wp reportOk (fun ok t => Between strict true closed t ∧ ok = (!t.report.failed) ∧
          (True → settled.on t)) (Truthful strict) w := by
      refine wp_mono (hw.wp_reportOk hsettled) ?_ fun t ht => ht
      exact fun ok x ⟨hx, hsettled', hok⟩ => ⟨hx, hok, fun _ => hsettled'⟩
    by_cases hnil : v.report.pending = []
    · rw [if_neg (not_not.mpr hnil)]
      refine ending ?_ (settled_drain v)
      rwa [Sys.drain_eq hnil]
    · rw [if_pos hnil, wp_bind]
      refine wp_mono hv.wp_reportStoreAppend ?_ fun t ht => ht
      rintro ok w ⟨hw, hsettled⟩
      cases ok with
      | true =>
        simp only [Bool.not_true, Bool.false_eq_true, if_false]
        exact ending hw hsettled
      | false =>
        simp only [Bool.not_false, if_true]
        rw [wp_bind]
        refine wp_mono (hw.wp_reportFailed hsettled fun x hx => hx) ?_ fun t ht => ht
        exact fun _ x ⟨hx, hsettled'⟩ => ending hx hsettled'

/-- **`report_checkpoint`** of a report that is not active. -/
theorem wp_reportCheckpoint_inactive {F : Frame} (hF : ∀ r lines, F.holds r lines → r.active = false)
    (h : F.on s) : wp reportCheckpoint (fun _ t => Idle F s t) (fun t => Idle F s t) s := by
  unfold reportCheckpoint
  rw [wp_bind]
  refine wp_mono (quiet_reportFlushUsb F s h) ?_ fun t ht => ht
  intro _ t ht
  rw [wp_bind]
  refine wp_mono (quiet_await F t ht.frame) ?_ fun u hu => ht.trans hu
  intro _ u hu
  rw [wp_bind, wp_get, hF _ _ hu.frame]
  simp only [Bool.not_false, if_true]
  unfold reportOk
  rw [wp_bind]
  have htrans := ht.trans hu
  refine wp_mono (quiet_await F u hu.frame) ?_ fun v hv => htrans.trans hv
  exact fun _ v hv => htrans.trans hv

/-! ## The beginning -/

/-- Up to `report_begin`: nothing is drained, and nothing is erased. -/
structure Before (strict : Prop) (s : Sys) : Prop where
  outcomes : strict → s.Strict
  account : (account [] false false).on s
  store : s.store.active = false
  erased : s.erased = false

theorem Before.truthful (h : Before strict s) : Truthful strict s :=
  fun herased => absurd (h.erased.symm.trans herased) nofun

theorem Before.idle (h : Before strict s) (hidle : Idle (ReportStore.account [] false false) s t) :
    Before strict t :=
  ⟨fun hs => hidle.strict (h.outcomes hs), hidle.frame, by rw [hidle.store, h.store],
    hidle.erased.trans h.erased⟩

/-- The report as `report_init` leaves it. -/
theorem before_reportInit (s : Sys) (hstrict : strict → s.Strict) :
    Before strict (reportInit { s with store := ⟨0, false⟩, erased := false }) :=
  ⟨hstrict, ⟨⟨List.prefix_refl _, fun _ => ⟨rfl, nofun⟩⟩, rfl, rfl⟩, rfl, rfl⟩

theorem Unstarted.partly {flash : Flash} (h : Unstarted flash) (lines : List Bytes) :
    Partly (savedRun flash) lines := by
  intro pieces complete hfound
  rcases h with hnone | hempty
  · exact absurd (hnone.symm.trans hfound) nofun
  · rw [hempty] at hfound
    cases hfound
    exact ⟨rfl, List.nil_prefix⟩

/-- **`report_begin`** starts a run with nothing drained, or notes a failure. -/
theorem Before.wp_reportBegin (h : Before strict s) :
    wp reportBegin (fun _ t => ∃ active, Between strict active false t) (Truthful strict) s := by
  unfold reportBegin
  rw [wp_bind]
  have partly (t : Sys) (ht : (t.erased = s.erased ∧ Worn s.flash t.flash) ∨ Unstarted t.flash) :
      t.erased = true → Partly (savedRun t.flash) t.submitted := by
    intro herased
    rcases ht with ⟨hnote, -⟩ | hunstarted
    · exact absurd ((hnote.trans h.erased).symm.trans herased) nofun
    · exact hunstarted.partly _
  refine wp_mono (wp_reportStoreBegin h.account) ?_ ?_
  swap
  · rintro t ⟨-, ht⟩
    exact fun herased => (partly t ht herased).tells _
  rintro active t ⟨haccount, hactive, hstrict, hok⟩
  rw [wp_bind]
  -- while the lock is free before the flags are set
  have hwritten : Written [] active t := by
    unfold Written
    rw [hactive]
    cases active with
    | true =>
      rw [if_pos rfl]
      exact ⟨rfl, hok.1, [], hok.2, rfl⟩
    | false =>
      rw [if_neg (by decide)]
      exact partly t hok
  let F := ReportStore.account [] false false
  have idle (u : Sys) (hu : Idle (F.and (ReportStore.partly (savedRun t.flash) t.erased)) t u) :
      F.on u ∧ Written [] active u := ⟨hu.frame.1, hwritten.idle hu⟩
  refine wp_mono (quiet_await (F.and (ReportStore.partly _ _)) t
    ⟨haccount, hwritten.partly haccount.1⟩) ?_ ?_
  swap
  · intro u hu herased
    obtain ⟨haccount', hwritten'⟩ := idle u hu
    exact (hwritten'.partly haccount'.1 herased).tells _
  intro _ u hu
  obtain ⟨⟨⟨hpre, hall⟩, -, hclosed⟩, hwritten'⟩ := idle u hu
  rw [wp_bind, wp_modify]
  have hbetween : Between strict active false { u with report := { u.report with
      active := active, failed := u.report.failed || !active } } := by
    refine ⟨fun hs => hu.strict (hstrict (h.outcomes hs)), [], ⟨⟨hpre, ?_⟩, rfl, hclosed⟩, hwritten'⟩
    intro hfailed
    exact hall (Bool.or_eq_false_iff.mp hfailed).1
  exact wp_mono hbetween.wp_reportCheckpoint (fun _ v hv => ⟨active, hv.1⟩) fun v hv => hv

/-! ## The end -/

/-- After `report_finish`: the report is closed, and what replay shows is settled. -/
structure Over (strict : Prop) (ok : Bool) (s : Sys) : Prop where
  closed : s.report.closed = true
  inactive : s.report.active = false
  truthful : Truthful strict s
  whole : ok = true → Whole s

/-- Nothing changes any more. -/
theorem Over.idle {ok : Bool} (h : Over strict ok s)
    (hidle : Idle (fixed s.report s.submitted h.closed) s t) : Over strict ok t := by
  obtain ⟨hreport, hlines⟩ := hidle.frame
  refine ⟨hreport ▸ h.closed, hreport ▸ h.inactive, ?_, fun hok => ?_⟩
  · unfold Truthful
    rw [hidle.erased, hidle.flash, hreport, hlines]
    exact h.truthful
  · unfold Whole
    rw [hidle.flash, hlines]
    exact h.whole hok

/-- The last lines of `report_finish`. -/
theorem wp_finished (hclosed : s.report.closed = true) (htruthful : Truthful strict s)
    (hwhole : s.report.failed = false → Whole s) :
    wp (do
        await
        modify fun s : Sys => { s with report := { s.report with active := false } }
        reportOk)
      (fun ok t => Over strict ok t) (Truthful strict) s := by
  rw [wp_bind]
  have same (t : Sys) (ht : Idle (fixed s.report s.submitted hclosed) s t) : Truthful strict t := by
    obtain ⟨hreport, hlines⟩ := ht.frame
    unfold Truthful
    rw [ht.erased, ht.flash, hreport, hlines]
    exact htruthful
  refine wp_mono (quiet_await (fixed s.report s.submitted hclosed) s ⟨rfl, rfl⟩) ?_ same
  intro _ t ht
  obtain ⟨hreport, hlines⟩ := ht.frame
  rw [wp_bind, wp_modify]
  have hover : Over strict (!t.report.failed) { t with report := { t.report with active := false } } := by
    refine ⟨?_, rfl, same t ht, ?_⟩
    · show t.report.closed = true
      rw [hreport, hclosed]
    · intro hok
      rw [hreport, Bool.not_eq_true'] at hok
      show ∃ pieces, savedRun t.flash = _ ∧ _ = t.submitted.flatten
      rw [ht.flash, hlines]
      exact hwhole hok
  unfold reportOk
  rw [wp_bind]
  refine wp_mono (quiet_await (fixed _ _ hover.closed) _ ⟨rfl, rfl⟩) ?_ ?_
  · intro _ u hu
    rw [wp_bind, wp_get, wp_pure, hu.frame.1]
    exact hover.idle hu
  · exact fun u hu => (hover.idle hu).truthful

/-- A failure is noted, and `report_finish` ends. -/
theorem wp_failed_finished (hclosed : s.report.closed = true) (htruthful : Truthful strict s)
    (hfail : Truthful strict s.fail) :
    wp (do
        reportFailed
        await
        modify fun s : Sys => { s with report := { s.report with active := false } }
        reportOk)
      (fun ok t => Over strict ok t) (Truthful strict) s := by
  have same (t : Sys) (ht : Idle (fixed s.report s.submitted hclosed) s t) :
      Truthful strict t ∧ Truthful strict t.fail := by
    obtain ⟨hreport, hlines⟩ := ht.frame
    unfold Truthful Sys.fail
    rw [ht.erased, ht.flash, hreport, hlines]
    exact ⟨htruthful, hfail⟩
  unfold reportFailed
  rw [wp_bind, wp_bind]
  refine wp_mono (quiet_await (fixed s.report s.submitted hclosed) s ⟨rfl, rfl⟩) ?_
    fun t ht => (same t ht).1
  intro _ t ht
  rw [wp_modify]
  show wp _ _ _ t.fail
  refine wp_finished ?_ (same t ht).2 ?_
  · show t.report.closed = true
    rw [ht.frame.1, hclosed]
  · intro hfailed
    cases hfailed

/-- The report is closed. -/
def Sys.close (s : Sys) : Sys := { s with report := { s.report with closed := true } }

theorem Between.close (h : Between strict active false s) : Between strict active true s.close := by
  obtain ⟨drained, ⟨haccounts, hactive, -⟩, hwritten⟩ := h.books
  exact ⟨h.outcomes, drained, ⟨haccounts, hactive, rfl⟩, hwritten⟩

/-- **`report_finish`** returns true only when the whole report is on the flash. -/
theorem Between.wp_reportFinish (h : Between strict active false s) :
    wp reportFinish (fun ok t => Over strict ok t) (Truthful strict) s := by
  unfold reportFinish
  rw [wp_bind]
  refine wp_mono (h.quiet quiet_await .trivial True.intro) ?_ fun t ht => ht
  rintro _ t ⟨ht, -⟩
  rw [wp_bind, wp_modify, wp_bind]
  refine wp_mono (ht.close.wp_reportCheckpoint) ?_ fun u hu => hu
  rintro ok u ⟨hu, hok, hsettled⟩
  obtain ⟨drained, ⟨⟨-, hall⟩, -, hclosed⟩, hwritten⟩ := hu.books
  simp only
  cases ok with
  | false =>
    simp only [Bool.not_false, if_true]
    exact wp_failed_finished hclosed hu.truthful hu.fail.truthful
  | true =>
    simp only [Bool.not_true, Bool.false_eq_true, if_false]
    rw [wp_bind]
    cases hstore : u.store.active with
    | false =>
      unfold reportStoreFinish
      rw [wp_bind, wp_get, hstore]
      exact wp_failed_finished hclosed hu.truthful hu.fail.truthful
    | true =>
      have hfailed : u.report.failed = false := (Bool.not_eq_true' _).mp hok.symm
      unfold Written at hwritten
      rw [if_pos hstore] at hwritten
      obtain ⟨hactive, -, pieces, hlog, rfl⟩ := hwritten
      -- everything submitted is on the flash
      obtain ⟨htext, hshort⟩ := hall hfailed
      rw [hsettled hactive hclosed, List.append_nil] at htext
      have tells (r : Report) (complete : Bool) (hc : r.closed = true)
          (hr : complete = true → strict → r.failed = false) :
          Tells strict (some (pieces, complete)) r u.submitted :=
        ⟨by rw [htext], fun hcom => ⟨htext, hc, hshort, hr hcom⟩⟩
      have hfinish := wp_reportStoreFinish (F := fixed u.report u.submitted hclosed) hstore hlog
        ⟨rfl, rfl⟩
      refine wp_mono hfinish ?_ ?_
      · rintro ok v ⟨⟨⟨hreport, hlines⟩, -, -⟩, -, complete, hsaved, hdone, hgood⟩
        have hclosed' : v.report.closed = true := by rw [hreport, hclosed]
        have htruthful : Truthful strict v := by
          intro _
          rw [hsaved, hlines]
          exact tells _ complete hclosed' fun _ _ => by rw [hreport, hfailed]
        cases ok with
        | true =>
          simp only [Bool.not_true, Bool.false_eq_true, if_false]
          refine wp_finished hclosed' htruthful fun _ => ⟨pieces, ?_, ?_⟩
          · rw [hsaved, hdone rfl]
          · rw [hlines, htext]
        | false =>
          simp only [Bool.not_false, if_true]
          apply wp_failed_finished hclosed' htruthful
          intro _
          show Tells strict (savedRun v.flash) _ v.submitted
          rw [hsaved, hlines]
          refine tells _ complete hclosed' ?_
          intro hcom hs
          rcases hgood hcom with hok | hweak
          · cases hok
          · exact absurd (hu.outcomes hs) hweak
      · rintro v ⟨⟨⟨hreport, hlines⟩, -, -⟩, complete, hsaved⟩
        intro _
        rw [hsaved, hreport, hlines]
        exact tells _ complete hclosed fun _ _ => hfailed

/-! ## A whole run -/

/-- What main does between the calls of the report. -/
inductive MainCall
  | printf (line : Bytes)
  | deferPrintf (line : Bytes)
  | flushUsb
  | checkpoint
  deriving DecidableEq, Repr

/-- One of these calls. -/
def MainCall.perform : MainCall → Cmd Sys Unit
  | .printf line => reportPrintf line
  | .deferPrintf line => reportDeferPrintf line
  | .flushUsb => reportFlushUsb
  | .checkpoint => do
    let _ ← reportCheckpoint
    pure ()

/-- One call after the other. -/
def performCalls : List MainCall → Cmd Sys Unit
  | [] => pure ()
  | call :: calls => do
    call.perform
    performCalls calls

/-- Main from `report_init` on: calls before `report_begin`, up to `report_finish`, and after
it.  The result is that of `report_finish`. -/
def reportRun (before during after : List MainCall) : Cmd Sys Bool := do
  performCalls before
  let _ ← reportBegin
  performCalls during
  let ok ← reportFinish
  performCalls after
  return ok

/-- Calls of a report that is not active. -/
theorem wp_inactive_call {F : Frame} (hF : ∀ r lines, F.holds r lines → r.active = false)
    (call : MainCall) (h : F.on s) :
    wp call.perform (fun _ t => Idle F s t) (fun t => Idle F s t) s := by
  cases call with
  | printf line => exact quiet_reportPrintf line F s h
  | deferPrintf line => exact quiet_reportDeferPrintf line F s h
  | flushUsb => exact quiet_reportFlushUsb F s h
  | checkpoint =>
    unfold MainCall.perform
    rw [wp_bind]
    exact wp_reportCheckpoint_inactive hF h

theorem wp_inactive_calls {F : Frame} (hF : ∀ r lines, F.holds r lines → r.active = false)
    (calls : List MainCall) (h : F.on s) :
    wp (performCalls calls) (fun _ t => Idle F s t) (fun t => Idle F s t) s := by
  induction calls generalizing s with
  | nil => exact Idle.refl h
  | cons call calls ih =>
    unfold performCalls
    rw [wp_bind]
    refine wp_mono (wp_inactive_call hF call h) ?_ fun t ht => ht
    intro _ t ht
    exact wp_mono (ih ht.frame) (fun _ u hu => ht.trans hu) fun u hu => ht.trans hu

/-- Calls between `report_begin` and `report_finish`. -/
theorem Between.wp_calls (calls : List MainCall) (h : Between strict active closed s) :
    wp (performCalls calls) (fun _ t => Between strict active closed t) (Truthful strict) s := by
  have quiet {c : Cmd Sys Unit} (hc : Quiet c) {t : Sys} (ht : Between strict active closed t) :
      wp c (fun _ u => Between strict active closed u) (Truthful strict) t :=
    wp_mono (ht.quiet hc .trivial True.intro) (fun _ _ hu => hu.1) fun _ hu => hu
  induction calls generalizing s with
  | nil => exact h
  | cons call calls ih =>
    unfold performCalls
    rw [wp_bind]
    refine wp_mono ?_ (fun _ t ht => ih ht) fun t ht => ht
    cases call with
    | printf line => exact quiet (quiet_reportPrintf line) h
    | deferPrintf line => exact quiet (quiet_reportDeferPrintf line) h
    | flushUsb => exact quiet quiet_reportFlushUsb h
    | checkpoint =>
      unfold MainCall.perform
      rw [wp_bind]
      exact wp_mono h.wp_reportCheckpoint (fun _ t ht => ht.1) fun t ht => ht

/-- A run of main, from a state with nothing drained. -/
theorem Before.wp_reportRun (h : Before strict s) (before during after : List MainCall) :
    wp (reportRun before during after) (fun ok t => Over strict ok t) (Truthful strict) s := by
  unfold reportRun
  rw [wp_bind]
  have hbefore := wp_inactive_calls (F := ReportStore.account [] false false) (fun _ _ h => h.2.1)
    before h.account
  refine wp_mono hbefore ?_ fun t ht => (h.idle ht).truthful
  intro _ t ht
  rw [wp_bind]
  refine wp_mono (h.idle ht).wp_reportBegin ?_ fun u hu => hu
  rintro _ u ⟨active, hu⟩
  rw [wp_bind]
  refine wp_mono (hu.wp_calls during) ?_ fun v hv => hv
  intro _ v hv
  rw [wp_bind]
  refine wp_mono hv.wp_reportFinish ?_ fun w hw => hw
  intro ok w hw
  rw [wp_bind]
  have hafter := wp_inactive_calls (F := fixed w.report w.submitted hw.closed)
    (fun _ _ h => h.1 ▸ hw.inactive) after ⟨rfl, rfl⟩
  refine wp_mono hafter ?_ fun x hx => (hw.idle hx).truthful
  exact fun _ x hx => hw.idle hx

/-- **What replay shows of a report**, in every run of main: whatever radio callbacks queue
and however the flash behaves, it is a beginning of the submitted lines.  It is complete only
when it is all of them, and `report_finish` returns true only when it is complete. -/
theorem reportRun_truthful (before during after : List MainCall) (s : Sys) :
    let run := exec (reportRun before during after)
      (reportInit { s with store := ⟨0, false⟩, erased := false })
    Truthful s.Strict run.2 ∧ (run.1 = some true → Whole run.2) := by
  intro run
  have hbefore : Before s.Strict (reportInit { s with store := ⟨0, false⟩, erased := false }) :=
    before_reportInit s fun hs => hs
  have hrun := hbefore.wp_reportRun before during after
  unfold wp at hrun
  show Truthful s.Strict (exec _ _).2 ∧ ((exec _ _).1 = _ → Whole (exec _ _).2)
  rcases hexec : exec (reportRun before during after)
      (reportInit { s with store := ⟨0, false⟩, erased := false }) with ⟨_ | ok, t⟩
  · rw [hexec] at hrun
    exact ⟨hrun, nofun⟩
  · rw [hexec] at hrun
    refine ⟨hrun.truthful, ?_⟩
    intro hok
    cases hok
    exact hrun.whole rfl

end ReportStore
