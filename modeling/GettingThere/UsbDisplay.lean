/-
# The queue of the USB display (`report_format`, `report_flush_usb`)

A line is queued for the display in the same critical section that keeps it for the saved run;
`report_flush_usb` takes text out in another one and prints it after that.  So a run is a sequence
of moments (`Moment`): a line, from the main thread or from a callback, text that is taken, and
text that is printed.  `Display` is the state of the ring with the local variables of
`report_flush_usb`, and with notes on what was queued.

`Display.Kept` says that the ring is a plain queue, at every moment of every run.  The calls of
`RunReport` are such runs (`runs_reportCalls`), with the moments `schedule` gives.
-/
import GettingThere.RingQueue
import GettingThere.RunReport

namespace ReportStore

open CrashLogic RingQueue TransferProtocol

/-! ## The ring -/

/-- The text in the ring. -/
def UsbQueue.text (u : UsbQueue) : Bytes :=
  window usbQueueCapacity 0 u.queue.cells u.head u.length

/-- The counters are in their ranges. -/
structure UsbQueue.Bounded (u : UsbQueue) : Prop where
  head_lt : u.head < usbQueueCapacity
  length_le : u.length ≤ usbQueueCapacity

/-- A text fits the free part of the ring. -/
def UsbQueue.Fits (text : Bytes) (u : UsbQueue) : Prop :=
  u.length + text.length ≤ usbQueueCapacity

instance UsbQueue.decidableFits (text : Bytes) (u : UsbQueue) : Decidable (u.Fits text) := by
  unfold UsbQueue.Fits
  infer_instance

variable {u : UsbQueue} {text : Bytes}

@[simp] theorem UsbQueue.length_text (u : UsbQueue) : u.text.length = u.length :=
  length_window _ _ _ _

/-- The loop that copies a line is a write into the ring. -/
theorem cells_ringWrite (queue : Buffer UInt8 4096) (pos : ℕ) (bs : Bytes) :
    (ringWrite queue pos bs).cells = fill usbQueueCapacity queue.cells pos bs := by
  induction bs generalizing queue pos with
  | nil => rfl
  | cons b bs ih =>
    have hcell : pos % usbQueueCapacity < 4096 := Nat.mod_lt _ (by decide)
    unfold ringWrite fill
    rw [ih, Buffer.cells_write_one queue hcell]

/-- The unsigned comparison is the one that is meant. -/
theorem UsbQueue.Bounded.fits_iff (h : u.Bounded) (text : Bytes) :
    text.length ≤ (usbQueueCapacity + 2 ^ 32 - u.length) % 2 ^ 32 ↔ u.Fits text := by
  have hlen := h.length_le
  unfold UsbQueue.Fits
  have hcapacity : usbQueueCapacity = 4096 := rfl
  omega

/-- **A text that fits** is queued behind the others. -/
theorem UsbQueue.Bounded.put (h : u.Bounded) (hfits : u.Fits text) :
    (u.put text).Bounded ∧ (u.put text).text = u.text ++ text ∧
      (u.put text).overflow = u.overflow := by
  have hput : u.put text =
      { u with
        queue := ringWrite u.queue (u.head + u.length) text
        length := (u.length + text.length) % 65536 } := by
    unfold UsbQueue.put
    exact if_pos ((h.fits_iff text).mpr hfits)
  unfold UsbQueue.Fits at hfits
  have hcapacity : usbQueueCapacity = 4096 := rfl
  have hcounter : (u.length + text.length) % 65536 = u.length + text.length := by omega
  rw [hput, hcounter]
  refine ⟨⟨h.head_lt, hfits⟩, ?_, rfl⟩
  unfold UsbQueue.text
  rw [cells_ringWrite]
  exact window_fill 0 u.queue.length_cells u.head hfits

/-- A text that does not fit is dropped. -/
theorem UsbQueue.Bounded.put_of_not_fits (h : u.Bounded) (hfits : ¬ u.Fits text) :
    u.put text = { u with overflow := true } := by
  unfold UsbQueue.put
  exact if_neg fun hle => hfits ((h.fits_iff text).mp hle)

/-- What a flush takes is the front of the queue. -/
theorem UsbQueue.front_eq (u : UsbQueue) : u.front = u.text.take 512 := by
  unfold UsbQueue.text
  rcases Nat.le_total u.length 512 with hle | hle
  · rw [List.take_of_length_le (by rw [length_window]; exact hle)]
    unfold UsbQueue.front window
    rw [Nat.min_eq_left hle]
  · rw [take_window _ _ _ hle]
    unfold UsbQueue.front window
    rw [Nat.min_eq_right hle]

/-- And the rest stays queued. -/
theorem UsbQueue.Bounded.drop (h : u.Bounded) :
    (u.drop u.front.length).Bounded ∧ (u.drop u.front.length).text = u.text.drop 512 := by
  have hlen := h.length_le
  have hfront : u.front.length = min u.length 512 := by
    unfold UsbQueue.front
    rw [List.length_map, List.length_range]
  rw [hfront]
  refine ⟨⟨Nat.mod_lt _ (by decide), ?_⟩, ?_⟩
  · show u.length - _ ≤ _
    omega
  · unfold UsbQueue.text
    show window usbQueueCapacity 0 u.queue.cells ((u.head + min u.length 512) % usbQueueCapacity)
      (u.length - min u.length 512) = _
    rw [window_mod, ← drop_window _ _ _ (Nat.min_le_left _ _)]
    rcases Nat.le_total u.length 512 with hle | hle
    · rw [Nat.min_eq_left hle, List.drop_of_length_le (by rw [length_window]),
        List.drop_of_length_le (by rw [length_window]; exact hle)]
    · rw [Nat.min_eq_right hle]

/-! ## Moments -/

/-- What happens without an interruption. -/
inductive Moment
  /-- the critical section of `report_format` -/
  | line (text : Bytes)
  /-- the critical section of `report_flush_usb` -/
  | take
  /-- what `report_flush_usb` does after it -/
  | print
  deriving DecidableEq, Repr

/-- The report, the ring, and the local variables of `report_flush_usb` between its critical
section and its printing.  The notes are the pieces printed so far, the lines accepted by the
ring, and those dropped since text was taken last. -/
structure Display where
  report : Report
  usb : UsbQueue
  taken : Option (Bytes × Bool)
  printed : List (Bytes × Bool)
  accepted : List Bytes
  dropped : List Bytes

namespace Display

/-- After `report_init`. -/
def start (queue : Buffer UInt8 4096) : Display :=
  ⟨⟨[], false, false, false⟩, ⟨queue, 0, 0, false⟩, none, [], [], []⟩

/-- A line: the text that fits its buffer is queued, or dropped. -/
def line (text : Bytes) (d : Display) : Display :=
  if text = [] then d
  else
    let d' := { d with report := d.report.keep text, usb := d.usb.put (lineText text) }
    if d.usb.Fits (lineText text) then { d' with accepted := d.accepted ++ [lineText text] }
    else { d' with dropped := d.dropped ++ [lineText text] }

/-- Text is taken out of the ring. -/
def take (d : Display) : Display :=
  { d with
    usb := d.usb.drop d.usb.front.length
    taken := some (d.usb.front, d.usb.overflow)
    dropped := [] }

/-- What has been taken is printed. -/
def print (piece : Bytes × Bool) (d : Display) : Display :=
  { d with taken := none, printed := d.printed ++ [piece] }

/-- A moment; text is taken and printed in turn. -/
def step (d : Display) : Moment → Option Display
  | .line text => some (d.line text)
  | .take => if d.taken = none then some d.take else none
  | .print => d.taken.map fun piece => d.print piece

/-- A run. -/
def run : List Moment → Display → Option Display
  | [], d => some d
  | m :: moments, d => (d.step m).bind (run moments)

/-- The bytes of the queue that were printed. -/
def written (d : Display) : Bytes := d.printed.flatMap Prod.fst

/-- The bytes that were taken and are not printed yet. -/
def inHand (d : Display) : Bytes := (d.taken.map Prod.fst).getD []

/-- What a piece looks like on the display. -/
def shown (piece : Bytes × Bool) : Bytes :=
  piece.1 ++ if piece.2 then ascii usbOverflowNote else []

/-- All that is on the display. -/
def screen (d : Display) : Bytes := d.printed.flatMap shown

/-- **The ring is a plain queue**: what was printed, what is in hand and what is in the ring are
the accepted lines, and an overflow is known exactly when a line was dropped. -/
structure Kept (d : Display) : Prop where
  bounded : d.usb.Bounded
  queued : d.written ++ d.inHand ++ d.usb.text = d.accepted.flatten
  overflow : d.usb.overflow = true ↔ d.dropped ≠ []

theorem kept_start (queue : Buffer UInt8 4096) : (start queue).Kept where
  bounded := ⟨Nat.succ_pos 4095, Nat.zero_le _⟩
  queued := rfl
  overflow := by
    show false = true ↔ [] ≠ []
    simp

variable {d e : Display} {text : Bytes} {moments more : List Moment}

/-! ## A line -/

/-- A line that fits is accepted whole, and queued behind the others. -/
theorem Kept.line_fits (h : d.Kept) (hne : text ≠ []) (hfits : d.usb.Fits (lineText text)) :
    (d.line text).Kept ∧ (d.line text).accepted = d.accepted ++ [lineText text] ∧
      (d.line text).dropped = d.dropped ∧
      (d.line text).usb.text = d.usb.text ++ lineText text := by
  obtain ⟨hbounded, htext, hover⟩ := h.bounded.put hfits
  have hline : d.line text =
      { d with
        report := d.report.keep text
        usb := d.usb.put (lineText text)
        accepted := d.accepted ++ [lineText text] } := by
    unfold line
    exact (if_neg hne).trans (if_pos hfits)
  rw [hline]
  refine ⟨⟨hbounded, ?_, ?_⟩, rfl, rfl, htext⟩
  · show d.written ++ d.inHand ++ (d.usb.put (lineText text)).text = _
    rw [htext, ← List.append_assoc, h.queued, List.flatten_append, List.flatten_singleton]
  · show (d.usb.put (lineText text)).overflow = true ↔ _
    rw [hover]
    exact h.overflow

/-- A line that does not fit is dropped whole, and the overflow is known. -/
theorem Kept.line_drops (h : d.Kept) (hne : text ≠ []) (hfits : ¬ d.usb.Fits (lineText text)) :
    (d.line text).Kept ∧ (d.line text).accepted = d.accepted ∧
      (d.line text).dropped = d.dropped ++ [lineText text] ∧
      (d.line text).usb.text = d.usb.text := by
  have hput := h.bounded.put_of_not_fits hfits
  have hline : d.line text =
      { d with
        report := d.report.keep text
        usb := { d.usb with overflow := true }
        dropped := d.dropped ++ [lineText text] } := by
    unfold line
    rw [hput]
    exact (if_neg hne).trans (if_neg hfits)
  rw [hline]
  refine ⟨⟨⟨h.bounded.head_lt, h.bounded.length_le⟩, h.queued, ?_⟩, rfl, rfl, rfl⟩
  show true = true ↔ _
  exact iff_of_true rfl (List.append_ne_nil_of_right_ne_nil _ (List.cons_ne_nil _ _))

theorem line_nil (d : Display) : d.line [] = d := if_pos rfl

/-- The saved run does not depend on the ring. -/
theorem report_line (d : Display) (hne : text ≠ []) :
    (d.line text).report = d.report.keep text := by
  unfold line
  apply (congrArg report (if_neg hne)).trans
  split
  · rfl
  · rfl

theorem taken_line (d : Display) (text : Bytes) : (d.line text).taken = d.taken := by
  unfold line
  split
  · rfl
  · split
    · rfl
    · rfl

theorem printed_line (d : Display) (text : Bytes) : (d.line text).printed = d.printed := by
  unfold line
  split
  · rfl
  · split
    · rfl
    · rfl

theorem usb_line (d : Display) (hne : text ≠ []) :
    (d.line text).usb = d.usb.put (lineText text) := by
  unfold line
  apply (congrArg usb (if_neg hne)).trans
  split
  · rfl
  · rfl

theorem Kept.line (h : d.Kept) (text : Bytes) : (d.line text).Kept := by
  by_cases hne : text = []
  · rw [hne, line_nil]
    exact h
  by_cases hfits : d.usb.Fits (lineText text)
  · exact (h.line_fits hne hfits).1
  · exact (h.line_drops hne hfits).1

/-! ## A flush -/

/-- A flush takes the front of the queue, and whether a line was dropped since the last one. -/
theorem Kept.take (h : d.Kept) (hfree : d.taken = none) :
    d.take.Kept ∧ d.take.taken = some (d.usb.text.take 512, decide (d.dropped ≠ [])) ∧
      d.take.usb.text = d.usb.text.drop 512 ∧ d.take.dropped = [] := by
  obtain ⟨hbounded, htext⟩ := h.bounded.drop
  refine ⟨⟨hbounded, ?_, ?_⟩, ?_, htext, rfl⟩
  · have hqueued := h.queued
    unfold inHand at hqueued
    rw [hfree] at hqueued
    show d.written ++ d.usb.front ++ (d.usb.drop d.usb.front.length).text = _
    rw [htext, UsbQueue.front_eq, List.append_assoc, List.take_append_drop,
      ← List.append_nil d.written]
    exact hqueued
  · show false = true ↔ [] ≠ []
    simp
  · have hover : d.usb.overflow = decide (d.dropped ≠ []) := by
      rw [Bool.eq_iff_iff, h.overflow, decide_eq_true_iff]
    show some (d.usb.front, d.usb.overflow) = _
    rw [UsbQueue.front_eq, hover]

/-- And prints both. -/
theorem Kept.print (h : d.Kept) {piece : Bytes × Bool} (htaken : d.taken = some piece) :
    (d.print piece).Kept ∧ (d.print piece).screen = d.screen ++ shown piece := by
  have hscreen : (d.print piece).screen = d.screen ++ shown piece := by
    unfold screen Display.print
    rw [List.flatMap_append, List.flatMap_singleton]
  refine ⟨⟨h.bounded, ?_, h.overflow⟩, hscreen⟩
  have hqueued := h.queued
  unfold inHand at hqueued
  rw [htaken] at hqueued
  unfold written inHand Display.print
  rw [List.flatMap_append, List.flatMap_singleton]
  show _ ++ [] ++ _ = _
  rw [List.append_nil]
  exact hqueued

/-! ## Runs -/

/-- **Every moment keeps the queue.** -/
theorem Kept.step (h : d.Kept) {m : Moment} (hstep : d.step m = some e) : e.Kept := by
  cases m with
  | line text =>
    cases hstep
    exact h.line text
  | take =>
    change (if d.taken = none then some d.take else none) = some e at hstep
    split at hstep
    · rename_i hfree
      cases hstep
      exact (h.take hfree).1
    · cases hstep
  | print =>
    obtain ⟨piece, htaken, rfl⟩ := Option.map_eq_some_iff.mp hstep
    exact (h.print htaken).1

/-- **So does every run.** -/
theorem Kept.run (h : d.Kept) (hrun : run moments d = some e) : e.Kept := by
  induction moments generalizing d with
  | nil =>
    cases hrun
    exact h
  | cons m moments ih =>
    obtain ⟨d', hstep, hrest⟩ := Option.bind_eq_some_iff.mp hrun
    exact ih (h.step hstep) hrest

theorem run_append : run (moments ++ more) d = (run moments d).bind (run more) := by
  induction moments generalizing d with
  | nil => rfl
  | cons m moments ih =>
    show (d.step m).bind (run (moments ++ more)) =
      ((d.step m).bind (run moments)).bind (run more)
    rw [Option.bind_assoc]
    exact congrArg _ (funext fun d' => ih)

end Display

/-! ## The calls -/

/-- The calls of the main thread. -/
inductive ReportCall
  | printf (line : Bytes)
  | deferPrintf (line : Bytes)
  | flushUsb
  deriving DecidableEq, Repr

def ReportCall.perform : ReportCall → Cmd Sys Unit
  | .printf line => reportPrintf line
  | .deferPrintf line => reportDeferPrintf line
  | .flushUsb => reportFlushUsb

/-- One call after the other. -/
def reportCalls : List ReportCall → Cmd Sys Unit
  | [] => pure ()
  | call :: calls => do
    call.perform
    reportCalls calls

/-- The moments of the lines that callbacks queue at one point. -/
def arriving (arrivals : List (List Bytes)) : List Moment := (arrivals.headD []).map .line

/-- The moments of `report_flush_usb`, and the lines that are still to arrive after it. -/
def flushMoments (arrivals : List (List Bytes)) : List Moment :=
  arriving arrivals ++ arriving arrivals.tail ++ [.take] ++ arriving arrivals.tail.tail ++ [.print]

/-- The moments of a call. -/
def ReportCall.moments : ReportCall → List (List Bytes) → List Moment
  | .printf line, arrivals =>
    arriving arrivals ++ [.line line] ++ if line ≠ [] then flushMoments arrivals.tail else []
  | .deferPrintf line, arrivals => arriving arrivals ++ [.line line]
  | .flushUsb, arrivals => flushMoments arrivals

/-- The lines that arrive after a call. -/
def ReportCall.later : ReportCall → List (List Bytes) → List (List Bytes)
  | .printf line, arrivals => if line ≠ [] then arrivals.drop 4 else arrivals.drop 1
  | .deferPrintf _, arrivals => arrivals.drop 1
  | .flushUsb, arrivals => arrivals.drop 3

/-- The moments of a sequence of calls, in the order of the lock. -/
def schedule : List ReportCall → List (List Bytes) → List Moment
  | [], _ => []
  | call :: calls, arrivals => call.moments arrivals ++ schedule calls (call.later arrivals)

/-- The display shows what the state says; `old` was there before. -/
structure Shows (old : Bytes) (arrivals : List (List Bytes)) (s : Sys) (d : Display) : Prop where
  report : s.report = d.report
  usb : s.usb = d.usb
  usbText : s.usbText = old ++ d.screen
  arrivals : s.arrivals = arrivals
  connected : ∀ c ∈ s.connected, c = true

/-- A command goes through moments of the display. -/
def Runs (old : Bytes) (c : Cmd Sys Unit) (moments : List Moment)
    (arrivals later : List (List Bytes)) : Prop :=
  ∀ s d, Shows old arrivals s d → d.taken = none →
    wp c (fun _ t => ∃ e, Display.run moments d = some e ∧ Shows old later t e ∧ e.taken = none)
      (fun _ => False) s

variable {old : Bytes} {arrivals : List (List Bytes)} {s : Sys} {d : Display}

theorem Shows.format (h : Shows old arrivals s d) (line : Bytes) :
    Shows old arrivals (s.format line) (d.line line) := by
  by_cases hne : line = []
  · rw [hne, Display.line_nil]
    exact h
  have hformat : s.format line =
      { s with
        report := s.report.keep line
        usb := s.usb.put (lineText line)
        submitted := if s.report.closed then s.submitted else s.submitted ++ [line] } := by
    unfold Sys.format
    exact if_neg hne
  rw [hformat]
  refine ⟨?_, ?_, ?_, h.arrivals, h.connected⟩
  · rw [d.report_line hne, ← h.report]
  · rw [d.usb_line hne, ← h.usb]
  · unfold Display.screen
    rw [d.printed_line]
    exact h.usbText

theorem Shows.lines (h : Shows old arrivals s d) (lines : List Bytes) :
    Shows old arrivals (lines.foldl (fun s line => s.format line) s)
      (lines.foldl (fun d line => d.line line) d) := by
  induction lines generalizing s d with
  | nil => exact h
  | cons line lines ih => exact ih (h.format line)

/-- Lines are moments that are always possible. -/
theorem run_lines (lines : List Bytes) (d : Display) :
    Display.run (lines.map .line) d = some (lines.foldl (fun d line => d.line line) d) ∧
      (lines.foldl (fun d line => d.line line) d).taken = d.taken := by
  induction lines generalizing d with
  | nil => exact ⟨rfl, rfl⟩
  | cons line lines ih =>
    obtain ⟨hrun, htaken⟩ := ih (d.line line)
    exact ⟨hrun, htaken.trans (d.taken_line line)⟩

/-- **A point where the critical section is free.** -/
theorem Shows.arrive (h : Shows old arrivals s d) :
    ∃ e, Display.run (arriving arrivals) d = some e ∧ Shows old arrivals.tail s.arrive e ∧
      e.taken = d.taken := by
  unfold arriving Sys.arrive
  rw [h.arrivals]
  cases arrivals with
  | nil => exact ⟨d, rfl, h, rfl⟩
  | cons lines rest =>
    obtain ⟨hrun, htaken⟩ := run_lines lines d
    have hs : Shows old rest { s with arrivals := rest } d :=
      ⟨h.report, h.usb, h.usbText, rfl, h.connected⟩
    exact ⟨_, hrun, hs.lines lines, htaken⟩

/-- One run after the other. -/
theorem run_trans {moments more : List Moment} {d e f : Display}
    (h : Display.run moments d = some e) (h' : Display.run more e = some f) :
    Display.run (moments ++ more) d = some f := by
  rw [Display.run_append, h]
  exact h'

/-- **`report_flush_usb`**: lines may arrive before the text is taken, and before it is printed. -/
theorem runs_reportFlushUsb (arrivals : List (List Bytes)) :
    Runs old reportFlushUsb (flushMoments arrivals) arrivals (arrivals.drop 3) := by
  intro s d h hfree
  unfold reportFlushUsb await
  rw [wp_bind, wp_modify]
  obtain ⟨d₁, hrun₁, h₁, hfree₁⟩ := h.arrive
  rw [hfree] at hfree₁
  generalize s.arrive = s₁ at h₁ ⊢
  rw [wp_bind, wp_get, wp_bind, wp_set]
  have hconnected : s₁.connected.headD true = true := by
    cases hcases : s₁.connected with
    | nil => rfl
    | cons c rest =>
      apply h₁.connected c
      rw [hcases]
      exact List.mem_cons_self
  rw [if_neg (by rw [hconnected]; exact Bool.true_eq_false_eq_False)]
  have h₁' : Shows old arrivals.tail { s₁ with connected := s₁.connected.tail } d₁ :=
    ⟨h₁.report, h₁.usb, h₁.usbText, h₁.arrivals,
      fun c hc => h₁.connected c (List.mem_of_mem_tail hc)⟩
  generalize { s₁ with connected := s₁.connected.tail } = s₁' at h₁' ⊢
  rw [wp_bind, wp_modify]
  obtain ⟨d₂, hrun₂, h₂, hfree₂⟩ := h₁'.arrive
  rw [hfree₁] at hfree₂
  generalize s₁'.arrive = s₂ at h₂ ⊢
  rw [wp_bind, wp_get, wp_bind, wp_set, wp_bind, wp_modify]
  -- the critical section of the flush
  have htake : Display.run [.take] d₂ = some d₂.take := by
    show (if d₂.taken = none then some d₂.take else none).bind _ = _
    rw [if_pos hfree₂]
    rfl
  have h₃ : Shows old arrivals.tail.tail { s₂ with usb := s₂.usb.drop s₂.usb.front.length }
      d₂.take := by
    refine ⟨h₂.report, ?_, h₂.usbText, h₂.arrivals, h₂.connected⟩
    show _ = d₂.usb.drop d₂.usb.front.length
    rw [← h₂.usb]
  obtain ⟨d₃, hrun₃, h₄, htaken⟩ := h₃.arrive
  generalize Sys.arrive _ = s₃ at h₄ ⊢
  rw [wp_modify]
  have hprint : Display.run [.print] d₃ = some (d₃.print (d₂.usb.front, d₂.usb.overflow)) := by
    show (d₃.taken.map fun piece => d₃.print piece).bind _ = _
    rw [htaken]
    rfl
  refine ⟨d₃.print (d₂.usb.front, d₂.usb.overflow), ?_, ?_, rfl⟩
  · exact run_trans (run_trans (run_trans (run_trans hrun₁ hrun₂) htake) hrun₃) hprint
  · refine ⟨h₄.report, h₄.usb, ?_, ?_, h₄.connected⟩
    · show s₃.usbText ++ s₂.usb.front ++ _ = old ++ (d₃.print _).screen
      unfold Display.screen Display.print
      rw [List.flatMap_append, List.flatMap_singleton, ← List.append_assoc, h₄.usbText, h₂.usb,
        List.append_assoc (old ++ _)]
      rfl
    · show s₃.arrivals = _
      rw [h₄.arrivals, ← List.drop_one, ← List.drop_one, ← List.drop_one, List.drop_drop,
        List.drop_drop]

/-- `report_defer_printf`. -/
theorem runs_reportDeferPrintf (line : Bytes) (arrivals : List (List Bytes)) :
    Runs old (reportDeferPrintf line) (arriving arrivals ++ [.line line]) arrivals
      (arrivals.drop 1) := by
  intro s d h hfree
  unfold reportDeferPrintf await
  rw [wp_bind, wp_modify, wp_modify]
  obtain ⟨d₁, hrun₁, h₁, hfree₁⟩ := h.arrive
  refine ⟨d₁.line line, run_trans hrun₁ rfl, ?_, ?_⟩
  · rw [List.drop_one]
    exact h₁.format line
  · rw [d₁.taken_line, hfree₁, hfree]

/-- `report_printf`. -/
theorem runs_reportPrintf (line : Bytes) (arrivals : List (List Bytes)) :
    Runs old (reportPrintf line) ((ReportCall.printf line).moments arrivals) arrivals
      ((ReportCall.printf line).later arrivals) := by
  intro s d h hfree
  have hline := runs_reportDeferPrintf line arrivals s d h hfree
  -- first the line is queued, and then the ring is flushed
  have hprintf : reportPrintf line =
      (do reportDeferPrintf line; if line ≠ [] then reportFlushUsb) := by
    unfold reportPrintf reportDeferPrintf
    rw [bind_assoc]
  rw [hprintf, wp_bind]
  refine wp_mono hline ?_ fun _ hfalse => hfalse
  rintro _ t ⟨e, hrun, ht, he⟩
  unfold ReportCall.moments ReportCall.later
  by_cases hne : line ≠ []
  · rw [if_pos hne]
    have hflush := runs_reportFlushUsb (arrivals.drop 1) t e ht he
    refine wp_mono hflush ?_ fun _ hfalse => hfalse
    rintro _ t' ⟨e', hrun', ht', he'⟩
    rw [List.drop_one] at hrun'
    rw [List.drop_drop] at ht'
    refine ⟨e', ?_, ?_, he'⟩
    · show Display.run (_ ++ _ ++ if line ≠ [] then _ else _) d = _
      rw [if_pos hne]
      exact run_trans hrun hrun'
    · show Shows old (if line ≠ [] then _ else _) t' e'
      rw [if_pos hne]
      exact ht'
  · rw [if_neg hne, wp_pure]
    refine ⟨e, ?_, ?_, he⟩
    · show Display.run (_ ++ _ ++ if line ≠ [] then _ else _) d = _
      rw [if_neg hne, List.append_nil]
      exact hrun
    · show Shows old (if line ≠ [] then _ else _) t e
      rw [if_neg hne]
      exact ht

theorem ReportCall.runs (call : ReportCall) (arrivals : List (List Bytes)) :
    Runs old call.perform (call.moments arrivals) arrivals (call.later arrivals) := by
  cases call with
  | printf line => exact runs_reportPrintf line arrivals
  | deferPrintf line => exact runs_reportDeferPrintf line arrivals
  | flushUsb => exact runs_reportFlushUsb arrivals

/-- **Calls of the main thread are runs of the display**, whatever arrives between. -/
theorem runs_reportCalls (calls : List ReportCall) (arrivals : List (List Bytes)) :
    ∃ later, Runs old (reportCalls calls) (schedule calls arrivals) arrivals later := by
  induction calls generalizing arrivals with
  | nil => exact ⟨arrivals, fun s d h hfree => ⟨d, rfl, h, hfree⟩⟩
  | cons call calls ih =>
    obtain ⟨later, hcalls⟩ := ih (call.later arrivals)
    refine ⟨later, ?_⟩
    intro s d h hfree
    unfold reportCalls schedule
    rw [wp_bind]
    refine wp_mono (call.runs arrivals s d h hfree) ?_ fun _ hfalse => hfalse
    rintro _ t ⟨e, hrun, ht, he⟩
    refine wp_mono (hcalls t e ht he) ?_ fun _ hfalse => hfalse
    rintro _ t' ⟨e', hrun', ht', he'⟩
    exact ⟨e', run_trans hrun hrun', ht', he'⟩

/-- **The display queue.**  In every run of the display, from `report_init` on, what was printed,
what is in hand and what is in the ring are the accepted lines in the order of the lock, and the
counters are in their ranges.  A line that fits is accepted whole; otherwise it is dropped whole,
and the next flush prints the notice.  The text for the saved run does not depend on that.

Calls of the main thread, with lines of callbacks wherever the lock is free, are such runs as long
as the display is connected. -/
theorem usbDisplay_queue :
    (∀ (queue : Buffer UInt8 4096) (moments : List Moment) (d : Display),
      Display.run moments (.start queue) = some d →
      d.written ++ d.inHand ++ d.usb.text = d.accepted.flatten ∧
        d.usb.head < 4096 ∧ d.usb.length ≤ 4096 ∧ d.usb.text.length = d.usb.length ∧
        (∀ line ≠ [], (d.line line).report = d.report.keep line ∧
          (d.usb.length + (lineText line).length ≤ 4096 →
            (d.line line).accepted = d.accepted ++ [lineText line] ∧
              (d.line line).usb.text = d.usb.text ++ lineText line ∧
              (d.line line).dropped = d.dropped) ∧
          (4096 < d.usb.length + (lineText line).length →
            (d.line line).accepted = d.accepted ∧ (d.line line).usb.text = d.usb.text ∧
              (d.line line).dropped = d.dropped ++ [lineText line])) ∧
        (d.taken = none →
          d.take.taken = some (d.usb.text.take 512, decide (d.dropped ≠ [])) ∧
            d.take.usb.text = d.usb.text.drop 512 ∧ d.take.dropped = []) ∧
        (∀ piece, d.taken = some piece → (d.print piece).screen = d.screen ++
          (piece.1 ++ if piece.2 then ascii usbOverflowNote else []))) ∧
    (∀ (calls : List ReportCall) (s : Sys), (∀ c ∈ s.connected, c = true) →
      ∃ t d, exec (reportCalls calls) (reportInit s) = (some (), t) ∧
        Display.run (schedule calls s.arrivals) (.start s.usb.queue) = some d ∧
        t.report = d.report ∧ t.usb = d.usb ∧ t.usbText = s.usbText ++ d.screen ∧
        d.written ++ t.usb.text = d.accepted.flatten) := by
  constructor
  · intro queue moments d hrun
    -- the invariant of the display says all of this about one state
    have h := (Display.kept_start queue).run hrun
    refine ⟨h.queued, h.bounded.head_lt, h.bounded.length_le, d.usb.length_text, ?_, ?_, ?_⟩
    · intro line hne
      refine ⟨d.report_line hne, ?_, ?_⟩
      · intro hfits
        obtain ⟨-, haccepted, hdropped, htext⟩ := h.line_fits hne hfits
        exact ⟨haccepted, htext, hdropped⟩
      · intro hfull
        obtain ⟨-, haccepted, hdropped, htext⟩ := h.line_drops hne (Nat.not_le.mpr hfull)
        exact ⟨haccepted, htext, hdropped⟩
    · intro hfree
      exact (h.take hfree).2
    · intro piece htaken
      exact (h.print htaken).2
  · intro calls s hconnected
    -- a call of the main thread is a run of the display, so the invariant applies
    obtain ⟨later, hruns⟩ : ∃ later, Runs s.usbText (reportCalls calls)
        (schedule calls s.arrivals) s.arrivals later := runs_reportCalls calls s.arrivals
    have hstart : Shows s.usbText s.arrivals (reportInit s) (.start s.usb.queue) :=
      ⟨rfl, rfl, (List.append_nil _).symm, rfl, hconnected⟩
    have hwp := hruns _ _ hstart rfl
    unfold wp at hwp
    rcases hexec : exec (reportCalls calls) (reportInit s) with ⟨_ | a, t⟩
    · rw [hexec] at hwp
      exact hwp.elim
    · rw [hexec] at hwp
      obtain ⟨d, hrun, hshows, hfree⟩ := hwp
      have hqueued := ((Display.kept_start s.usb.queue).run hrun).queued
      -- no call leaves a piece in hand
      unfold Display.inHand at hqueued
      rw [hfree] at hqueued
      refine ⟨t, d, rfl, hrun, hshows.report, hshows.usb, hshows.usbText, ?_⟩
      rw [hshows.usb, ← hqueued]
      show _ = d.written ++ [] ++ d.usb.text
      rw [List.append_nil]

/-- Nine long lines: the ring has room for eight. -/
def nineLines : List Moment := List.replicate 9 (.line (List.replicate 511 65))

theorem usbDisplay_queue_nineLines :
    (∃ d, Display.run nineLines (.start newRobot.usb.queue) = some d ∧
      d.written ++ d.inHand ++ d.usb.text = d.accepted.flatten ∧
      (d.line [65]).usb.text = d.usb.text ++ [65] ∧
      (d.line (List.replicate 511 65)).usb.text = d.usb.text ∧
      d.take.taken = some (d.usb.text.take 512, true)) ∧
    ∃ t, ∃ d : Display, exec (reportCalls [.printf (ascii "ok")]) (reportInit newRobot) =
        (some (), t) ∧
      t.usbText = d.screen ∧ d.written ++ t.usb.text = d.accepted.flatten := by
  constructor
  · have hrun : (Display.run nineLines (.start newRobot.usb.queue)).map
        (fun d => (d.usb.length, d.dropped.length, d.taken)) = some (4088, 1, none) := by
      decide +kernel
    obtain ⟨d, hd, hnotes⟩ := Option.map_eq_some_iff.mp hrun
    obtain ⟨hlength, hdropped, htaken⟩ : d.usb.length = 4088 ∧ d.dropped.length = 1 ∧
        d.taken = none := by
      simpa using hnotes
    obtain ⟨hqueue, -, -, -, hline, htake, -⟩ :=
      usbDisplay_queue.1 newRobot.usb.queue nineLines d hd
    have hshort := (hline [65] (by decide)).2.1 (by rw [hlength]; decide)
    have hlong := (hline (List.replicate 511 65) (by decide)).2.2 (by rw [hlength]; decide +kernel)
    have hsome : d.dropped ≠ [] := by
      rintro hnil
      rw [hnil] at hdropped
      exact absurd hdropped (by decide)
    refine ⟨d, hd, hqueue, hshort.2.1, hlong.2.1, ?_⟩
    rw [(htake htaken).1, decide_eq_true hsome]
  · obtain ⟨t, d, hexec, -, -, -, htext, hqueue⟩ :=
      usbDisplay_queue.2 [.printf (ascii "ok")] newRobot nofun
    exact ⟨t, d, hexec, htext, hqueue⟩

end ReportStore
