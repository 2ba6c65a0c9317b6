/-
# What the tone player plays

`playing_is_sound`: in every run a tone sounds only while an alarm is pending that will end it, and
there is never more than one.

`plays_timetable`: a pattern that is not replaced follows its timetable.  When no alarm goes off
more than `ε` late, the note that sounds is the `k`-th of the timetable, it has not begun early,
and it is late by at most `ε` for each note before it.  With `ε = 0` the tone at a moment is the one
the timetable has there.
-/
import GettingThere.Cues

namespace TonePlayer

open Timetable

variable {rearm : ℕ → ℕ → ℕ → ℕ} {s t : Sys} {a : Alarm}

/-! ## One alarm at the most -/

/-- The player is silent, or a note sounds that its one alarm will end. -/
inductive Standing (s : Sys) : Prop
  | silent (halarm : s.buzzer.alarm = 0) (hplaying : s.buzzer.playing = false)
      (htone : s.buzzer.tone = 0) (halarms : s.alarms = [])
  | sounding {note : Note} {due : ℕ} (halarm : 0 < s.buzzer.alarm)
      (hplaying : s.buzzer.playing = true)
      (hnote : s.buzzer.pattern[s.buzzer.patternIndex]? = some note)
      (hloop : s.buzzer.patternLoopFrom < s.buzzer.pattern.length)
      (htone : s.buzzer.tone = note.freqHz) (halarms : s.alarms = [⟨s.buzzer.alarm, due⟩])

/-- The alarms of a player that stands are cancelled with its own. -/
theorem Standing.cancelAlarm (h : Standing s) : s.cancelAlarm.alarms = [] := by
  unfold Sys.cancelAlarm
  cases h with
  | silent halarm hplaying htone halarms => simp [halarm, halarms]
  | sounding halarm hplaying hnote hloop htone halarms => simp [halarm, halarms]

/-- A pattern that was started sounds from its first note on. -/
structure Started (notes : List Note) (again : Bool) (loop : ℕ) (s t : Sys) : Prop where
  pattern : t.buzzer.pattern = notes
  index : t.buzzer.patternIndex = 0
  again : t.buzzer.patternRepeat = again
  loop : t.buzzer.patternLoopFrom = if loop < notes.length then loop else 0
  now : t.now = s.now
  alarm : 0 < t.buzzer.alarm
  playing : t.buzzer.playing = true
  note : ∃ note, notes[0]? = some note ∧ t.buzzer.tone = note.freqHz ∧
    t.alarms = [⟨t.buzzer.alarm, s.now + note.ms * 1000⟩]

/-- What `start_pattern` leaves behind. -/
theorem startPattern_cases (h : Standing s) (notes : List Note) (again : Bool) (loopFrom : ℕ)
    (granted : ℤ) :
    let t := startPattern notes again loopFrom granted s
    (s.buzzer.initialised = false ∧ t = s) ∨ Started notes again loopFrom s t ∨
      (t.buzzer.alarm = 0 ∧ t.buzzer.playing = false ∧ t.buzzer.tone = 0 ∧ t.alarms = []) := by
  intro t
  have hcancel := h.cancelAlarm
  by_cases hinit : s.buzzer.initialised = false
  · exact .inl ⟨hinit, if_pos hinit⟩
  cases notes with
  | nil =>
    have ht : t = { s.cancelAlarm with
        buzzer := Buzzer.setTone 0 { s.cancelAlarm.buzzer with
          alarm := 0, pattern := [], patternIndex := 0, patternRepeat := again
          patternLoopFrom := 0, playing := false } } := if_neg hinit
    rw [ht]
    exact .inr (.inr ⟨rfl, rfl, rfl, hcancel⟩)
  | cons note rest =>
    by_cases hgranted : granted ≤ 0
    · have ht : t = { s.cancelAlarm with
          buzzer := { s.cancelAlarm.buzzer with
            alarm := 0, pattern := note :: rest, patternIndex := 0, patternRepeat := again
            patternLoopFrom := if loopFrom < (note :: rest).length then loopFrom else 0
            playing := false, tone := 0 } } := (if_neg hinit).trans (if_pos hgranted)
      rw [ht]
      exact .inr (.inr ⟨rfl, rfl, rfl, hcancel⟩)
    · have ht : t = { s.cancelAlarm with
          buzzer := { s.cancelAlarm.buzzer with
            alarm := granted, pattern := note :: rest, patternIndex := 0, patternRepeat := again
            patternLoopFrom := if loopFrom < (note :: rest).length then loopFrom else 0
            playing := true, tone := note.freqHz }
          alarms := s.cancelAlarm.alarms ++ [⟨granted, s.now + note.ms * 1000⟩] } :=
        (if_neg hinit).trans (if_neg hgranted)
      rw [ht]
      exact .inr (.inl ⟨rfl, rfl, rfl, rfl, rfl, not_le.mp hgranted, rfl, note, rfl, rfl, by
        rw [hcancel]
        rfl⟩)

theorem Started.standing {notes : List Note} {again : Bool} {loop : ℕ}
    (h : Started notes again loop s t) : Standing t := by
  obtain ⟨note, hnote, htone, halarms⟩ := h.note
  have hlength : 0 < notes.length := (List.getElem?_eq_some_iff.mp hnote).1
  refine .sounding h.alarm h.playing (?_ : _ = some note) ?_ htone halarms
  · rw [h.pattern, h.index, hnote]
  · rw [h.loop, h.pattern]
    split
    · assumption
    · exact hlength

theorem standing_startPattern (h : Standing s) (notes : List Note) (again : Bool) (loopFrom : ℕ)
    (granted : ℤ) : Standing (startPattern notes again loopFrom granted s) := by
  rcases startPattern_cases h notes again loopFrom granted with ⟨-, heq⟩ | hstarted | hsilent
  · rw [heq]
    exact h
  · exact hstarted.standing
  · exact .silent hsilent.1 hsilent.2.1 hsilent.2.2.1 hsilent.2.2.2

/-- The note after one at `index`. -/
def nextIndex (b : Buzzer) : ℕ :=
  if b.patternIndex + 1 < b.pattern.length then b.patternIndex + 1 else b.patternLoopFrom

/-- `next_note` goes on with the pattern. -/
theorem nextNote_of_more {b : Buzzer} {note : Note}
    (hmore : b.patternIndex + 1 < b.pattern.length ∨ b.patternRepeat = true)
    (hnote : b.pattern[nextIndex b]? = some note) :
    nextNote b = ({ b with patternIndex := nextIndex b, tone := note.freqHz }, note.ms * 1000) := by
  unfold nextNote
  simp only
  by_cases hlt : b.patternIndex + 1 < b.pattern.length
  · have hnext : nextIndex b = b.patternIndex + 1 := if_pos hlt
    rw [hnext] at hnote ⊢
    rw [if_neg (by omega), soundNote]
    simp only [hnote]
    rfl
  · have hnext : nextIndex b = b.patternLoopFrom := if_neg hlt
    rw [hnext] at hnote ⊢
    rw [if_pos (by omega), if_pos (hmore.resolve_left hlt), soundNote]
    simp only [hnote]
    rfl

/-- `next_note` ends the pattern. -/
theorem nextNote_of_last {b : Buzzer} (hlast : b.pattern.length ≤ b.patternIndex + 1)
    (honce : b.patternRepeat = false) :
    nextNote b =
      ({ b with
          patternIndex := b.patternIndex + 1
          tone := 0
          playing := false
          alarm := 0 }, 0) := by
  unfold nextNote
  simp only
  rw [if_pos hlast, honce]
  rfl

/-- The alarm of a note goes off: the pattern ends, or the next note sounds and the alarm is due
again. -/
theorem interrupt_cases {due : ℕ} (hloop : s.buzzer.patternLoopFrom < s.buzzer.pattern.length)
    (halarms : s.alarms = [⟨s.buzzer.alarm, due⟩]) (hstep : interrupt rearm a s = some t) :
    due ≤ s.now ∧ t.now = s.now ∧
      ((s.buzzer.pattern.length ≤ s.buzzer.patternIndex + 1 ∧ s.buzzer.patternRepeat = false ∧
          t.buzzer.alarm = 0 ∧ t.buzzer.playing = false ∧ t.buzzer.tone = 0 ∧ t.alarms = []) ∨
        ∃ note, (s.buzzer.patternIndex + 1 < s.buzzer.pattern.length ∨
            s.buzzer.patternRepeat = true) ∧
          s.buzzer.pattern[nextIndex s.buzzer]? = some note ∧
          t.buzzer = { s.buzzer with patternIndex := nextIndex s.buzzer, tone := note.freqHz } ∧
          t.alarms = [⟨s.buzzer.alarm, rearm due s.now (note.ms * 1000)⟩]) := by
  unfold interrupt at hstep
  split at hstep
  · rename_i hdue
    obtain ⟨hmem, hpast⟩ := hdue
    rw [halarms, List.mem_singleton] at hmem
    subst hmem
    refine ⟨hpast, ?_⟩
    by_cases hmore : s.buzzer.patternIndex + 1 < s.buzzer.pattern.length ∨
        s.buzzer.patternRepeat = true
    · have hlt : nextIndex s.buzzer < s.buzzer.pattern.length := by
        unfold nextIndex
        split
        · assumption
        · exact hloop
      obtain ⟨note, hnote⟩ : ∃ note, s.buzzer.pattern[nextIndex s.buzzer]? = some note :=
        ⟨_, List.getElem?_eq_getElem hlt⟩
      have hms := note.ms_pos
      rw [nextNote_of_more hmore hnote] at hstep
      cases hstep
      refine ⟨rfl, .inr ⟨note, hmore, hnote, rfl, ?_⟩⟩
      show rearmed rearm _ _ s = _
      rw [rearmed, if_neg (by omega), halarms]
      simp
    · rw [not_or] at hmore
      have honce : s.buzzer.patternRepeat = false := by simpa using hmore.2
      rw [nextNote_of_last (by omega) honce] at hstep
      cases hstep
      refine ⟨rfl, .inl ⟨by omega, honce, rfl, rfl, rfl, ?_⟩⟩
      show rearmed rearm ⟨s.buzzer.alarm, due⟩ 0 s = []
      rw [rearmed, if_pos rfl, halarms]
      simp
  · cases hstep

theorem standing_interrupt (h : Standing s) (hstep : interrupt rearm a s = some t) :
    Standing t := by
  cases h with
  | silent halarm hplaying htone halarms =>
    unfold interrupt at hstep
    rw [if_neg (by simp [halarms])] at hstep
    cases hstep
  | @sounding _ due halarm hplaying hnote hloop htone halarms =>
    obtain ⟨-, -, ⟨-, -, halarm', hplaying', htone', halarms'⟩ |
      ⟨note, -, hnote', hb, halarms'⟩⟩ := interrupt_cases hloop halarms hstep
    · exact .silent halarm' hplaying' htone' halarms'
    · rw [← show t.buzzer.alarm = s.buzzer.alarm by rw [hb]] at halarm halarms'
      refine .sounding halarm ?_ (?_ : _ = some note) ?_ ?_ halarms'
      · rw [hb]
        exact hplaying
      · rw [hb]
        exact hnote'
      · rw [hb]
        exact hloop
      · rw [hb]

/-- **Every move** leaves the player standing. -/
theorem standing_step {action : Action} (h : Standing s) (hstep : step rearm s action = some t) :
    Standing t := by
  cases action with
  | wait us =>
    cases hstep
    cases h with
    | silent halarm hplaying htone halarms => exact .silent halarm hplaying htone halarms
    | sounding halarm hplaying hnote hloop htone halarms =>
      exact .sounding halarm hplaying hnote hloop htone halarms
  | interrupt a => exact standing_interrupt h hstep
  | play notes again granted =>
    simp only [step] at hstep
    split at hstep
    · cases hstep
      exact standing_startPattern h _ _ _ _
    · cases hstep
  | playLoopingTail notes loopFrom granted =>
    simp only [step] at hstep
    split at hstep
    · cases hstep
      exact standing_startPattern h _ _ _ _
    · cases hstep
  | stop =>
    cases hstep
    exact standing_startPattern h _ _ _ _

/-- A tone sounds only while an alarm is pending that will end it. -/
structure Sound (s : Sys) : Prop where
  one : s.alarms.length ≤ 1
  named : ∀ a ∈ s.alarms, a.id = s.buzzer.alarm ∧ 0 < a.id
  busy : buzzerBusy s = true ↔ s.alarms ≠ []
  silent : buzzerBusy s = false → s.buzzer.tone = 0
  inBounds : buzzerBusy s = true → ∃ note,
    s.buzzer.pattern[s.buzzer.patternIndex]? = some note ∧ s.buzzer.tone = note.freqHz

theorem Standing.sound (h : Standing s) : Sound s := by
  cases h with
  | silent halarm hplaying htone halarms =>
    refine ⟨by simp [halarms], by simp [halarms], ?_, fun _ => htone, fun hbusy => ?_⟩
    · simp [buzzerBusy, hplaying, halarms]
    · exact absurd (hbusy.symm.trans hplaying) (by decide)
  | sounding halarm hplaying hnote hloop htone halarms =>
    refine ⟨by simp [halarms], by simpa [halarms] using halarm, ?_, fun hidle => ?_,
      fun _ => ⟨_, hnote, htone⟩⟩
    · simp [buzzerBusy, hplaying, halarms]
    · exact absurd (hidle.symm.trans hplaying) (by decide)

theorem standing_boot (validPin : Bool) : Standing (Sys.boot validPin) := by
  cases validPin <;> exact .silent rfl rfl rfl rfl

/-- **Nothing sounds without end by accident**: in every run, whatever is played, replaced and
stopped at whatever moment, and however late the alarms go off or whether the pool has any left,
at most one alarm is pending, the player is busy just while there is one, it is silent otherwise,
and the note it plays is one of its pattern. -/
theorem playing_is_sound {validPin : Bool} {actions : List Action}
    (hrun : Transition.run (step rearm) (Sys.boot validPin) actions = some s) : Sound s := by
  refine (Transition.run_invariant (I := Standing) ?_ (standing_boot validPin) hrun).sound
  exact fun s action t h hstep => standing_step h hstep

/-- Alarms that are due again after the moment their callback returns. -/
def fromReturn (_due now again : ℕ) : ℕ := now + again

theorem rearms_fromReturn : Rearms fromReturn := fun _ now again h =>
  ⟨Nat.add_le_add_right h again, le_refl (now + again)⟩

/-- Two cues in a row, the second without a free alarm. -/
theorem playing_is_sound_pass :
    ∃ s, Transition.run (step fromReturn) (Sys.boot true)
        [cuePlay .start 3, .wait 80000, .interrupt ⟨3, 80000⟩, cuePlay .pass (-1), .wait 5] =
          some s ∧
      Sound s :=
  ⟨_, rfl, playing_is_sound (show Transition.run (step fromReturn) (Sys.boot true)
    [cuePlay .start 3, .wait 80000, .interrupt ⟨3, 80000⟩, cuePlay .pass (-1), .wait 5] = some _
    from rfl)⟩

/-! ## The timetable of a pattern -/

/-- The `k`-th note that sounds. -/
def noteAt (notes : List Note) (loop k : ℕ) : Option Note := notes[place notes.length loop k]?

/-- How long the `k`-th note lasts, in microseconds. -/
def lasts (notes : List Note) (loop k : ℕ) : ℕ := (noteAt notes loop k).elim 1 (·.ms * 1000)

/-- The tone of the timetable. -/
def timetable (notes : List Note) (again : Bool) (loop elapsed : ℕ) : UInt16 :=
  let k := stepAt (lasts notes loop) elapsed
  if again = true ∨ k < notes.length then (noteAt notes loop k).elim 0 (·.freqHz) else 0

/-- What an action plays, and where it repeats. -/
def Action.plays : Action → Option (List Note × Bool × ℕ)
  | .play notes again _ => some (notes, again, 0)
  | .playLoopingTail notes loopFrom _ =>
    some (notes, true, if loopFrom < notes.length then loopFrom else 0)
  | _ => none

/-- Nothing is played or stopped, and an alarm goes off at most `ε` late. -/
def Prompt (ε : ℕ) (s : Sys) : Action → Prop
  | .wait _ => True
  | .interrupt a => s.now ≤ a.due + ε
  | _ => False

instance (ε : ℕ) (s : Sys) : ∀ action, Decidable (Prompt ε s action)
  | .wait _ => .isTrue trivial
  | .interrupt a => inferInstanceAs (Decidable (s.now ≤ a.due + ε))
  | .play .. => .isFalse id
  | .playLoopingTail .. => .isFalse id
  | .stop => .isFalse id

variable {notes : List Note} {again : Bool} {loop t₀ ε k : ℕ}

theorem lasts_pos (k : ℕ) : 0 < lasts notes loop k := by
  unfold lasts
  cases noteAt notes loop k with
  | none => exact Nat.one_pos
  | some note =>
    have := note.ms_pos
    show 0 < note.ms * 1000
    omega

/-- The `k`-th note of a pattern that was started at `t₀` sounds. -/
structure Plays (notes : List Note) (again : Bool) (loop t₀ ε k : ℕ) (s : Sys) : Prop where
  pattern : s.buzzer.pattern = notes
  index : s.buzzer.patternIndex = place notes.length loop k
  repeats : s.buzzer.patternRepeat = again
  loopsFrom : s.buzzer.patternLoopFrom = loop
  loop_lt : loop < notes.length
  more : again = true ∨ k < notes.length
  tone : ∃ note, noteAt notes loop k = some note ∧ s.buzzer.tone = note.freqHz
  begun : t₀ + starts (lasts notes loop) k ≤ s.now
  due : ∃ due, s.alarms = [⟨s.buzzer.alarm, due⟩] ∧
    t₀ + starts (lasts notes loop) (k + 1) ≤ due ∧
    due ≤ t₀ + starts (lasts notes loop) (k + 1) + k * ε

/-- The pattern goes on, or it is over and was not cut short. -/
inductive Follows (notes : List Note) (again : Bool) (loop t₀ ε : ℕ) (s : Sys) : Prop
  | playing {k : ℕ} (h : Plays notes again loop t₀ ε k s)
  | ended (honce : again = false) (hidle : buzzerBusy s = false) (htone : s.buzzer.tone = 0)
      (halarms : s.alarms = []) (hend : t₀ + starts (lasts notes loop) notes.length ≤ s.now)

/-- The alarm of the `k`-th note goes off. -/
theorem Plays.interrupt (h : Plays notes again loop t₀ ε k s) (hrearm : Rearms rearm)
    (hprompt : s.now ≤ a.due + ε) (hstep : interrupt rearm a s = some t) :
    Follows notes again loop t₀ ε t := by
  obtain ⟨due, halarms, hearly, hlate⟩ := h.due
  have ha : a.due = due := by
    unfold TonePlayer.interrupt at hstep
    split at hstep
    · rename_i hmem
      have hmem := hmem.1
      rw [halarms, List.mem_singleton] at hmem
      rw [hmem]
    · cases hstep
  rw [ha] at hprompt
  have hloop : s.buzzer.patternLoopFrom < s.buzzer.pattern.length := by
    rw [h.loopsFrom, h.pattern]
    exact h.loop_lt
  have hplace := place_succ h.loop_lt k
  have hnext : nextIndex s.buzzer = place notes.length loop (k + 1) := by
    rw [nextIndex, h.pattern, h.index, h.loopsFrom, hplace]
  obtain ⟨hpast, hnow, ⟨hlast, honce, -, hidle, htone, halarms'⟩ |
    ⟨note, hmore, hnote, hb, halarms'⟩⟩ := interrupt_cases hloop halarms hstep
  · have hk : k < notes.length := h.more.resolve_left (by rw [← h.repeats, honce]; nofun)
    rw [h.pattern, h.index, place_of_lt hk] at hlast
    have hlen : notes.length = k + 1 := by omega
    refine .ended (by rw [← h.repeats, honce]) hidle htone halarms' ?_
    rw [hlen, hnow]
    omega
  · have hpattern : s.buzzer.pattern = notes := h.pattern
    rw [hnext, hpattern] at hnote
    have hlasts : lasts notes loop (k + 1) = note.ms * 1000 := by
      rw [lasts, noteAt, hnote]
      rfl
    obtain ⟨hafter, hbefore⟩ := hrearm due s.now (note.ms * 1000) hpast
    refine .playing (k := k + 1) ⟨?_, ?_, ?_, ?_, h.loop_lt, ?_, ⟨note, hnote, ?_⟩, ?_,
      rearm due s.now (note.ms * 1000), ?_, ?_, ?_⟩
    · rw [hb]
      exact hpattern
    · rw [hb]
      exact hnext
    · rw [hb]
      exact h.repeats
    · rw [hb]
      exact h.loopsFrom
    · rcases h.more with hagain | hk
      · exact .inl hagain
      · rcases hmore with hlt | hrepeat
        · rw [hpattern, h.index, place_of_lt hk] at hlt
          exact .inr hlt
        · exact .inl (h.repeats.symm.trans hrepeat)
    · rw [hb]
    · rw [hnow]
      omega
    · rw [hb]
      exact halarms'
    · rw [starts_succ (k + 1), hlasts]
      omega
    · rw [starts_succ (k + 1), hlasts, Nat.succ_mul]
      omega

/-- A player that was set up stays so. -/
theorem initialised_step {action : Action} (h : s.buzzer.initialised = true)
    (hstep : step rearm s action = some t) : t.buzzer.initialised = true := by
  have started (notes : List Note) (again : Bool) (loopFrom : ℕ) (granted : ℤ) :
      (startPattern notes again loopFrom granted s).buzzer.initialised = true := by
    unfold startPattern
    rw [if_neg (by simp [h])]
    cases notes with
    | nil => exact h
    | cons note rest =>
      simp only
      split <;> exact h
  have hnext (b : Buzzer) : (nextNote b).1.initialised = b.initialised := by
    unfold nextNote soundNote
    simp only
    split_ifs
    · split <;> rfl
    · rfl
    · split <;> rfl
  cases action with
  | wait us =>
    cases hstep
    exact h
  | interrupt a =>
    simp only [step, interrupt] at hstep
    split at hstep
    · cases hstep
      exact (hnext s.buzzer).trans h
    · cases hstep
  | play notes again granted =>
    simp only [step] at hstep
    split at hstep
    · cases hstep
      exact started _ _ _ _
    · cases hstep
  | playLoopingTail notes loopFrom granted =>
    simp only [step] at hstep
    split at hstep
    · cases hstep
      exact started _ _ _ _
    · cases hstep
  | stop =>
    cases hstep
    exact started _ _ _ _

/-- A pattern that was just started. -/
theorem Started.follows {loopFrom : ℕ} (h : Started notes again loopFrom s t) (ε : ℕ) :
    Follows notes again (if loopFrom < notes.length then loopFrom else 0) s.now ε t := by
  obtain ⟨note, hnote, htone, halarms⟩ := h.note
  have hlength : 0 < notes.length := (List.getElem?_eq_some_iff.mp hnote).1
  have hfirst : noteAt notes (if loopFrom < notes.length then loopFrom else 0) 0 = some note := by
    rw [noteAt, place_of_lt hlength, hnote]
  have hlasts : starts (lasts notes (if loopFrom < notes.length then loopFrom else 0)) (0 + 1) =
      note.ms * 1000 := by
    rw [starts_succ, starts_zero, Nat.zero_add, lasts, hfirst]
    rfl
  refine .playing (k := 0) ⟨h.pattern, ?_, h.again, h.loop, ?_, .inr hlength, ⟨note, hfirst, htone⟩,
    ?_, _, halarms, ?_, ?_⟩
  · rw [h.index, place_of_lt hlength]
  · split
    · assumption
    · exact hlength
  · rw [starts_zero, h.now, Nat.add_zero]
  · rw [hlasts]
  · rw [hlasts, Nat.zero_mul, Nat.add_zero]

/-- **Every prompt move** follows the timetable. -/
theorem follows_step {action : Action} (hrearm : Rearms rearm)
    (h : Follows notes again loop t₀ ε s) (hprompt : Prompt ε s action)
    (hstep : step rearm s action = some t) : Follows notes again loop t₀ ε t := by
  cases action with
  | wait us =>
    cases hstep
    cases h with
    | playing h =>
      exact .playing ⟨h.pattern, h.index, h.repeats, h.loopsFrom, h.loop_lt, h.more, h.tone,
        h.begun.trans (Nat.le_add_right _ _), h.due⟩
    | ended honce hidle htone halarms hend =>
      exact .ended honce hidle htone halarms (hend.trans (Nat.le_add_right _ _))
  | interrupt a =>
    cases h with
    | playing h => exact h.interrupt hrearm hprompt hstep
    | ended honce hidle htone halarms hend =>
      simp only [step, interrupt] at hstep
      rw [if_neg (by simp [halarms])] at hstep
      cases hstep
  | play notes again granted => exact hprompt.elim
  | playLoopingTail notes loopFrom granted => exact hprompt.elim
  | stop => exact hprompt.elim

/-- Where a pattern stands that was started at `t₀`, when alarms are at most `ε` late. -/
structure OnTime (notes : List Note) (again : Bool) (loop t₀ ε : ℕ) (s : Sys) : Prop where
  /-- a note has not begun early, and it is late by `ε` for each note so far; or all is over -/
  within : (∃ k note, (again = true ∨ k < notes.length) ∧ noteAt notes loop k = some note ∧
      s.buzzer.tone = note.freqHz ∧ t₀ + starts (lasts notes loop) k ≤ s.now ∧
      s.now ≤ t₀ + starts (lasts notes loop) (k + 1) + (k + 1) * ε) ∨
    (again = false ∧ buzzerBusy s = false ∧ s.buzzer.tone = 0 ∧
      t₀ + starts (lasts notes loop) notes.length ≤ s.now)
  /-- with prompt alarms the tone is the timetable's -/
  exact : ε = 0 → (∀ a ∈ s.alarms, s.now < a.due) →
    s.buzzer.tone = timetable notes again loop (s.now - t₀)

theorem Follows.onTime (h : Follows notes again loop t₀ ε s)
    (hpending : ∀ a ∈ s.alarms, s.now ≤ a.due + ε) : OnTime notes again loop t₀ ε s := by
  cases h with
  | @playing k h =>
    obtain ⟨note, hnote, htone⟩ := h.tone
    obtain ⟨due, halarms, hearly, hlate⟩ := h.due
    have hbegun := h.begun
    constructor
    · have hnow : s.now ≤ due + ε := hpending ⟨s.buzzer.alarm, due⟩ (by simp [halarms])
      refine .inl ⟨k, note, h.more, hnote, htone, hbegun, ?_⟩
      rw [Nat.succ_mul]
      omega
    · rintro rfl hsoon
      have hnow : s.now < due := hsoon ⟨s.buzzer.alarm, due⟩ (by simp [halarms])
      have hk : stepAt (lasts notes loop) (s.now - t₀) = k :=
        stepAt_eq lasts_pos (by omega) (by omega)
      simp only [timetable, hk]
      rw [if_pos h.more, hnote, htone]
      rfl
  | ended honce hidle htone halarms hend =>
    constructor
    · exact .inr ⟨honce, hidle, htone, hend⟩
    · rintro - -
      have hk : notes.length ≤ stepAt (lasts notes loop) (s.now - t₀) := by
        have hlast : starts (lasts notes loop) notes.length ≤ s.now - t₀ := by omega
        exact Nat.le_findGreatest ((le_starts lasts_pos _).trans hlast) hlast
      simp only [timetable]
      rw [if_neg (by simp [honce, hk]), htone]

/-- **A pattern follows its timetable**: in every run in which it was started at `s.now` and not
replaced since, and whose alarms go off at most `ε` late, the notes come in the order of the
pattern and of its repetition, none begins early and none is cut short; the delay is at most `ε`
for each note; and with prompt alarms the tone at any moment is the one of the timetable. -/
theorem plays_timetable (hrearm : Rearms rearm) {before after : List Action} {action : Action}
    {x : Sys} (hrun : Transition.run (step rearm) (Sys.boot true) before = some s)
    (hplays : action.plays = some (notes, again, loop)) (hstart : step rearm s action = some t)
    (hbusy : buzzerBusy t = true) (hafter : Transition.run (step rearm) t after = some x)
    (hprompt : Transition.Along (step rearm) (Prompt ε) t after)
    (hpending : ∀ a ∈ x.alarms, x.now ≤ a.due + ε) : OnTime notes again loop s.now ε x := by
  have hstanding : Standing s :=
    Transition.run_invariant (I := Standing) (fun s action t h hstep => standing_step h hstep)
      (standing_boot true) hrun
  have hinit : s.buzzer.initialised = true :=
    Transition.run_invariant (I := fun s => s.buzzer.initialised = true)
      (fun s action t h hstep => initialised_step h hstep) rfl hrun
  have started (notes : List Note) (again : Bool) (loopFrom : ℕ) (granted : ℤ)
      (hbusy : buzzerBusy (startPattern notes again loopFrom granted s) = true) :
      Started notes again loopFrom s (startPattern notes again loopFrom granted s) := by
    rcases startPattern_cases hstanding notes again loopFrom granted with ⟨hnot, -⟩ | h | h
    · exact absurd (hinit.symm.trans hnot) (by decide)
    · exact h
    · exact absurd (hbusy.symm.trans h.2.1) (by decide)
  have hfollows : Follows notes again loop s.now ε t := by
    cases action with
    | play notes' again' granted =>
      cases hplays
      simp only [step] at hstart
      split at hstart
      · cases hstart
        have h := (started notes again 0 granted hbusy).follows ε
        rwa [ite_self] at h
      · cases hstart
    | playLoopingTail notes' loopFrom granted =>
      cases hplays
      simp only [step] at hstart
      split at hstart
      · cases hstart
        exact (started notes true loopFrom granted hbusy).follows ε
      · cases hstart
    | wait us => cases hplays
    | interrupt a => cases hplays
    | stop => cases hplays
  refine (Transition.run_invariant_along (I := Follows notes again loop s.now ε) ?_ after t x
    hfollows hprompt hafter).onTime hpending
  exact fun s action t h hC hstep => follows_step hrearm h hC hstep

/-- The beeps of `CUE_IN_RANGE` up to the second round of its tail, each alarm 1 µs late. -/
def inRangeBeeps : List Action :=
  (List.range 14).flatMap fun k =>
    [.wait (lasts inRange inRangeLoopFrom k + 1),
      .interrupt ⟨3, starts (lasts inRange inRangeLoopFrom) (k + 1) + k⟩]

/-- `CUE_IN_RANGE` is started by a player that has just been set up. -/
def inRangeStarted : Sys := startPattern inRange true inRangeLoopFrom 3 (Sys.boot true)

theorem plays_timetable_inRange :
    ∃ x, Transition.run (step fromReturn) inRangeStarted inRangeBeeps = some x ∧
      x.buzzer.tone = 3000 ∧ OnTime inRange true inRangeLoopFrom 0 1 x := by
  have hend : (Transition.run (step fromReturn) inRangeStarted inRangeBeeps).map
      (fun x => decide (x.buzzer.tone = 3000 ∧ ∀ a ∈ x.alarms, x.now ≤ a.due + 1)) = some true := by
    decide +kernel
  obtain ⟨x, hx, hsays⟩ := Option.map_eq_some_iff.mp hend
  obtain ⟨htone, hpending⟩ := of_decide_eq_true hsays
  exact ⟨x, hx, htone, plays_timetable rearms_fromReturn
    (show Transition.run (step fromReturn) (Sys.boot true) [] = some (Sys.boot true) from rfl)
    (show (cuePlay .inRange 3).plays = some (inRange, true, inRangeLoopFrom) from rfl)
    (show step fromReturn (Sys.boot true) (cuePlay .inRange 3) = some inRangeStarted from rfl)
    rfl hx (by decide +kernel) hpending⟩

end TonePlayer
