/-
# The tone player (`common/buzzer.c`)

A pattern plays from a timer alarm: `next_note` runs whenever the alarm goes off, sets the next
tone and says how long it lasts, or ends the pattern.  `start_pattern` replaces what is playing.
Both run with interrupts disabled or in the interrupt, so each is one move of the system.

The alarm pool of the SDK is a list of pending alarms.  An alarm may go off late.  When its
callback asks for a further time, the pool alone decides from which moment that time counts:
`rearm due now again` is the next due time, and all that is used of it is `Rearms`, that it lies
between `due + again` and `now + again`.

The PWM divider of a tone is left out: a tone is its frequency, and 0 is silence.
-/
import GettingThere.Timetable
import GettingThere.Transition

namespace TonePlayer

/-- `buzzer_note_t`; a note lasts at least 1 ms. -/
structure Note where
  freqHz : UInt16
  ms : ℕ
  ms_pos : 1 ≤ ms
  deriving DecidableEq, Repr

/-- The statics of `buzzer.c`, with the pattern as a list and the tone that was set last. -/
structure Buzzer where
  initialised : Bool
  pattern : List Note
  patternIndex : ℕ
  patternRepeat : Bool
  patternLoopFrom : ℕ
  alarm : ℤ
  playing : Bool
  tone : UInt16
  deriving DecidableEq

/-- An alarm of the pool that runs `next_note`; times are in microseconds. -/
structure Alarm where
  id : ℤ
  due : ℕ
  deriving DecidableEq, Repr

/-- The player, the alarms it has asked for and the clock. -/
structure Sys where
  buzzer : Buzzer
  alarms : List Alarm
  now : ℕ
  deriving DecidableEq

/-- The statics before `buzzer_init`. -/
def Buzzer.boot : Buzzer where
  initialised := false
  pattern := []
  patternIndex := 0
  patternRepeat := false
  patternLoopFrom := 0
  alarm := 0
  playing := false
  tone := 0

/-- `buzzer_init`; `validPin` says that the pin has a PWM slice. -/
def buzzerInit (validPin : Bool) (b : Buzzer) : Buzzer :=
  if validPin then { b with tone := 0, initialised := true } else b

/-- `set_tone`. -/
def Buzzer.setTone (freqHz : UInt16) (b : Buzzer) : Buzzer := { b with tone := freqHz }

/-- The note at `pattern_index` sounds, and how long it lasts in microseconds. -/
def soundNote (b : Buzzer) : Buzzer × ℕ :=
  match b.pattern[b.patternIndex]? with
  | some note => (b.setTone note.freqHz, note.ms * 1000)
  | none => (b, 0)

/-- `next_note`, with the time it returns; 0 ends the alarm. -/
def nextNote (b : Buzzer) : Buzzer × ℕ :=
  let b := { b with patternIndex := b.patternIndex + 1 }
  if b.pattern.length ≤ b.patternIndex then
    if b.patternRepeat then soundNote { b with patternIndex := b.patternLoopFrom }
    else ({ b.setTone 0 with playing := false, alarm := 0 }, 0)
  else soundNote b

/-- `cancel_alarm(alarm)`, when there is one. -/
def Sys.cancelAlarm (s : Sys) : Sys :=
  { s with
    alarms := if 0 < s.buzzer.alarm then s.alarms.filter (·.id ≠ s.buzzer.alarm) else s.alarms }

/-- `start_pattern`; `granted` is what `add_alarm_in_ms` returns. -/
def startPattern (notes : List Note) (again : Bool) (loopFrom : ℕ) (granted : ℤ) (s : Sys) : Sys :=
  if s.buzzer.initialised = false then s
  else
    let s := s.cancelAlarm
    let b := { s.buzzer with
      alarm := 0
      pattern := notes
      patternIndex := 0
      patternRepeat := again
      patternLoopFrom := if loopFrom < notes.length then loopFrom else 0
      playing := decide (0 < notes.length) }
    match notes with
    | [] => { s with buzzer := b.setTone 0 }
    | note :: _ =>
      if granted ≤ 0 then
        { s with buzzer := { b.setTone 0 with playing := false, alarm := 0 } }
      else
        { s with
          buzzer := { b.setTone note.freqHz with alarm := granted }
          alarms := s.alarms ++ [⟨granted, s.now + note.ms * 1000⟩] }

/-- `buzzer_play`. -/
def buzzerPlay (notes : List Note) (again : Bool) (granted : ℤ) : Sys → Sys :=
  startPattern notes again 0 granted

/-- `buzzer_play_looping_tail`. -/
def buzzerPlayLoopingTail (notes : List Note) (loopFrom : ℕ) (granted : ℤ) : Sys → Sys :=
  startPattern notes true loopFrom granted

/-- `buzzer_stop`. -/
def buzzerStop : Sys → Sys := startPattern [] false 0 0

/-- `buzzer_busy`. -/
def buzzerBusy (s : Sys) : Bool := s.buzzer.playing

/-! ## The system -/

variable (rearm : ℕ → ℕ → ℕ → ℕ)

/-- An alarm has gone off: it is gone, or due again. -/
def rearmed (a : Alarm) (again : ℕ) (s : Sys) : List Alarm :=
  if again = 0 then s.alarms.erase a
  else s.alarms.map fun x => if x = a then { a with due := rearm a.due s.now again } else x

/-- The timer interrupt runs `next_note` for an alarm that is due. -/
def interrupt (a : Alarm) (s : Sys) : Option Sys :=
  if a ∈ s.alarms ∧ a.due ≤ s.now then
    let (b, again) := nextNote s.buzzer
    some { s with buzzer := b, alarms := rearmed rearm a again s }
  else none

/-- What can happen next. -/
inductive Action
  | wait (us : ℕ)
  | interrupt (a : Alarm)
  | play (notes : List Note) (again : Bool) (granted : ℤ)
  | playLoopingTail (notes : List Note) (loopFrom : ℕ) (granted : ℤ)
  | stop
  deriving DecidableEq

/-- The pool gives a new alarm a number that no pending one has. -/
def Fresh (granted : ℤ) (s : Sys) : Prop := ∀ a ∈ s.cancelAlarm.alarms, a.id ≠ granted

instance (granted : ℤ) (s : Sys) : Decidable (Fresh granted s) :=
  inferInstanceAs (Decidable (∀ a ∈ s.cancelAlarm.alarms, a.id ≠ granted))

/-- One move of the system. -/
def step (s : Sys) : Action → Option Sys
  | .wait us => some { s with now := s.now + us }
  | .interrupt a => interrupt rearm a s
  | .play notes again granted =>
    if Fresh granted s then some (buzzerPlay notes again granted s) else none
  | .playLoopingTail notes loopFrom granted =>
    if Fresh granted s then some (buzzerPlayLoopingTail notes loopFrom granted s) else none
  | .stop => some (buzzerStop s)

/-- The system after `buzzer_init`. -/
def Sys.boot (validPin : Bool) : Sys := ⟨buzzerInit validPin .boot, [], 0⟩

/-- What the pool does with an alarm whose callback asks for a further time. -/
def Rearms : Prop := ∀ due now again : ℕ, due ≤ now →
  due + again ≤ rearm due now again ∧ rearm due now again ≤ now + again

end TonePlayer
