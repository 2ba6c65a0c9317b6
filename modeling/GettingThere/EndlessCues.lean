/-
# Cues that do not end by themselves

`cue_connected` of the beacon and `CUE_IN_RANGE` of the robot repeat until they are stopped.  Here
the player runs beside the code that plays and stops them.

* `connected_cue_ends`: the beacon beeps without end only while a robot is connected to it and has
  not completed its transfer;
* `in_range_cue_ends`: the robot does so only inside an attempt whose range check has passed.
-/
import GettingThere.BeaconServer
import GettingThere.AttemptRun
import GettingThere.TonePlays

namespace TonePlayer

variable {rearm : ℕ → ℕ → ℕ → ℕ} {s t : Sys}

/-- What sounds goes on until it is stopped or replaced. -/
def Endless (s : Sys) : Prop := buzzerBusy s = true ∧ s.buzzer.patternRepeat = true

instance (s : Sys) : Decidable (Endless s) := inferInstanceAs (Decidable (_ ∧ _))

/-- A player that was set up, in one of its two standings. -/
structure Ready (s : Sys) : Prop where
  standing : Standing s
  initialised : s.buzzer.initialised = true

theorem ready_boot : Ready (Sys.boot true) := ⟨standing_boot true, rfl⟩

theorem Ready.step {action : Action} (h : Ready s) (hstep : step rearm s action = some t) :
    Ready t := ⟨standing_step h.standing hstep, initialised_step h.initialised hstep⟩

/-- A pattern that was started repeats if it was asked to. -/
theorem Ready.endless_startPattern (h : Ready s) {notes : List Note} {again : Bool} {loopFrom : ℕ}
    {granted : ℤ} (hend : Endless (startPattern notes again loopFrom granted s)) :
    again = true ∧ (startPattern notes again loopFrom granted s).buzzer.pattern = notes := by
  rcases startPattern_cases h.standing notes again loopFrom granted with ⟨hnot, -⟩ | ht | ht
  · exact absurd (h.initialised.symm.trans hnot) (by decide)
  · exact ⟨ht.again.symm.trans hend.2, ht.pattern⟩
  · exact absurd (hend.1.symm.trans ht.2.1) (by decide)

/-- An endless sound was just started, or it went on. -/
theorem Ready.endless_step {action : Action} (h : Ready s)
    (hstep : TonePlayer.step rearm s action = some t) (hend : Endless t) :
    (∃ notes loop, action.plays = some (notes, true, loop) ∧ t.buzzer.pattern = notes) ∨
      (action.plays = none ∧ action ≠ .stop ∧ Endless s ∧ t.buzzer.pattern = s.buzzer.pattern) := by
  cases action with
  | wait us =>
    cases hstep
    exact .inr ⟨rfl, nofun, hend, rfl⟩
  | interrupt a =>
    right
    refine ⟨rfl, nofun, ?_⟩
    rcases h.standing with ⟨halarm, hplaying, htone, halarms⟩ |
      ⟨halarm, hplaying, hnote, hloop, htone, halarms⟩
    · simp only [TonePlayer.step, interrupt] at hstep
      rw [if_neg (by simp [halarms])] at hstep
      cases hstep
    · obtain ⟨-, -, ⟨-, -, -, hidle, -, -⟩ | ⟨note, -, -, hb, -⟩⟩ :=
        interrupt_cases hloop halarms hstep
      · exact absurd (hend.1.symm.trans hidle) (by decide)
      · have hrepeat := hend.2
        rw [hb] at hrepeat
        exact ⟨⟨hplaying, hrepeat⟩, by rw [hb]⟩
  | play notes again granted =>
    simp only [TonePlayer.step] at hstep
    split at hstep
    · cases hstep
      obtain ⟨rfl, hpattern⟩ := h.endless_startPattern hend
      exact .inl ⟨notes, 0, rfl, hpattern⟩
    · cases hstep
  | playLoopingTail notes loopFrom granted =>
    simp only [TonePlayer.step] at hstep
    split at hstep
    · cases hstep
      obtain ⟨-, hpattern⟩ := h.endless_startPattern hend
      exact .inl ⟨notes, _, rfl, hpattern⟩
    · cases hstep
  | stop =>
    cases hstep
    exact absurd (h.endless_startPattern hend).1 (by decide)

end TonePlayer

/-! ## The beacon -/

namespace BeaconServer

open TonePlayer (cueAlive cueConnected cueComplete Endless Ready)

/-- What a handler asks of the buzzer. -/
def Effect.sounds (granted : ℤ) : Effect → Option TonePlayer.Action
  | .playAlive => some (.play cueAlive false granted)
  | .playConnected => some (.play cueConnected true granted)
  | .playComplete => some (.play cueComplete false granted)
  | .buzzerStop => some .stop
  | _ => none

/-- A beacon and its tone player. -/
structure Station where
  beacon : Beacon
  player : TonePlayer.Sys

/-- What can happen to a beacon: time passes, its alarm goes off, or BTstack delivers an event;
`granted` is what the alarm pool answers to a handler that plays a cue. -/
inductive StationEvent
  | wait (us : ℕ)
  | interrupt (a : TonePlayer.Alarm)
  | event (e : Event) (granted : ℤ)

/-- One event of a beacon and its player. -/
def Station.step (cfg : Config) (rearm : ℕ → ℕ → ℕ → ℕ) (x : Station) :
    StationEvent → Option Station
  | .wait us =>
    (TonePlayer.step rearm x.player (.wait us)).map fun player => { x with player := player }
  | .interrupt a =>
    (TonePlayer.step rearm x.player (.interrupt a)).map fun player => { x with player := player }
  | .event e granted =>
    let (beacon, effects) := handle cfg x.beacon e
    (Transition.run (TonePlayer.step rearm) x.player (effects.filterMap (·.sounds granted))).map
      fun player => ⟨beacon, player⟩

/-- The beacon after `buzzer_init`. -/
def Station.boot : Station := ⟨.boot, .boot true⟩

variable {cfg : Config} {rearm : ℕ → ℕ → ℕ → ℕ} {b b' : Beacon} {granted : ℤ}

/-- A handler that leaves the buzzer and the cue alone, and completes nothing. -/
structure Quiet (granted : ℤ) (b : Beacon) (r : Beacon × List Effect) : Prop where
  cue : r.1.connectedCueOn = b.connectedCueOn
  handle : r.1.connectionHandle = b.connectionHandle
  status : r.1.beaconStatus = .complete → b.beaconStatus = .complete
  silent : r.2.filterMap (·.sounds granted) = []

theorem quiet_queueNotification (data : Bytes) (hcue : b'.connectedCueOn = b.connectedCueOn)
    (hhandle : b'.connectionHandle = b.connectionHandle)
    (hstatus : b'.beaconStatus = .complete → b.beaconStatus = .complete) :
    Quiet granted b (queueNotification data b') := by
  unfold queueNotification
  split
  · exact ⟨hcue, hhandle, hstatus, rfl⟩
  · exact ⟨hcue, hhandle, hstatus, rfl⟩

theorem quiet_sendError (reason : UInt8) (hcue : b'.connectedCueOn = b.connectedCueOn)
    (hhandle : b'.connectionHandle = b.connectionHandle) :
    Quiet granted b (sendError reason b') := by
  refine quiet_queueNotification _ hcue hhandle ?_
  show BeaconStatus.error = .complete → _
  nofun

theorem quiet_sendReplyPiece (hcue : b'.connectedCueOn = b.connectedCueOn)
    (hhandle : b'.connectionHandle = b.connectionHandle)
    (hstatus : b'.beaconStatus = .complete → b.beaconStatus = .complete) :
    Quiet granted b (sendReplyPiece b') := by
  unfold sendReplyPiece
  split_ifs
  · exact quiet_queueNotification _ hcue hhandle hstatus
  · exact quiet_queueNotification _ hcue hhandle hstatus
  · exact quiet_queueNotification _ hcue hhandle hstatus

/-- A write to the transfer characteristic is quiet, except for `MSG_COMPLETE`. -/
theorem receiveMessage_cases (buffer : Bytes) (b : Beacon) :
    Quiet granted b (receiveMessage cfg buffer b) ∨
      ((receiveMessage cfg buffer b).1.connectedCueOn = false ∧
        (receiveMessage cfg buffer b).2.filterMap (·.sounds granted) =
          [.play cueComplete false granted]) := by
  unfold receiveMessage
  split
  · left
    unfold receiveHello
    split
    · exact quiet_queueNotification _ rfl rfl nofun
    · exact quiet_sendError _ rfl rfl
  · left
    unfold receiveFileStart
    split
    · exact quiet_sendError _ rfl rfl
    simp only
    split
    · exact quiet_sendError _ rfl rfl
    · exact quiet_queueNotification _ rfl rfl nofun
  · left
    unfold receiveFileData
    split
    · exact quiet_sendError _ rfl rfl
    split
    · exact ⟨rfl, rfl, id, rfl⟩
    · exact quiet_sendError _ rfl rfl
  · left
    unfold receiveFileEnd
    refine quiet_queueNotification _ rfl rfl ?_
    simp only
    split <;> nofun
  · left
    exact quiet_sendReplyPiece rfl rfl nofun
  · left
    exact quiet_sendReplyPiece rfl rfl id
  · right
    unfold receiveComplete sendSimple queueNotification
    simp only
    split <;> exact ⟨rfl, rfl⟩
  · left
    exact quiet_sendError _ rfl rfl

/-- What a handler does to the cue, and what the player has to play for it. -/
inductive CueMove (granted : ℤ) (b b' : Beacon) : List TonePlayer.Action → Prop
  | quiet (hcue : b'.connectedCueOn = b.connectedCueOn) : CueMove granted b b' []
  | off (hcue : b.connectedCueOn = false) : CueMove granted b b' []
  | finite {notes : List TonePlayer.Note} : CueMove granted b b' [.play notes false granted]
  | stop : CueMove granted b b' [.stop]
  | connected (hcue : b'.connectedCueOn = true) :
    CueMove granted b b' [.play cueConnected true granted]

/-- **Every handler** moves the cue in one of these ways, and it turns the cue on for a connection
only. -/
theorem handle_cue (cfg : Config) (granted : ℤ) (b : Beacon) (e : Event)
    (hconnected : b.connectedCueOn = true →
      b.connectionHandle ≠ none ∧ b.beaconStatus ≠ .complete) :
    let r := handle cfg b e
    CueMove granted b r.1 (r.2.filterMap (·.sounds granted)) ∧
      (r.1.connectedCueOn = true → r.1.connectionHandle ≠ none ∧ r.1.beaconStatus ≠ .complete) := by
  have quiet {r : Beacon × List Effect} (h : Quiet granted b r) :
      CueMove granted b r.1 (r.2.filterMap (·.sounds granted)) ∧
        (r.1.connectedCueOn = true →
          r.1.connectionHandle ≠ none ∧ r.1.beaconStatus ≠ .complete) := by
    refine ⟨?_, fun hcue => ?_⟩
    · rw [h.silent]
      exact .quiet h.cue
    · obtain ⟨hhandle, hstatus⟩ := hconnected (h.cue.symm.trans hcue)
      exact ⟨by rw [h.handle]; exact hhandle, fun hcomplete => hstatus (h.status hcomplete)⟩
  cases e with
  | stackState working =>
    cases working with
    | false => exact quiet ⟨rfl, rfl, id, rfl⟩
    | true => exact ⟨.finite, fun hcue => ⟨(hconnected hcue).1, nofun⟩⟩
  | leConnectionComplete con => exact ⟨.connected rfl, fun _ => ⟨nofun, nofun⟩⟩
  | disconnectionComplete =>
    refine ⟨?_, nofun⟩
    show CueMove granted b _ ((if b.connectedCueOn = true then [Effect.buzzerStop]
      else []).filterMap (·.sounds granted))
    split
    · exact .stop
    · rename_i hcue
      exact .off (by simpa using hcue)
  | canSendNow =>
    show CueMove granted b (sendPending b).1 ((sendPending b).2.filterMap _) ∧ _
    apply quiet
    unfold sendPending
    split
    · exact ⟨rfl, rfl, id, rfl⟩
    · exact ⟨rfl, rfl, id, rfl⟩
  | attWrite con attHandle buffer =>
    cases attHandle with
    | clientConfiguration =>
      refine ⟨.quiet rfl, fun hcue => ⟨nofun, ?_⟩⟩
      show (if _ then BeaconStatus.ready else BeaconStatus.connected) ≠ .complete
      split <;> nofun
    | value =>
      by_cases hnil : buffer = []
      · have hr : handle cfg b (.attWrite con .value buffer) = (b, []) := if_pos hnil
        rw [hr]
        exact quiet ⟨rfl, rfl, id, rfl⟩
      · have hr : handle cfg b (.attWrite con .value buffer) = receiveMessage cfg buffer b :=
          if_neg hnil
        rw [hr]
        rcases receiveMessage_cases buffer b with h | ⟨hcue, hsounds⟩
        · exact quiet h
        · refine ⟨?_, fun hon => absurd (hcue.symm.trans hon) (by decide)⟩
          rw [hsounds]
          exact .finite
    | other => exact quiet ⟨rfl, rfl, id, rfl⟩
  | other => exact quiet ⟨rfl, rfl, id, rfl⟩

/-- The beacon beeps without end for a connection only. -/
structure Beeping (x : Station) : Prop where
  ready : Ready x.player
  endless : Endless x.player →
    x.beacon.connectedCueOn = true ∧ x.player.buzzer.pattern = cueConnected
  connected : x.beacon.connectedCueOn = true →
    x.beacon.connectionHandle ≠ none ∧ x.beacon.beaconStatus ≠ .complete

variable {x y : Station}

/-- The player goes on by itself. -/
theorem Beeping.goesOn (h : Beeping x) (action : TonePlayer.Action) {player : TonePlayer.Sys}
    (hplays : action.plays = none) (hstep : TonePlayer.step rearm x.player action = some player) :
    Beeping { x with player := player } := by
  refine ⟨h.ready.step hstep, fun hend => ?_, h.connected⟩
  rcases h.ready.endless_step hstep hend with ⟨notes, loop, hnew, -⟩ | ⟨-, -, hold, hpattern⟩
  · exact absurd (hplays.symm.trans hnew) nofun
  · obtain ⟨hcue, hconnected⟩ := h.endless hold
    exact ⟨hcue, hpattern.trans hconnected⟩

/-- A handler runs, and the player plays what it asks for. -/
theorem Beeping.event (h : Beeping x) {e : Event} {player : TonePlayer.Sys}
    (hrun : Transition.run (TonePlayer.step rearm) x.player
      ((handle cfg x.beacon e).2.filterMap (·.sounds granted)) = some player) :
    Beeping ⟨(handle cfg x.beacon e).1, player⟩ := by
  obtain ⟨hmove, hconnected⟩ := handle_cue cfg granted x.beacon e h.connected
  generalize (handle cfg x.beacon e).2.filterMap (·.sounds granted) = acts at hrun hmove
  have single {action : TonePlayer.Action}
      (hrun : Transition.run (TonePlayer.step rearm) x.player [action] = some player) :
      TonePlayer.step rearm x.player action = some player := by
    simpa using hrun
  cases hmove with
  | quiet hcue =>
    cases hrun
    refine ⟨h.ready, fun hend => ?_, hconnected⟩
    rw [hcue]
    exact h.endless hend
  | off hcue =>
    cases hrun
    exact ⟨h.ready, fun hend => absurd (hcue.symm.trans (h.endless hend).1) (by decide), hconnected⟩
  | finite =>
    refine ⟨h.ready.step (single hrun), fun hend => ?_, hconnected⟩
    rcases h.ready.endless_step (single hrun) hend with ⟨notes, loop, hnew, -⟩ | ⟨hnone, -⟩
    · cases hnew
    · cases hnone
  | stop =>
    refine ⟨h.ready.step (single hrun), fun hend => ?_, hconnected⟩
    rcases h.ready.endless_step (single hrun) hend with ⟨notes, loop, hnew, -⟩ | ⟨-, hnot, -⟩
    · cases hnew
    · exact absurd rfl hnot
  | connected hcue =>
    refine ⟨h.ready.step (single hrun), fun hend => ⟨hcue, ?_⟩, hconnected⟩
    rcases h.ready.endless_step (single hrun) hend with ⟨notes, loop, hnew, hpattern⟩ | ⟨hnone, -⟩
    · cases hnew
      exact hpattern
    · cases hnone

theorem beeping_step {event : StationEvent} (h : Beeping x)
    (hstep : Station.step cfg rearm x event = some y) : Beeping y := by
  cases event with
  | wait us =>
    simp only [Station.step, Option.map_eq_some_iff] at hstep
    obtain ⟨player, hplayer, rfl⟩ := hstep
    exact h.goesOn (.wait us) rfl hplayer
  | interrupt a =>
    simp only [Station.step, Option.map_eq_some_iff] at hstep
    obtain ⟨player, hplayer, rfl⟩ := hstep
    exact h.goesOn (.interrupt a) rfl hplayer
  | event e granted =>
    simp only [Station.step, Option.map_eq_some_iff] at hstep
    obtain ⟨player, hplayer, rfl⟩ := hstep
    exact h.event hplayer

theorem beeping_boot : Beeping Station.boot := by
  refine ⟨TonePlayer.ready_boot, ?_, nofun⟩
  rintro ⟨hbusy, -⟩
  cases hbusy

/-- **The beacon does not beep on**: in every run of its handlers and of its player, what sounds
without end is the connected cue, and it sounds only while a robot is connected and its transfer
is not complete. -/
theorem connected_cue_ends {events : List StationEvent}
    (hrun : Transition.run (Station.step cfg rearm) Station.boot events = some x)
    (hend : Endless x.player) :
    x.player.buzzer.pattern = cueConnected ∧ x.beacon.connectionHandle ≠ none ∧
      x.beacon.beaconStatus ≠ .complete := by
  have h : Beeping x :=
    Transition.run_invariant (I := Beeping) (fun x e y h hstep => beeping_step h hstep) beeping_boot
      hrun
  obtain ⟨hcue, hpattern⟩ := h.endless hend
  exact ⟨hpattern, h.connected hcue⟩

/-- A robot connects, and the beacon beeps for a second time. -/
def robotConnects : List StationEvent :=
  [.event (.stackState true) 1, .event (.leConnectionComplete 3) 2, .wait 80000,
    .interrupt ⟨2, 80000⟩, .wait 120000, .interrupt ⟨2, 200000⟩]

theorem connected_cue_ends_ap1 :
    ∃ x, Transition.run (Station.step .ap1 TonePlayer.fromReturn) Station.boot
        robotConnects = some x ∧
      x.player.buzzer.tone = 3000 ∧ x.player.buzzer.pattern = cueConnected ∧
      x.beacon.connectionHandle ≠ none ∧ x.beacon.beaconStatus ≠ .complete := by
  have hend : (Transition.run (Station.step .ap1 TonePlayer.fromReturn) Station.boot
      robotConnects).map (fun x => decide (x.player.buzzer.tone = 3000 ∧ Endless x.player)) =
        some true := by
    decide +kernel
  obtain ⟨x, hx, hsays⟩ := Option.map_eq_some_iff.mp hend
  obtain ⟨htone, hendless⟩ := of_decide_eq_true hsays
  exact ⟨x, hx, htone, connected_cue_ends hx hendless⟩

end BeaconServer

/-! ## The robot -/

namespace PayloadClient

open TonePlayer (RobotCue cuePlay cueStop inRange inRangeLoopFrom Endless Ready)

/-- The attempts of the robot, `in_range_cue_on` and the tone player. -/
structure CuedSys where
  sys : Sys
  inRangeCueOn : Bool
  player : TonePlayer.Sys

/-- What can happen: time passes, the alarm of the player goes off, the attempts move, or the code
around `check_payload` plays one of its cues. -/
inductive CuedAction
  | wait (us : ℕ)
  | interrupt (a : TonePlayer.Alarm)
  | act (action : Action) (granted : ℤ)
  | cue (cue : RobotCue) (granted : ℤ)

/-- The cues of the code around `check_payload` once the radio is up. -/
def RobotCue.outside : RobotCue → Bool
  | .start | .pass | .collected | .fault => true
  | .calibrating | .inRange => false

/-- `on_in_range`, and the end of the cue in `check_payload`: what the player is told, and
`in_range_cue_on` afterwards. -/
def inRangeCue (action : Action) (granted : ℤ) (x : CuedSys) : List TonePlayer.Action × Bool :=
  match action, x.sys.main.pc with
  | .main _, .announce =>
    if x.sys.client.closeConfirmed then ([cuePlay .inRange granted], true) else ([], x.inRangeCueOn)
  | .main _, .returned => (if x.inRangeCueOn then [cueStop] else [], false)
  | _, _ => ([], x.inRangeCueOn)

/-- One move of the robot with its player. -/
def CuedSys.step (robotFile : Bytes) (rearm : ℕ → ℕ → ℕ → ℕ) (x : CuedSys) :
    CuedAction → Option CuedSys
  | .wait us =>
    (TonePlayer.step rearm x.player (.wait us)).map fun player => { x with player := player }
  | .interrupt a =>
    (TonePlayer.step rearm x.player (.interrupt a)).map fun player => { x with player := player }
  | .act action granted =>
    let (sounds, cueOn) := inRangeCue action granted x
    (PayloadClient.step robotFile x.sys action).bind fun sys =>
      (Transition.run (TonePlayer.step rearm) x.player sounds).map fun player =>
        ⟨sys, cueOn, player⟩
  | .cue cue granted =>
    if x.sys.main.pc = .driving ∧ RobotCue.outside cue then
      (TonePlayer.step rearm x.player (cuePlay cue granted)).map fun player =>
        { x with player := player }
    else none

/-- The robot after `payload_client_init` and `cues_init`. -/
def CuedSys.boot : CuedSys := ⟨.boot, false, .boot true⟩

variable {robotFile : Bytes} {rearm : ℕ → ℕ → ℕ → ℕ} {world : World} {s t : Sys} {x y : CuedSys}

/-- The loop of an attempt behind its announcement of close range, or the return of the attempt. -/
structure Announced (s : Sys) : Prop where
  pc : (s.main.pc.stage = .loop ∧ s.main.pc ≠ .announce) ∨ s.main.pc = .returned
  announced : s.main.closeAnnounced = true

theorem Announced.loop (h : t.main.closeAnnounced = true) (hstage : t.main.pc.stage = .loop)
    (hpc : t.main.pc ≠ .announce) : Announced t := ⟨.inl ⟨hstage, hpc⟩, h⟩

/-- The loop does not take its announcement back. -/
theorem Announced.step (h : Announced s) (hpc : s.main.pc ≠ .returned)
    (hstep : mainStep world s = some t) : Announced t := by
  obtain ⟨hstage, hannounce⟩ := h.pc.resolve_right hpc
  have hannounced := h.announced
  have cleanup (b : Bool) : Announced (afterCleanup b s) := by
    unfold afterCleanup
    split
    · exact .loop hannounced rfl nofun
    · exact .loop hannounced rfl nofun
  unfold mainStep at hstep
  cases hs : s.main.pc <;> rw [hs] at hstage hannounce hpc <;> simp only [hs] at hstep
  case loopHead =>
    rw [if_pos hannounced] at hstep
    cases hstep
    split
    · exact .loop hannounced rfl nofun
    · exact .loop hannounced rfl nofun
  case announce => exact absurd rfl hannounce
  case elapsed =>
    cases hstep
    split
    · exact .loop hannounced rfl nofun
    · exact .loop hannounced rfl nofun
  case testClosing =>
    cases hstep
    split
    · exact cleanup true
    · exact .loop hannounced rfl nofun
  case testStopping =>
    cases hstep
    exact cleanup _
  case testAbort =>
    cases hstep
    split
    · exact .loop hannounced rfl nofun
    · exact .loop hannounced rfl nofun
  case pollStop =>
    cases hstep
    split
    · exact .loop hannounced rfl nofun
    · exact .loop hannounced rfl nofun
  case testDeadline =>
    cases hstep
    split
    · exact .loop hannounced rfl nofun
    · exact .loop hannounced rfl nofun
  case finalStop =>
    cases hstep
    split
    · exact ⟨.inr rfl, hannounced⟩
    · exact .loop hannounced rfl nofun
  case raiseRadio =>
    cases hstep
    exact ⟨.inr rfl, hannounced⟩
  case readResult =>
    cases hstep
    exact ⟨.inr rfl, hannounced⟩
  case returned => exact absurd rfl hpc
  case readClock | readPhase | failCleanup | readTimeout | setAbort | queueAbort =>
    cases hstep
    exact .loop hannounced rfl nofun
  all_goals cases hstage

theorem Announced.congr (h : Announced s) (hmain : t.main = s.main) : Announced t := by
  obtain ⟨hpc, hannounced⟩ := h
  rw [← hmain] at hpc hannounced
  exact ⟨hpc, hannounced⟩

/-- The robot beeps without end inside an attempt only. -/
structure Cued (x : CuedSys) : Prop where
  ready : Ready x.player
  endless : Endless x.player → x.inRangeCueOn = true ∧ x.player.buzzer.pattern = inRange
  attempt : x.inRangeCueOn = true → Announced x.sys

/-- The player goes on by itself, or plays a cue that ends. -/
theorem Cued.plays (h : Cued x) (action : TonePlayer.Action) {player : TonePlayer.Sys}
    (hplays : ∀ notes loop, action.plays ≠ some (notes, true, loop))
    (hstep : TonePlayer.step rearm x.player action = some player) :
    Cued { x with player := player } := by
  refine ⟨h.ready.step hstep, fun hend => ?_, h.attempt⟩
  rcases h.ready.endless_step hstep hend with ⟨notes, loop, hnew, -⟩ | ⟨-, -, hold, hpattern⟩
  · exact absurd hnew (hplays notes loop)
  · obtain ⟨hcue, hinRange⟩ := h.endless hold
    exact ⟨hcue, hpattern.trans hinRange⟩

/-- The attempts move without a word to the player. -/
theorem Cued.silent (h : Cued x) (hsys : x.inRangeCueOn = true → Announced t) :
    Cued ⟨t, x.inRangeCueOn, x.player⟩ := ⟨h.ready, h.endless, hsys⟩

/-- Close range is announced. -/
theorem Cued.announces (h : Cued x) {granted : ℤ} {player : TonePlayer.Sys}
    (hannounced : Announced t)
    (hstep : TonePlayer.step rearm x.player (cuePlay .inRange granted) = some player) :
    Cued ⟨t, true, player⟩ := by
  refine ⟨h.ready.step hstep, fun hend => ⟨rfl, ?_⟩, fun _ => hannounced⟩
  rcases h.ready.endless_step hstep hend with ⟨notes, loop, hnew, hpattern⟩ | ⟨hnone, -⟩
  · cases hnew
    exact hpattern
  · cases hnone

/-- The attempt has returned. -/
theorem Cued.returns (h : Cued x) {player : TonePlayer.Sys}
    (hrun : Transition.run (TonePlayer.step rearm) x.player
      (if x.inRangeCueOn then [cueStop] else []) = some player) : Cued ⟨t, false, player⟩ := by
  split at hrun
  · have hstep : TonePlayer.step rearm x.player .stop = some player := by simpa [cueStop] using hrun
    refine ⟨h.ready.step hstep, fun hend => ?_, nofun⟩
    rcases h.ready.endless_step hstep hend with ⟨notes, loop, hnew, -⟩ | ⟨-, hnot, -⟩
    · cases hnew
    · exact absurd rfl hnot
  · rename_i hoff
    cases hrun
    exact ⟨h.ready, fun hend => absurd (h.endless hend).1 hoff, nofun⟩

/-- The main thread moves, and the player is told. -/
theorem Cued.main (h : Cued x) {granted : ℤ} {player : TonePlayer.Sys}
    (hstep : mainStep world x.sys = some t)
    (hrun : Transition.run (TonePlayer.step rearm) x.player
      (inRangeCue (.main world) granted x).1 = some player) :
    Cued ⟨t, (inRangeCue (.main world) granted x).2, player⟩ := by
  cases hpc : x.sys.main.pc with
  | announce =>
    have ht : Sys.goto .elapsed { x.sys with
        main := { x.sys.main with closeAnnounced := x.sys.client.closeConfirmed } } = t := by
      unfold mainStep at hstep
      simp only [hpc] at hstep
      exact Option.some.inj hstep
    simp only [inRangeCue, hpc] at hrun ⊢
    split at hrun <;> rename_i hclose
    · rw [if_pos hclose]
      have hplays : TonePlayer.step rearm x.player (cuePlay .inRange granted) = some player := by
        simpa using hrun
      refine h.announces ?_ hplays
      subst ht
      exact .loop hclose rfl nofun
    · rw [if_neg hclose]
      cases hrun
      refine h.silent fun hon => ?_
      rcases (h.attempt hon).pc with hloop | hreturned
      · exact absurd hpc hloop.2
      · exact absurd (hpc.symm.trans hreturned) nofun
  | returned =>
    simp only [inRangeCue, hpc] at hrun ⊢
    exact h.returns hrun
  | _ =>
    simp only [inRangeCue, hpc] at hrun ⊢
    cases hrun
    exact h.silent fun hon => (h.attempt hon).step (by rw [hpc]; nofun) hstep

theorem cued_step {action : CuedAction} (h : Cued x)
    (hstep : CuedSys.step robotFile rearm x action = some y) : Cued y := by
  cases action with
  | wait us =>
    simp only [CuedSys.step, Option.map_eq_some_iff] at hstep
    obtain ⟨player, hplayer, rfl⟩ := hstep
    exact h.plays (.wait us) nofun hplayer
  | interrupt a =>
    simp only [CuedSys.step, Option.map_eq_some_iff] at hstep
    obtain ⟨player, hplayer, rfl⟩ := hstep
    exact h.plays (.interrupt a) nofun hplayer
  | cue cue granted =>
    simp only [CuedSys.step] at hstep
    split at hstep
    · rename_i hdriving
      obtain ⟨player, hplayer, rfl⟩ := Option.map_eq_some_iff.mp hstep
      refine h.plays (cuePlay cue granted) (fun notes loop => ?_) hplayer
      cases cue <;> first | exact absurd hdriving.2 (by decide) | nofun
    · cases hstep
  | act action granted =>
    simp only [CuedSys.step, Option.bind_eq_some_iff, Option.map_eq_some_iff] at hstep
    obtain ⟨sys, hsys, player, hplayer, rfl⟩ := hstep
    cases action with
    | main world => exact h.main hsys hplayer
    | callback env =>
      cases hplayer
      refine h.silent fun hon => (h.attempt hon).congr ?_
      simp only [PayloadClient.step, runCallback] at hsys
      split at hsys
      · cases hsys
      · cases hsys
        rfl
      · cases hsys
        rfl
    | packet event env =>
      cases hplayer
      cases hsys
      exact h.silent fun hon => (h.attempt hon).congr rfl

theorem cued_boot : Cued CuedSys.boot := by
  refine ⟨TonePlayer.ready_boot, ?_, nofun⟩
  rintro ⟨hbusy, -⟩
  cases hbusy

/-- **The robot does not beep on**: in every run of its attempts, their callbacks, the radio and
the player, what sounds without end is `CUE_IN_RANGE`, and it sounds only inside an attempt that
has announced close range; outside `check_payload` and between two attempts nothing does. -/
theorem in_range_cue_ends {actions : List CuedAction}
    (hrun : Transition.run (CuedSys.step robotFile rearm) CuedSys.boot actions = some x)
    (hend : Endless x.player) :
    x.player.buzzer.pattern = inRange ∧ x.sys.main.pc ≠ .driving ∧ x.sys.main.pc ≠ .checking ∧
      x.sys.main.closeAnnounced = true := by
  have h : Cued x :=
    Transition.run_invariant (I := Cued) (fun x a y h hstep => cued_step h hstep) cued_boot hrun
  obtain ⟨hon, hpattern⟩ := h.endless hend
  obtain ⟨hpc, hannounced⟩ := h.attempt hon
  refine ⟨hpattern, ?_, ?_, hannounced⟩
  · intro hdriving
    rw [hdriving] at hpc
    exact hpc.elim (fun h => absurd h.1 (by decide)) nofun
  · intro hchecking
    rw [hchecking] at hpc
    exact hpc.elim (fun h => absurd h.1 (by decide)) nofun

/-- Close range is confirmed in the first attempt, and the beeps begin. -/
def inRangeReached : List CuedAction :=
  (attemptBegun ++ closeRangeConfirmed ++ List.replicate 3 (mainAt 0)).map fun action =>
    .act action 1

theorem in_range_cue_ends_first :
    ∃ x, Transition.run (CuedSys.step robotTestFile TonePlayer.fromReturn) CuedSys.boot
        inRangeReached = some x ∧
      x.player.buzzer.pattern = inRange ∧ x.sys.main.pc ≠ .driving ∧ x.sys.main.pc ≠ .checking ∧
        x.sys.main.closeAnnounced = true := by
  have hend : (Transition.run (CuedSys.step robotTestFile TonePlayer.fromReturn) CuedSys.boot
      inRangeReached).map (fun x => decide (Endless x.player)) = some true := by
    decide +kernel
  obtain ⟨x, hx, hsays⟩ := Option.map_eq_some_iff.mp hend
  exact ⟨x, hx, in_range_cue_ends hx (of_decide_eq_true hsays)⟩

end PayloadClient
