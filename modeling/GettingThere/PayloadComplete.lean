/-
# What `PAYLOAD_COMPLETE` proves about the peer

The progress of one attempt (`PayloadTranscript`) carried through every run: an attempt
begins with an empty log and with no earlier `PAYLOAD_COMPLETE` stored, and what it has
returned stays true of the statics until the next one begins.
-/
import GettingThere.PayloadTranscript

namespace PayloadClient

open TransferProtocol Transition

variable {robotFile : Bytes} {env : Env} {c d : Client}

/-! ## Before the start callback -/

/-- Nothing has been accepted yet, and no earlier `PAYLOAD_COMPLETE` is stored. -/
structure Fresh (c : Client) : Prop where
  accepted : c.exchange.accepted = []
  closing : c.closingResult ≠ .complete

/-- While nothing is connected and no scan runs, a packet leaves the exchange alone and can
only store `PAYLOAD_FATAL`. -/
theorem quiet_handle {event : Event} (hstate : c.bleState = .idle ∨ c.bleState = .starting)
    (hlinked : c.connectionHandle = none) :
    (handle robotFile env event c).exchange = c.exchange ∧
      ((handle robotFile env event c).closingResult = c.closingResult ∨
        (handle robotFile env event c).closingResult = .fatal) := by
  -- without a connection no GATT event is for this client
  have gatt : gattHandler robotFile env event c = c := by
    unfold gattHandler
    split
    · rfl
    split
    · rw [hlinked, if_neg (by simp)]
    · rw [hlinked, if_neg (by simp)]
    · rw [hlinked, if_neg (by simp)]
    · rw [hlinked, if_pos (by simp)]
    · rfl
  unfold handle
  split
  · rw [gatt]
    exact ⟨rfl, .inl rfl⟩
  · rw [gatt]
    exact ⟨rfl, .inl rfl⟩
  · rw [gatt]
    exact ⟨rfl, .inl rfl⟩
  · rw [gatt]
    exact ⟨rfl, .inl rfl⟩
  unfold hciHandler
  split
  · exact ⟨rfl, .inl rfl⟩
  · split
    · unfold scanEnableComplete
      split
      · refine ⟨exchange_finishAttempt env _, .inr ?_⟩
        show (finishAttempt env _).life.closing = .fatal
        rw [life_finishAttempt]
        rfl
      · rcases hstate with h | h <;> rw [h] <;> exact ⟨rfl, .inl rfl⟩
    · exact ⟨rfl, .inl rfl⟩
  · rcases hstate with h | h <;> rw [h] <;> exact ⟨rfl, .inl rfl⟩
  · unfold connectionComplete
    rcases hstate with h | h <;> rw [h, if_pos (by decide)] <;> exact ⟨rfl, .inl rfl⟩
  · unfold disconnectionComplete
    rw [hlinked, if_pos (by simp)]
    exact ⟨rfl, .inl rfl⟩
  · exact ⟨rfl, .inl rfl⟩

theorem Fresh.start (h : Fresh c) : Progress robotFile (startAttemptCallback env c) := by
  unfold startAttemptCallback
  split
  · exact progress_finish_other nofun
  simp only
  split
  · exact progress_beginConnection h.accepted h.closing
  · refine ⟨?_, h.closing⟩
    rw [exchange_call rfl]
    exact h.accepted

/-- Nothing but the final acknowledgement stores `PAYLOAD_COMPLETE`. -/
theorem progress_abort (h : Progress robotFile c) :
    Progress robotFile (abortAttemptCallback env c) := by
  have result (stopped confirmed : Bool) :
      (if stopped then PayloadResult.fatal else if confirmed then .retry else .notClose) ≠
        .complete := by
    cases stopped <;> cases confirmed <;> nofun
  unfold abortAttemptCallback
  split
  · exact h
  · exact progress_closeAttempt (result _ _) _

/-! ## Every run -/

/-- What holds of the exchange along a run. -/
structure Transcribed (robotFile : Bytes) (s : Sys) : Prop where
  live : Live s
  complete : s.main.pc.stage = .outside → s.main.returned = .complete →
    s.client.exchange.verified = true ∧
      Exchanged robotFile s.client.exchange.accepted
        (s.client.exchange.replyFile.prefixOf s.client.exchange.replyLength)
  other : s.main.pc.stage = .outside → s.main.returned ≠ .complete →
    s.client.closingResult ≠ .complete
  fresh : s.main.pc.stage = .tests ∨ s.main.pc.stage = .writes ∨ s.main.pc.stage = .setup ∨
    s.main.pc.stage = .loop ∧ .start ∈ s.queue → Fresh s.client
  progress : s.main.pc.stage = .loop → .start ∉ s.queue → Progress robotFile s.client
  checking : s.main.pc = .checking → s.main.returned ≠ .complete

variable {s t : Sys}

theorem Life.Idle.state (h : s.life.Idle) :
    s.client.bleState = .idle ∧ s.client.connectionHandle = none := by
  refine ⟨(idle_iff s.client).mp h.phase, ?_⟩
  have hlinked : s.client.connectionHandle.isSome = false := h.linked
  simpa using hlinked

theorem Life.Waiting.state (h : s.life.Waiting) :
    (s.client.bleState = .idle ∨ s.client.bleState = .starting) ∧
      s.client.connectionHandle = none := by
  constructor
  · have hphase := h.phase
    change s.client.bleState.phase = _ ∨ s.client.bleState.phase = _ at hphase
    revert hphase
    cases s.client.bleState <;> simp [BleState.phase]
  · have hlinked : s.client.connectionHandle.isSome = false := h.linked
    simpa using hlinked

/-- Outside the loop, and until the start callback has run, packets change nothing. -/
theorem Live.quiet (h : Live s) (hquiet : s.main.pc.stage ≠ .loop ∨ .start ∈ s.queue)
    (event : Event) :
    (handle robotFile env event s.client).exchange = s.client.exchange ∧
      ((handle robotFile env event s.client).closingResult = s.client.closingResult ∨
        (handle robotFile env event s.client).closingResult = .fatal) := by
  have idle (hidle : s.life.Idle) :=
    @quiet_handle robotFile env s.client event (.inl hidle.state.1) hidle.state.2
  have waiting (hwaiting : s.life.Waiting) :=
    @quiet_handle robotFile env s.client event hwaiting.state.1 hwaiting.state.2
  cases hstage : s.main.pc.stage with
  | outside => exact idle ((live_outside hstage).mp h).1
  | tests => exact idle ((live_tests (.inl hstage)).mp h).1
  | writes => exact idle ((live_tests (.inr hstage)).mp h).1
  | setup => exact waiting ((live_setup hstage).mp h).1
  | loop =>
    rcases hquiet with hq | hq
    · exact absurd hstage hq
    · exact waiting (h.waiting hq hstage)

theorem Fresh.congr (h : Fresh c) (hexchange : d.exchange = c.exchange)
    (hclosing : d.closingResult = c.closingResult ∨ d.closingResult = .fatal) : Fresh d := by
  refine ⟨hexchange ▸ h.accepted, ?_⟩
  rcases hclosing with hc | hc
  · rw [hc]
    exact h.closing
  · rw [hc]
    nofun

theorem transcribed_packet {event : Event} (h : Transcribed robotFile s) :
    Transcribed robotFile { s with client := handle robotFile env event s.client } := by
  have quiet (hq : s.main.pc.stage ≠ .loop ∨ .start ∈ s.queue) :=
    @Live.quiet robotFile env s h.live hq event
  have outside (hstage : s.main.pc.stage = .outside) := quiet (.inl (by rw [hstage]; nofun))
  refine ⟨live_packet robotFile env event h.live, fun hstage hr => ?_, fun hstage hr => ?_,
    fun hstage => ?_, fun hstage hstart => progress_handle (h.progress hstage hstart), h.checking⟩
  · show _ ∧ Exchanged robotFile (handle robotFile env event s.client).exchange.accepted _
    rw [(outside hstage).1]
    exact h.complete hstage hr
  · rcases (outside hstage).2 with hc | hc
    · rw [hc]
      exact h.other hstage hr
    · rw [hc]
      nofun
  · have hq : s.main.pc.stage ≠ .loop ∨ .start ∈ s.queue := by
      rcases hstage with hs | hs | hs | ⟨hs, hstart⟩
      · exact .inl (by rw [show s.main.pc.stage = _ from hs]; nofun)
      · exact .inl (by rw [show s.main.pc.stage = _ from hs]; nofun)
      · exact .inl (by rw [show s.main.pc.stage = _ from hs]; nofun)
      · exact .inr hstart
    exact (h.fresh hstage).congr (quiet hq).1 (quiet hq).2

theorem transcribed_callback (h : Transcribed robotFile s) (hstep : runCallback env s = some t) :
    Transcribed robotFile t := by
  have hlive := live_callback env h.live hstep
  cases runCallback_cases hstep with
  | start rest hqueue =>
    have hmem : .start ∈ s.queue := by simp [hqueue]
    have hstage : s.main.pc.stage = .loop := h.live.loop_of_start hmem
    have htail : .start ∉ rest := by
      have htail := ((live_loop hstage).mp h.live).2.1
      rw [hqueue] at htail
      exact htail
    refine ⟨hlive, fun hs => absurd (hstage.symm.trans hs) nofun,
      fun hs => absurd (hstage.symm.trans hs) nofun, ?_,
      fun _ _ => (h.fresh (.inr (.inr (.inr ⟨hstage, hmem⟩)))).start, h.checking⟩
    rintro (hs | hs | hs | ⟨-, hstart⟩)
    · exact absurd (hstage.symm.trans hs) nofun
    · exact absurd (hstage.symm.trans hs) nofun
    · exact absurd (hstage.symm.trans hs) nofun
    · exact absurd hstart htail
  | abort rest hqueue =>
    have hstage : s.main.pc.stage = .outside ∨ s.main.pc.stage = .loop :=
      h.live.stage_of_queue (by simp [hqueue])
    have htail : .start ∉ rest := by
      rcases hstage with hs | hs
      · have hmem := ((live_outside hs).mp h.live).2
        rw [hqueue] at hmem
        exact fun hm => hmem (List.mem_cons_of_mem _ hm)
      · have htail := ((live_loop hs).mp h.live).2.1
        rw [hqueue] at htail
        exact htail
    have hmem : .start ∉ s.queue := by simp [hqueue, htail]
    -- outside an attempt the abort does nothing
    have same (hs : s.main.pc.stage = .outside) :
        abortAttemptCallback env s.client = s.client := by
      have hrunning : s.client.attemptRunning = false := ((live_outside hs).mp h.live).1.running
      rw [abortAttemptCallback, if_pos (.inl hrunning)]
    refine ⟨hlive, fun hs hr => ?_, fun hs hr => ?_, ?_, fun hs _ => ?_, h.checking⟩
    · change s.main.pc.stage = .outside at hs
      show _ ∧ Exchanged robotFile (abortAttemptCallback env s.client).exchange.accepted _
      rw [same hs]
      exact h.complete hs hr
    · change s.main.pc.stage = .outside at hs
      show (abortAttemptCallback env s.client).closingResult ≠ _
      rw [same hs]
      exact h.other hs hr
    · rintro (hs | hs | hs | ⟨-, hstart⟩)
      · rcases hstage with h | h <;> exact absurd (h.symm.trans hs) nofun
      · rcases hstage with h | h <;> exact absurd (h.symm.trans hs) nofun
      · rcases hstage with h | h <;> exact absurd (h.symm.trans hs) nofun
      · exact absurd hstart htail
    · exact progress_abort (h.progress hs hmem)

/-- An attempt that is being set up has accepted nothing. -/
theorem Transcribed.begun (hlive : Live t) (hstage : t.main.pc.stage = .tests ∨
    t.main.pc.stage = .writes ∨ t.main.pc.stage = .setup) (hfresh : Fresh t.client) :
    Transcribed robotFile t := by
  have ne {p : Stage} (hp : p = .outside ∨ p = .loop) : t.main.pc.stage ≠ p := by
    rcases hstage with h | h | h <;> rcases hp with rfl | rfl <;> rw [h] <;> nofun
  exact ⟨hlive, fun h => absurd h (ne (.inl rfl)), fun h => absurd h (ne (.inl rfl)),
    fun _ => hfresh, fun h => absurd h (ne (.inr rfl)),
    fun h => absurd (by rw [h]; rfl) (ne (.inl rfl))⟩

/-- Between attempts the exchange of the last one is kept. -/
theorem Transcribed.kept (h : Transcribed robotFile s) (hlive : Live t)
    (hs : s.main.pc.stage = .outside) (ht : t.main.pc.stage = .outside)
    (hexchange : t.client.exchange = s.client.exchange)
    (hclosing : t.client.closingResult = s.client.closingResult)
    (hreturned : t.main.returned = .complete ↔ s.main.returned = .complete)
    (hchecking : t.main.pc = .checking → t.main.returned ≠ .complete) :
    Transcribed robotFile t := by
  refine ⟨hlive, fun _ hr => ?_, fun _ hr => ?_, fun hstage => ?_, fun hl => ?_, hchecking⟩
  · rw [hexchange]
    exact h.complete hs (hreturned.mp hr)
  · rw [hclosing]
    exact h.other hs fun hc => hr (hreturned.mpr hc)
  · rcases hstage with h | h | h | ⟨h, -⟩ <;> exact absurd (ht.symm.trans h) nofun
  · exact absurd (ht.symm.trans hl) nofun

theorem transcribed_main (h : Transcribed robotFile s)
    (hprompt : s.main.pc = .checking → s.queue = []) (hstep : MainStep s t) :
    Transcribed robotFile t ∨ Dead t := by
  rcases live_main h.live hprompt hstep with hlive | hdead
  swap
  · exact .inr hdead
  have fresh {pc : Pc} (hpc : s.main.pc = pc) (hstage : pc.stage = .tests ∨ pc.stage = .writes ∨
      pc.stage = .setup) : Fresh s.client := by
    apply h.fresh
    rw [hpc]
    rcases hstage with h | h | h
    · exact .inl h
    · exact .inr (.inl h)
    · exact .inr (.inr (.inl h))
  cases hstep with
  | drive faults hpc hsub =>
    have hs : s.main.pc.stage = .outside := by rw [hpc]; rfl
    exact .inl (h.kept hlive hs hs rfl rfl Iff.rfl h.checking)
  | call hpc hreturned =>
    have hr : s.main.returned ≠ .complete := by rw [hreturned]; rintro ⟨⟩
    exact .inl (h.kept hlive (by rw [hpc]; rfl) rfl rfl rfl Iff.rfl fun _ => hr)
  | stop faults main hpc hpc' hreturned => exact .inr ⟨hreturned, .inr hpc'⟩
  | far faults hpc hreconnect hsub =>
    refine .inl (h.kept hlive (by rw [hpc]; rfl) rfl rfl rfl ⟨by rintro ⟨⟩, ?_⟩ (by rintro ⟨⟩))
    intro hr
    exact absurd hr (h.checking hpc)
  | begin faults dbm hpc hsub =>
    have hclosing := h.other (by rw [hpc]; rfl) (h.checking hpc)
    exact .inl (.begun hlive (.inl rfl) ⟨rfl, hclosing⟩)
  | refuse faults hpc hsub hwhy => exact .inr ⟨rfl, .inl rfl⟩
  | test faults pc hpc hsub hpc' htested =>
    obtain ⟨haccepted, hclosing⟩ := h.fresh (.inl hpc)
    refine .inl (.begun hlive ?_ ⟨haccepted, hclosing⟩)
    rcases hpc' with h | rfl
    · exact .inl h
    · exact .inr (.inl rfl)
  | setReconnect hpc =>
    obtain ⟨haccepted, hclosing⟩ := fresh hpc (.inr (.inl rfl))
    exact .inl (.begun hlive (.inr (.inl rfl)) ⟨haccepted, hclosing⟩)
  | clearAbort pc hpc hpc' =>
    obtain ⟨haccepted, hclosing⟩ := fresh hpc (.inr (.inl rfl))
    rcases hpc' with ⟨-, rfl⟩ | ⟨-, rfl⟩
    · exact .inl (.begun hlive (.inr (.inl rfl)) ⟨haccepted, hclosing⟩)
    · exact .inl (.begun hlive (.inr (.inl rfl)) ⟨haccepted, hclosing⟩)
  | clearConfirmed hpc =>
    obtain ⟨haccepted, hclosing⟩ := fresh hpc (.inr (.inl rfl))
    exact .inl (.begun hlive (.inr (.inl rfl)) ⟨haccepted, hclosing⟩)
  | setRunning hpc =>
    obtain ⟨haccepted, hclosing⟩ := fresh hpc (.inr (.inl rfl))
    exact .inl (.begun hlive (.inr (.inr rfl)) ⟨haccepted, hclosing⟩)
  | stamp now hpc =>
    obtain ⟨haccepted, hclosing⟩ := fresh hpc (.inr (.inr rfl))
    exact .inl (.begun hlive (.inr (.inr rfl)) ⟨haccepted, hclosing⟩)
  | starting hpc =>
    obtain ⟨haccepted, hclosing⟩ := fresh hpc (.inr (.inr rfl))
    exact .inl (.begun hlive (.inr (.inr rfl)) ⟨haccepted, hclosing⟩)
  | queueStart main hpc hpc' hreconnect hconfirmed =>
    have hfresh := fresh hpc (.inr (.inr rfl))
    have ht : main.pc.stage = .loop := by rw [hpc']; rfl
    have hqueue := ((live_setup (by rw [hpc]; rfl)).mp h.live).2.1
    exact .inl ⟨hlive, fun hs => absurd (ht.symm.trans hs) (by decide),
      fun hs => absurd (ht.symm.trans hs) (by decide), fun _ => hfresh,
      fun _ hn => absurd (by simp [hqueue, enqueue]) hn,
      fun hc => absurd (hpc'.symm.trans hc) (by decide)⟩
  | loop faults abort queue main hpc hpc' hleaving hsub hqueue hreconnect hconfirmed =>
    have hstart : .start ∈ queue ↔ .start ∈ s.queue := by
      rcases hqueue with rfl | rfl
      · exact Iff.rfl
      · exact start_mem_enqueue
    refine .inl ⟨hlive, fun hs => absurd (hpc'.symm.trans hs) (by decide),
      fun hs => absurd (hpc'.symm.trans hs) (by decide), ?_, fun _ hn => ?_, fun hc => ?_⟩
    · rintro (hs | hs | hs | ⟨-, hm⟩)
      · exact absurd (hpc'.symm.trans hs) (by decide)
      · exact absurd (hpc'.symm.trans hs) (by decide)
      · exact absurd (hpc'.symm.trans hs) (by decide)
      · obtain ⟨haccepted, hclosing⟩ := h.fresh (.inr (.inr (.inr ⟨hpc, hstart.mp hm⟩)))
        exact ⟨haccepted, hclosing⟩
    · exact (h.progress hpc fun hm => hn (hstart.mpr hm)).congr rfl rfl rfl
    · rw [hc] at hpc'
      cases hpc'
  | giveUp faults hpc hsub hwhy => exact .inr ⟨rfl, .inl rfl⟩
  | result hpc =>
    by_cases hfatal : s.client.result = .fatal
    · exact .inr ⟨hfatal, .inl rfl⟩
    -- the attempt is over, so the result is the closing result and the log is complete
    obtain ⟨hidle, hmem⟩ := (live_outside rfl).mp hlive
    have hstage : s.main.pc.stage = .loop := by rw [hpc]; rfl
    have hclosing : s.client.closingResult = s.client.result :=
      ((h.live.active hstage hmem).idle hidle.phase).2
    have hprogress : ProgressAt robotFile s.client.closingResult s.client.exchange .ending :=
      (h.progress hstage hmem).at ((idle_iff s.client).mp hidle.phase)
    refine .inl ⟨hlive, fun _ hr => hprogress (hclosing.trans hr), fun _ hr => ?_, ?_, by rintro ⟨⟩,
      by rintro ⟨⟩⟩
    · show s.client.closingResult ≠ .complete
      rw [hclosing]
      exact hr
    · rintro (hs | hs | hs | ⟨hs, -⟩) <;> cases hs
  | done faults main hpc hpc' hreturned hr hconfirmed hsub =>
    exact .inl (h.kept hlive (by rw [hpc]; rfl) (by rw [hpc']; rfl) rfl rfl (by rw [hreturned])
      fun hc => absurd (hpc'.symm.trans hc) (by decide))
  | again faults main hpc hpc' hreturned hr hreconnect hsub =>
    have hr' : main.returned ≠ .complete := by
      rw [hreturned]
      rcases hr with h | ⟨h, -⟩ <;> rw [h] <;> rintro ⟨⟩
    exact .inl (h.kept hlive (by rw [hpc]; rfl) (by rw [hpc']; rfl) rfl rfl (by rw [hreturned])
      fun _ => hr')

theorem transcribed_step {action : Action} (h : Transcribed robotFile s)
    (hprompt : s.Prompt action) (hstep : step robotFile s action = some t) :
    Transcribed robotFile t ∨ Dead t := by
  cases action with
  | packet event env =>
    cases hstep
    exact .inl (transcribed_packet h)
  | callback env => exact .inl (transcribed_callback h hstep)
  | main world => exact transcribed_main h hprompt (mainStep_cases world hstep)

theorem transcribed_boot : Transcribed robotFile Sys.boot := by
  refine ⟨live_boot, nofun, fun _ _ => nofun, ?_, nofun, nofun⟩
  rintro (h | h | h | ⟨h, -⟩) <;> cases h

/-- **`PAYLOAD_COMPLETE` stands for one whole exchange**: in every run with a prompt run loop,
whatever the peer sends, an attempt that has returned it has accepted, in this order and since it
began, each message of a whole exchange with beacon 1, and `payload_client_data` returns the bytes
the reply chunks carried. -/
theorem complete_is_exchanged (robotFile : Bytes) {actions : List Action} {s : Sys}
    (hprompt : Along (step robotFile) Sys.Prompt Sys.boot actions)
    (hrun : run (step robotFile) Sys.boot actions = some s)
    (hpc : s.main.pc = .returned ∨ s.main.pc = .driving) (hr : s.main.returned = .complete) :
    ∃ data, Exchanged robotFile (acceptedValues s.client.calls) data ∧
      payloadClientData s.client = some data := by
  have hstage : s.main.pc.stage = .outside := by rcases hpc with h | h <;> rw [h] <;> rfl
  have hstep (s : Sys) (action : Action) (t : Sys) (h : Transcribed robotFile s ∨ Dead s)
      (hallowed : s.Prompt action) (hstep : step robotFile s action = some t) :
      Transcribed robotFile t ∨ Dead t := by
    rcases h with h | h
    · exact transcribed_step h hallowed hstep
    · exact .inr (dead_step robotFile h hstep)
  rcases run_invariant_along hstep actions _ _ (.inl transcribed_boot) hprompt hrun with h | ⟨hfatal, -⟩
  · obtain ⟨hverified, hexchanged⟩ := h.complete hstage hr
    refine ⟨_, hexchanged, ?_⟩
    rw [payloadClientData, if_pos (show s.client.payloadVerified = true from hverified)]
    rfl
  · exact absurd (hfatal.symm.trans hr) nofun

/-- The reply "hello" to the robot's test file, from connection to disconnection. -/
def helloExchange : List Action :=
  let done : Action := .packet (.queryComplete 1 0) accepting
  let tells (value : Bytes) : Action := .packet (.notification 1 25 value) accepting
  let reply : Bytes := [0x68, 0x65, 0x6C, 0x6C, 0x6F]
  let crc := transferWriteU32 (transferCrc32 reply)
  attemptBegun ++ closeRangeConfirmed ++
    [.packet (.connectionComplete 0 1) accepting, .packet (.serviceQueryResult 1) accepting, done,
      .packet (.characteristicQueryResult 1 25) accepting, done, done, done,
      tells (ackOf .helloAck), done, tells (ackOf .fileReady), done, done, done, done,
      tells (MessageType.fileReceived.code :: 0 :: transferWriteU32 (transferCrc32 robotTestFile)),
      done, tells (MessageType.replyStart.code :: (transferWriteU16 5 ++ crc)), done,
      tells (dataPacket 0 reply), done, tells (MessageType.replyEnd.code :: crc), done,
      tells (ackOf .completeAck), .packet (.disconnectionComplete 1) accepting] ++
    List.replicate 3 (mainAt 0)

theorem helloExchange_exchanged :
    ∃ s, run (step robotTestFile) Sys.boot helloExchange = some s ∧
      s.main.returned = .complete ∧
      ∃ data, Exchanged robotTestFile (acceptedValues s.client.calls) data ∧
        payloadClientData s.client = some data := by
  have hend : (run (step robotTestFile) Sys.boot helloExchange).map
      (fun s => (s.main.pc, s.main.returned)) = some (.returned, .complete) := by
    decide +kernel
  obtain ⟨s, hrun, hs⟩ := Option.map_eq_some_iff.mp hend
  rw [Prod.mk.injEq] at hs
  exact ⟨s, hrun, hs.2,
    complete_is_exchanged robotTestFile (by decide +kernel) hrun (.inl hs.1) hs.2⟩

end PayloadClient
