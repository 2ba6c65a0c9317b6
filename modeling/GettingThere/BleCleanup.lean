/-
# Every attempt leaves the radio quiet

`run_attempt` hands the radio back: when it returns anything but `PAYLOAD_FATAL` no scan is
enabled, no connection is open or being opened, and no listener is registered.

`Tracks` says for each phase of an attempt what the radio holds.  Every packet the radio may
deliver and both callbacks keep it, or the attempt ends as fatal (`Lost`); what the main
thread adds is that a new attempt begins from rest.  The last point needs the callbacks of
the attempt before to have run: an abort callback that is still waiting closes the new
attempt before it has started, and the start callback behind it then opens a connection that
nobody waits for (`staleAbort`).
-/
import GettingThere.AttemptRun
import GettingThere.RadioLink

namespace PayloadClient

open TransferProtocol Transition

/-! ## Client and radio at one time -/

/-- Nothing is open on the client's side. -/
def Unlinked (c : Client) : Prop := c.connectionHandle = none ∧ c.listening = false

/-- One connection is open, and the client knows it. -/
def Linked (c : Client) (k : Radio) : Prop :=
  ∃ handle, c.connectionHandle = some handle ∧
    k = { Radio.rest with link := some handle, listener := c.listening }

/-- What the radio holds in a phase of an attempt. -/
def TracksAt (c : Client) (k : Radio) : Phase → Prop
  | .idle | .starting => Unlinked c ∧ k = .rest
  | .scanning =>
    Unlinked c ∧
      k = if c.scanConfirmed then { Radio.rest with scanning := true }
        else { Radio.rest with unanswered := [.start] }
  | .stoppingForConnect | .stoppingScan =>
    Unlinked c ∧ c.scanConfirmed = true ∧
      k = { Radio.rest with scanning := true, unanswered := [.stop] }
  | .connecting => Unlinked c ∧ k = { Radio.rest with connecting := true }
  | .connected => Linked c k
  | .closing => (Unlinked c ∧ k = { Radio.rest with connecting := true }) ∨ Linked c k

/-- The radio holds what belongs to the client's phase. -/
def Tracks (c : Client) (k : Radio) : Prop := TracksAt c k c.bleState.phase

/-- An attempt that has ended as fatal. The radio may still be at work. -/
structure Lost (c : Client) (k : Radio) : Prop where
  state : c.bleState = .idle
  link : c.connectionHandle = none
  listening : c.listening = false
  running : c.attemptRunning = false
  result : c.result = .fatal
  overlap : k.overlap = false

/-- The radio is where the client takes it to be, or the attempt has ended as fatal. -/
def Sound (c : Client) (k : Radio) : Prop := Tracks c k ∨ Lost c k

variable {robotFile : Bytes} {env : Env} {c d e : Client} {k : Radio}
  {P Q : Client → Radio → Prop}

/-- In a given phase the radio holds what belongs to it. -/
theorem Tracks.at (h : Tracks c k) {phase : Phase} (hphase : c.bleState.phase = phase) :
    TracksAt c k phase := hphase ▸ h

/-- With a link open no connection was opened during a scan. -/
theorem Linked.overlap (h : Linked c k) : k.overlap = false := by
  obtain ⟨handle, -, rfl⟩ := h
  rfl

/-- While the client tracks the radio no connection was opened during a scan. -/
theorem Tracks.overlap (h : Tracks c k) : k.overlap = false := by
  unfold Tracks at h
  generalize c.bleState.phase = phase at h
  cases phase with
  | idle => rw [h.2]; rfl
  | starting => rw [h.2]; rfl
  | scanning =>
    rw [h.2]
    split <;> rfl
  | stoppingForConnect => rw [h.2.2]; rfl
  | connecting => rw [h.2]; rfl
  | connected => exact h.overlap
  | stoppingScan => rw [h.2.2]; rfl
  | closing =>
    rcases h with ⟨-, rfl⟩ | h
    · rfl
    · exact h.overlap

/-- An attempt that was lost has not overlapped a scan either. -/
theorem Sound.overlap (h : Sound c k) : k.overlap = false := by
  rcases h with h | h
  · exact h.overlap
  · exact h.overlap

/-- Only these fields matter. -/
theorem Tracks.congr (h : Tracks c k) (hstate : d.bleState = c.bleState)
    (hlink : d.connectionHandle = c.connectionHandle) (hlistening : d.listening = c.listening)
    (hscan : d.scanConfirmed = c.scanConfirmed) : Tracks d k := by
  unfold Tracks at h ⊢
  rw [hstate]
  unfold TracksAt Unlinked Linked at h ⊢
  rw [hlink, hlistening, hscan]
  exact h

/-! ## Calls and the radio that hears them -/

/-- The client goes from `c` to `d`, and with what the radio has heard by then `P` holds. -/
def Reaches (env : Env) (c : Client) (k : Radio) (d : Client) (P : Client → Radio → Prop) : Prop :=
  ∃ calls, d.calls = c.calls ++ calls ∧ P d (k.obey env calls)

/-- A change without a call reaches what holds already. -/
theorem Reaches.still (hcalls : d.calls = c.calls) (h : P d k) : Reaches env c k d P :=
  ⟨[], by rw [hcalls, List.append_nil], h⟩

/-- A change with one call reaches what holds after the radio has heard it. -/
theorem Reaches.calling {x : Call} (hcalls : d.calls = c.calls ++ [x])
    (h : P d (k.hear env x)) : Reaches env c k d P := ⟨[x], hcalls, h⟩

/-- Changes one after the other reach what the last one does. -/
theorem Reaches.trans (h : Reaches env c k d P)
    (hnext : ∀ k', P d k' → Reaches env d k' e Q) : Reaches env c k e Q := by
  obtain ⟨calls, hcalls, hP⟩ := h
  obtain ⟨calls', hcalls', hQ⟩ := hnext _ hP
  refine ⟨calls ++ calls', ?_, ?_⟩
  · rw [hcalls', hcalls, List.append_assoc]
  · rw [Radio.obey, List.foldl_append]
    exact hQ

/-- What is reached may be weakened. -/
theorem Reaches.mono (h : Reaches env c k d P) (hPQ : ∀ k', P d k' → Q d k') :
    Reaches env c k d Q := by
  obtain ⟨calls, hcalls, hP⟩ := h
  exact ⟨calls, hcalls, hPQ _ hP⟩

/-- Fields that are written first do not matter for the calls. -/
theorem Reaches.from_eq {c' : Client} (h : Reaches env c' k d P) (hcalls : c'.calls = c.calls) :
    Reaches env c k d P := by
  obtain ⟨calls, hd, hP⟩ := h
  exact ⟨calls, by rw [hd, hcalls], hP⟩

/-- A call the radio takes nothing from goes first. -/
theorem Reaches.behind {x : Call} {c' : Client} (h : Reaches env c' k d P)
    (hcalls : c'.calls = c.calls ++ [x]) (hx : k.hear env x = k) : Reaches env c k d P := by
  obtain ⟨calls, hd, hP⟩ := h
  refine ⟨x :: calls, ?_, ?_⟩
  · rw [hd, hcalls, List.append_assoc]
    rfl
  · rw [Radio.obey, List.foldl_cons, hx]
    exact hP

/-- What the whole does with the calls of one step. -/
theorem Reaches.newCalls (h : Reaches env c k d P) :
    P d (k.obey env (newCalls c d)) := by
  obtain ⟨calls, hcalls, hP⟩ := h
  have hnew : PayloadClient.newCalls c d = calls := by
    rw [PayloadClient.newCalls, hcalls, List.drop_left]
  rw [hnew]
  exact hP

/-! ## Ending an attempt -/

/-- Ending an attempt unregisters the listener. -/
theorem finish_rest (hk : k = { Radio.rest with listener := c.listening }) :
    Reaches env c k (finishAttempt env c) Tracks := by
  subst hk
  unfold finishAttempt
  cases hl : c.listening with
  | false => exact .still rfl ⟨⟨rfl, hl⟩, rfl⟩
  | true => exact .calling rfl ⟨⟨rfl, rfl⟩, rfl⟩

/-- Finishing a fatal attempt leaves it lost, whatever the radio holds. -/
theorem finish_lost (hoverlap : k.overlap = false) (hfatal : c.closingResult = .fatal) :
    Reaches env c k (finishAttempt env c) Lost := by
  unfold finishAttempt
  cases hl : c.listening with
  | false => exact .still rfl ⟨rfl, rfl, hl, rfl, hfatal, hoverlap⟩
  | true => exact .calling rfl ⟨rfl, rfl, rfl, rfl, hfatal, hoverlap⟩

/-- The radio at rest has no listener to take leave of. -/
theorem finish_unlinked (h : Unlinked c) (hk : k = .rest) :
    Reaches env c k (finishAttempt env c) Tracks := by
  apply finish_rest
  rw [hk, h.2]
  rfl

/-- Closing a scan: it is stopped, or an unacknowledged start makes the attempt fatal. -/
theorem closeScan_sound (h : Tracks c k)
    (hstate : c.bleState = .scanning ∨ c.bleState = .stoppingForConnect) :
    Reaches env c k (closeScan env c) Sound := by
  unfold closeScan
  rcases hstate with hs | hs
  · obtain ⟨hlink, hk⟩ := h.at (by rw [hs]; rfl : c.bleState.phase = .scanning)
    have hnot : ¬ c.bleState = .stoppingForConnect := by rw [hs]; nofun
    simp only [hnot, if_false]
    cases hscan : c.scanConfirmed with
    | true =>
      rw [if_pos hscan] at hk
      subst hk
      rw [if_pos (by exact hscan)]
      exact .calling rfl (.inl ⟨hlink, hscan, rfl⟩)
    | false =>
      rw [if_neg (by rw [hscan]; nofun)] at hk
      subst hk
      rw [if_neg (by change ¬ c.scanConfirmed = true; rw [hscan]; nofun)]
      have hstop : Reaches env c { Radio.rest with unanswered := [.start] }
          { (Client.setState env .stoppingScan c).call .stopScan with closingResult := .fatal }
          fun _ k => k.overlap = false := .calling rfl rfl
      exact hstop.trans fun k' hk' => (finish_lost hk' rfl).mono fun _ hlost => .inr hlost
  · obtain ⟨hlink, hscan, hk⟩ :=
      h.at (by rw [hs]; rfl : c.bleState.phase = .stoppingForConnect)
    simp only [hs, if_true]
    rw [if_pos (by exact hscan)]
    exact .still rfl (.inl ⟨hlink, hscan, hk⟩)

/-- What the radio holds, and the states of the client in which it does. -/
inductive Stance (c : Client) (k : Radio) : Prop
  | resting (hstate : c.bleState = .idle ∨ c.bleState = .starting) (hlink : Unlinked c)
      (hk : k = .rest)
  | scanning (hstate : c.bleState = .scanning ∨ c.bleState = .stoppingForConnect ∨
      c.bleState = .stoppingScan) (hlink : Unlinked c) (hk : k.connecting = false ∧ k.link = none)
  | connecting (hstate : c.bleState = .connecting ∨ c.bleState = .closing) (hlink : Unlinked c)
      (hk : k = { Radio.rest with connecting := true })
  | linked (hstate : c.bleState.phase = .connected ∨ c.bleState = .closing) (hlinked : Linked c k)

/-- What a client tracks is one of the stances. -/
theorem Tracks.stance (h : Tracks c k) : Stance c k := by
  unfold Tracks at h
  cases hs : c.bleState <;> rw [hs] at h
  case idle => exact .resting (.inl hs) h.1 h.2
  case starting => exact .resting (.inr hs) h.1 h.2
  case scanning =>
    refine .scanning (.inl hs) h.1 ?_
    rw [h.2]
    split <;> exact ⟨rfl, rfl⟩
  case stoppingForConnect =>
    refine .scanning (.inr (.inl hs)) h.1 ?_
    rw [h.2.2]
    exact ⟨rfl, rfl⟩
  case stoppingScan =>
    refine .scanning (.inr (.inr hs)) h.1 ?_
    rw [h.2.2]
    exact ⟨rfl, rfl⟩
  case connecting => exact .connecting (.inl hs) h.1 h.2
  case closing =>
    rcases h with h | h
    · exact .connecting (.inr hs) h.1 h.2
    · exact .linked (.inr hs) h
  all_goals exact .linked (.inl (by rw [hs]; rfl)) h

/-- A client with a handle has a link, and it talks or is closing it. -/
theorem Tracks.linked (h : Tracks c k) {handle : ConHandle}
    (hhandle : c.connectionHandle = some handle) :
    Linked c k ∧ (c.bleState.phase = .connected ∨ c.bleState = .closing) := by
  have unlinked {p : Prop} (hlink : Unlinked c) : p := by
    rw [hlink.1] at hhandle
    cases hhandle
  cases h.stance with
  | resting _ hlink _ => exact unlinked hlink
  | scanning _ hlink _ => exact unlinked hlink
  | connecting _ hlink _ => exact unlinked hlink
  | linked hstate hlinked => exact ⟨hlinked, hstate⟩

/-- Closing a link asks for the disconnection. -/
theorem linked_closing {handle : ConHandle} (h : Linked c k) (hstate : d.bleState = .closing)
    (hlink : d.connectionHandle = c.connectionHandle) (hlistening : d.listening = c.listening)
    (hcalls : d.calls = c.calls ++ [.disconnect handle]) : Reaches env c k d Tracks := by
  obtain ⟨own, hown, hk⟩ := h
  refine .calling hcalls ?_
  unfold Tracks
  rw [hstate]
  refine .inr ⟨own, hlink.trans hown, ?_⟩
  rw [hlistening]
  exact hk

/-- **Closing an attempt** that is not ending yet: the radio goes to rest, or what it holds is
on its way to an end. -/
theorem closeAttempt_sound {r : PayloadResult} (h : Tracks c k) (hstop : c.bleState ≠ .stoppingScan)
    (hclosing : c.bleState ≠ .closing) : Reaches env c k (closeAttempt env r c) Sound := by
  have hopen : Tracks { c with closingResult := r, pendingLength := 0 } k :=
    h.congr rfl rfl rfl rfl
  unfold closeAttempt
  simp only
  split
  · rename_i hs
    exact (closeScan_sound hopen hs).from_eq rfl
  rename_i hscan
  rw [not_or] at hscan
  split
  · rename_i handle hhandle
    have hlinked : Linked c k := (h.linked hhandle).1
    refine Reaches.mono (P := Tracks) ?_ fun _ htracks => .inl htracks
    split
    · exact linked_closing hlinked rfl rfl rfl rfl
    · exact linked_closing hlinked rfl rfl rfl rfl
  · rename_i hhandle
    split
    · rename_i hconnecting
      obtain ⟨hlink, hk⟩ := h.at (by rw [hconnecting]; rfl : c.bleState.phase = .connecting)
      exact .calling rfl (.inl (.inl ⟨hlink, hk⟩))
    · rename_i hconnecting
      -- no scan, no connection: the radio is at rest
      have hrest : Unlinked c ∧ k = .rest := by
        have hne : ¬ Linked c k := by
          rintro ⟨handle, hhandle', -⟩
          rw [hhandle] at hhandle'
          cases hhandle'
        cases h.stance with
        | resting _ hlink hk => exact ⟨hlink, hk⟩
        | scanning hstate =>
          rcases hstate with hs | hs | hs
          · exact absurd hs hscan.1
          · exact absurd hs hscan.2
          · exact absurd hs hstop
        | connecting hstate =>
          rcases hstate with hs | hs
          · exact absurd hs hconnecting
          · exact absurd hs hclosing
        | linked _ hlinked => exact absurd hlinked hne
      have hfinish := @finish_unlinked env
        { c with closingResult := r, pendingLength := 0 } k hrest.1 hrest.2
      exact (hfinish.from_eq rfl).mono fun _ htracks => .inl htracks

/-- A failed transfer is closed. -/
theorem transferFailed_sound (reason : String) (h : Tracks c k) (hstop : c.bleState ≠ .stoppingScan)
    (hclosing : c.bleState ≠ .closing) : Reaches env c k (transferFailed env reason c) Sound := by
  have hfailed : Tracks { c.call (.failed reason) with
      faults := c.faults.raise .payload, payloadVerified := false } k := h.congr rfl rfl rfl rfl
  exact (closeAttempt_sound hfailed hstop hclosing).behind rfl rfl

/-- Asking for a connection from rest: no scan is enabled. -/
theorem beginConnection_sound (h : Unlinked c) (hk : k = .rest) :
    Reaches env c k (beginConnection env c) Sound := by
  subst hk
  unfold beginConnection
  split
  · rename_i hrefused
    have hidle : Reaches env c .rest (Client.setState env .idle
        ((Client.setState env .connecting c).call (.connect c.beaconAddress c.beaconAddressType)))
        Tracks := by
      refine .calling rfl ⟨h, ?_⟩
      simp only [Radio.hear, Radio.rest, hrefused, decide_false, Bool.or_self, ne_eq,
        not_true_eq_false]
    exact hidle.trans fun k' htracks => transferFailed_sound _ htracks nofun nofun
  · rename_i haccepted
    rw [not_not] at haccepted
    refine .calling rfl (.inl ⟨h, ?_⟩)
    simp only [Radio.hear, Radio.rest, haccepted, decide_true, Bool.or_true, Bool.or_self, ne_eq,
      not_true_eq_false, decide_false]

/-! ## While the link is used -/

/-- The client talks to the beacon over its link. -/
structure Talking (c : Client) (k : Radio) : Prop where
  linked : Linked c k
  phase : c.bleState.phase = .connected

/-- A client that talks tracks the radio. -/
theorem Talking.tracks (h : Talking c k) : Tracks c k := by
  unfold Tracks
  rw [h.phase]
  exact h.linked

/-- A client that talks and does nothing stays sound. -/
theorem Talking.quiet (h : Talking c k) : Reaches env c k c Sound := .still rfl (.inl h.tracks)

/-- The link is all that matters while the client talks. -/
theorem Talking.congr (h : Talking c k) (hphase : d.bleState.phase = .connected)
    (hlink : d.connectionHandle = c.connectionHandle) (hlistening : d.listening = c.listening) :
    Talking d k := by
  obtain ⟨⟨handle, hown, hk⟩, -⟩ := h
  refine ⟨⟨handle, hlink.trans hown, ?_⟩, hphase⟩
  rw [hlistening]
  exact hk

/-- A transfer that fails closes the link. -/
theorem Talking.failed (h : Talking c k) (reason : String) :
    Reaches env c k (transferFailed env reason c) Sound := by
  refine transferFailed_sound reason h.tracks (fun hs => ?_) fun hs => ?_
  · have hphase := h.phase
    rw [hs] at hphase
    cases hphase
  · have hphase := h.phase
    rw [hs] at hphase
    cases hphase

/-- Another state of the connected phase keeps the client talking. -/
theorem Talking.setState (h : Talking c k) {state : BleState} (hstate : state.phase = .connected) :
    Talking (Client.setState env state c) k := h.congr hstate rfl rfl

/-- A call that was recorded keeps the client talking. -/
theorem Talking.call (h : Talking c k) (x : Call) : Talking (c.call x) k := h.congr h.phase rfl rfl

/-- Writing a packet keeps the link, or fails the transfer. -/
theorem Talking.write (h : Talking c k) {packet : Bytes} {state : BleState}
    (hstate : writingState state = true) :
    Reaches env c k (writePacket env packet state c) Sound := by
  have hpacket : Talking { c with txPacket := c.txPacket.write 0 packet } k :=
    h.congr h.phase rfl rfl
  have hsent := (@Talking.setState env _ k hpacket _ (phase_of_writing hstate)).call
    (.write c.connectionHandle c.valueHandle ((c.txPacket.write 0 packet).prefixOf packet.length))
  unfold writePacket
  simp only
  split
  · exact (hsent.failed _).behind rfl rfl
  · exact .calling rfl (.inl hsent.tracks)

/-- Writing the next chunk of the file keeps the link, or fails the transfer. -/
theorem Talking.writeChunk (h : Talking c k) :
    Reaches env c k (writeNextRobotChunk robotFile env c) Sound := by
  unfold writeNextRobotChunk
  split
  · exact h.write rfl
  · have hchunk : Talking { c with
        robotSequence := c.robotSequence + 1
        robotOffset := (c.robotOffset + robotChunkLength robotFile c) % 512 } k :=
      h.congr h.phase rfl rfl
    exact (hchunk.write rfl).from_eq rfl

/-- A message that is taken note of is answered. -/
theorem Talking.accept (h : Talking c k) {value : Bytes}
    (hcalls : d.calls = c.calls ++ [.accepted value]) (hphase : d.bleState = c.bleState)
    (hlink : d.connectionHandle = c.connectionHandle) (hlistening : d.listening = c.listening)
    (hnext : Talking d k → Reaches env d k e Sound) : Reaches env c k e Sound := by
  have hd : Talking d k := by
    refine h.congr ?_ hlink hlistening
    rw [hphase]
    exact h.phase
  exact (hnext hd).behind hcalls rfl

/-- Closing while talking leaves the link being closed, or the attempt lost. -/
theorem Talking.close (h : Talking c k) {r : PayloadResult} :
    Reaches env c k (closeAttempt env r c) Sound := by
  have hphase := h.phase
  refine closeAttempt_sound h.tracks (fun hs => ?_) fun hs => ?_
  · rw [hs] at hphase
    cases hphase
  · rw [hs] at hphase
    cases hphase

/-- A message from the beacon keeps the client sound. -/
theorem Talking.message (h : Talking c k) (value : Bytes) :
    Reaches env c k (receiveMessage robotFile env value c) Sound := by
  unfold receiveMessage
  split
  · -- in every phase a packet is ignored, fails the transfer or is accepted
    unfold receiveHelloAck
    split_ifs
    · exact h.quiet
    · exact h.failed _
    · exact h.accept (d := { c.call (.accepted value) with
        robotOffset := 0, robotSequence := 0, robotCrc := transferCrc32 robotFile })
        rfl rfl rfl rfl fun hd => hd.write rfl
  · unfold receiveFileReady
    split_ifs
    · exact h.quiet
    · exact h.failed _
    · exact h.accept (d := c.call (.accepted value)) rfl rfl rfl rfl fun hd => hd.writeChunk
  · unfold receiveFileReceived
    split_ifs
    · exact h.quiet
    · exact h.failed _
    · exact h.accept (d := c.call (.accepted value)) rfl rfl rfl rfl fun hd => hd.write rfl
  · unfold receiveReplyStart
    simp only
    split_ifs
    · exact h.quiet
    · exact h.failed _
    · exact h.failed _
    · exact h.accept (d := { c.call (.accepted value) with
        replyLength := (transferReadU16 value 1).toNat % 512
        replyCrc := transferReadU32 value 3
        replyOffset := 0
        replySequence := 0 }) rfl rfl rfl rfl fun hd => hd.write rfl
  · unfold receiveReplyData
    split_ifs
    · exact h.quiet
    · exact h.failed _
    · exact h.accept (d := { c.call (.accepted value) with
        replyFile := c.replyFile.write c.replyOffset (value.drop 3)
        replyOffset := (c.replyOffset + (byteAt value 2).toNat) % 512
        replySequence := c.replySequence + 1 }) rfl rfl rfl rfl fun hd => hd.write rfl
    · exact h.failed _
  · unfold receiveReplyEnd
    split_ifs
    · exact h.quiet
    · exact h.accept (d := c.call (.accepted value)) rfl rfl rfl rfl fun hd => hd.write rfl
    · exact h.failed _
  · unfold receiveCompleteAck
    split_ifs
    · exact h.quiet
    · exact h.failed _
    · exact h.accept (d := { c.call (.accepted value) with
        payloadVerified := true, faults := c.faults.clear .payload })
        rfl rfl rfl rfl fun hd => hd.close
  · exact h.quiet

/-- A notification keeps the client sound, on its turn or parked. -/
theorem Talking.notification (h : Talking c k) (value : Bytes) :
    Reaches env c k (handleNotification robotFile env value c) Sound := by
  unfold handleNotification
  split_ifs
  · exact h.quiet
  · exact h.failed _
  · exact h.failed _
  · have hparked : Talking { c with
        pendingNotification := c.pendingNotification.write 0 value
        pendingLength := value.length % 32 } k := h.congr h.phase rfl rfl
    exact .still rfl (.inl hparked.tracks)
  · exact h.message value

/-- Replaying a parked notification keeps the client sound. -/
theorem Talking.replay (h : Talking c k) :
    Reaches env c k (replayPending robotFile env c) Sound := by
  unfold replayPending
  split
  · have hreplay : Talking { c with pendingLength := 0 } k := h.congr h.phase rfl rfl
    exact (hreplay.notification _).from_eq rfl
  · exact h.quiet

/-- A GATT setup call keeps the client sound; a refused one fails the transfer. -/
theorem Talking.setup (h : Talking c k) :
    Reaches env c k (setupStarted robotFile env c) Sound := by
  unfold setupStarted
  split
  · exact h.failed _
  · exact h.replay

/-- **A query completes**: the next request goes out over the same link. -/
theorem Talking.query (h : Talking c k) :
    Reaches env c k (queryCompleted robotFile env c) Sound := by
  have wait {state : BleState} (hstate : state.phase = .connected) :
      Reaches env c k (replayPending robotFile env (c.setState env state)) Sound :=
    (h.setState hstate).replay.from_eq rfl
  unfold queryCompleted
  simp only
  split
  · split
    · have hfound : Talking { c with characteristicFound := false } k := h.congr h.phase rfl rfl
      exact ((@Talking.setState _ _ _ hfound .discoverCharacteristic rfl).call _).setup.behind rfl rfl
    · exact h.failed _
  · split
    · -- the listener is registered on both sides
      obtain ⟨handle, hown, hk⟩ := h.linked
      have hlisten : Reaches env c k { c.call .listen with listening := true } Talking := by
        refine .calling rfl ⟨⟨handle, hown, ?_⟩, h.phase⟩
        rw [hk]
        rfl
      apply hlisten.trans
      intro k' htalking
      exact ((@Talking.setState _ _ _ htalking .enableNotifications rfl).call _).setup.behind rfl rfl
    · exact h.failed _
  · rw [replayPending_writePacket robotFile env _ c rfl]
    exact h.write rfl
  · exact wait rfl
  · exact wait rfl
  · rw [replayPending_writeNextRobotChunk]
    exact h.writeChunk
  · exact wait rfl
  · exact wait rfl
  · exact wait rfl
  · exact wait rfl
  · exact h.quiet

/-- Without a link the client is deaf to GATT events. -/
theorem gattHandler_deaf (event : Event) (h : c.connectionHandle = none) :
    gattHandler robotFile env event c = c := by
  unfold gattHandler
  simp only [h, reduceCtorEq, false_and, and_false, if_false, ne_eq, not_false_eq_true, if_true]
  split
  · rfl
  · split <;> rfl

/-- While a link is being closed the client is deaf as well. -/
theorem gattHandler_closing (event : Event) (h : c.bleState = .closing) :
    gattHandler robotFile env event c = c := by
  unfold gattHandler
  rw [if_pos (.inr (.inl h))]

/-- **Every GATT event** keeps the client sound. -/
theorem gattHandler_sound (event : Event) (h : Sound c k) :
    Reaches env c k (gattHandler robotFile env event c) Sound := by
  cases hlink : c.connectionHandle with
  | none =>
    rw [gattHandler_deaf event hlink]
    exact .still rfl h
  | some handle =>
    rcases h with h | h
    swap
    · rw [h.link] at hlink
      cases hlink
    obtain ⟨hlinked, hstate⟩ := h.linked hlink
    by_cases hclosing : c.bleState = .closing
    · rw [gattHandler_closing event hclosing]
      exact .still rfl (.inl h)
    -- a linked client that is not closing talks
    have htalking : Talking c k := ⟨hlinked, hstate.resolve_right hclosing⟩
    unfold gattHandler
    split
    · exact htalking.quiet
    split
    · split
      · exact htalking.notification _
      · exact htalking.quiet
    · split
      · exact .still rfl (.inl (h.congr rfl rfl rfl rfl))
      · exact htalking.quiet
    · split
      · exact .still rfl (.inl (h.congr rfl rfl rfl rfl))
      · exact htalking.quiet
    · split
      · exact htalking.quiet
      split
      · exact htalking.failed _
      · exact htalking.query
    · exact htalking.quiet

/-! ## HCI events -/

/-- The fields the radio depends on, and the log, are the same. -/
def Same (c d : Client) : Prop :=
  d.bleState = c.bleState ∧ d.connectionHandle = c.connectionHandle ∧ d.listening = c.listening ∧
    d.scanConfirmed = c.scanConfirmed ∧ d.calls = c.calls

/-- What is the same to the radio is tracked in the same way. -/
theorem Tracks.same (h : Tracks c k) (hsame : Same c d) : Tracks d k :=
  h.congr hsame.1 hsame.2.1 hsame.2.2.1 hsame.2.2.2.1

/-- A report is counted, or it confirms close range and stops the scan. -/
theorem advertisementReceived_cases (report : Advertisement) (c : Client) :
    ∃ d, Same c d ∧ (advertisementReceived env report c = d ∨
      advertisementReceived env report c =
        (Client.setState env .stoppingForConnect d).call .stopScan) := by
  unfold advertisementReceived
  simp only
  split_ifs
  all_goals
    first
      | refine ⟨_, ?_, .inr rfl⟩
        exact ⟨rfl, rfl, rfl, rfl, rfl⟩
      | refine ⟨_, ?_, .inl rfl⟩
        exact ⟨rfl, rfl, rfl, rfl, rfl⟩

/-- An advertisement stops the scan at most. -/
theorem advertisementReceived_sound (report : Advertisement) (h : Tracks c k)
    (hstate : c.bleState = .scanning) (hscanning : k.scanning = true) :
    Reaches env c k (advertisementReceived env report c) Sound := by
  obtain ⟨d, hsame, hd | hd⟩ := @advertisementReceived_cases env report c
  · rw [hd]
    exact .still hsame.2.2.2.2 (.inl (h.same hsame))
  have hphase : d.bleState.phase = .scanning := by rw [hsame.1, hstate]; rfl
  obtain ⟨hlink, hk⟩ := (h.same hsame).at hphase
  -- the reports come only once the start has been acknowledged
  have hscan : d.scanConfirmed = true := by
    cases hscan : d.scanConfirmed with
    | true => rfl
    | false =>
      rw [hk, hscan] at hscanning
      cases hscanning
  rw [if_pos hscan] at hk
  subst hk
  rw [hd]
  exact .calling (congrArg (· ++ [Call.stopScan]) hsame.2.2.2.2) (.inl ⟨hlink, hscan, rfl⟩)

/-- The answer to a scan command: the scan runs, or it has ended. -/
theorem scanEnableComplete_sound (status : UInt8) (h : Sound c k) (hsends : k.unanswered ≠ []) :
    Reaches env c (k.after (.commandComplete true status)) (scanEnableComplete env status c)
      Sound := by
  have hoverlap : (k.after (.commandComplete true status)).overlap = false := by
    rw [Radio.after_overlap]
    exact h.overlap
  unfold scanEnableComplete
  split
  · -- a scan command that fails ends the attempt as fatal
    have hfatal := @finish_lost env { c with
      faults := c.faults.raise .bleRadio, closingResult := .fatal } _ hoverlap rfl
    exact (hfatal.from_eq rfl).mono fun _ hlost => .inr hlost
  rename_i hstatus
  rw [not_not] at hstatus
  subst hstatus
  rcases h with h | h
  swap
  · rw [h.state]
    exact .still rfl (.inr ⟨h.state, h.link, h.listening, h.running, h.result, hoverlap⟩)
  have hphase : c.bleState = .scanning ∨ c.bleState = .stoppingForConnect ∨
      c.bleState = .stoppingScan := by
    -- only a radio that scans owes an answer to a scan command
    cases h.stance with
    | resting _ _ hk => exact absurd (by rw [hk]; rfl) hsends
    | scanning hstate => exact hstate
    | connecting _ _ hk => exact absurd (by rw [hk]; rfl) hsends
    | linked _ hlinked =>
      obtain ⟨handle, -, rfl⟩ := hlinked
      exact absurd rfl hsends
  split
  · rename_i hs
    obtain ⟨hlink, hk⟩ := h.at (by rw [hs]; rfl : c.bleState.phase = .scanning)
    cases hscan : c.scanConfirmed with
    | true =>
      rw [if_pos hscan] at hk
      exact absurd (by rw [hk]; rfl) hsends
    | false =>
      rw [if_neg (by rw [hscan]; nofun)] at hk
      subst hk
      refine .still rfl (.inl ?_)
      have hphase' : ({ c with scanConfirmed := true } : Client).bleState.phase = .scanning := by
        show c.bleState.phase = .scanning
        rw [hs]
        rfl
      unfold Tracks
      rw [hphase']
      exact ⟨hlink, rfl⟩
  · rename_i hs
    -- the scan has stopped, for the connection
    obtain ⟨hlink, -, rfl⟩ := h.at (by rw [hs]; rfl : c.bleState.phase = .stoppingForConnect)
    split
    · have hfinish := @finish_unlinked env { c with closingResult := .fatal } .rest hlink rfl
      exact (hfinish.from_eq rfl).mono fun _ htracks => .inl htracks
    · exact beginConnection_sound hlink rfl
  · rename_i hs
    -- the scan has stopped, and with it the attempt
    obtain ⟨hlink, -, rfl⟩ := h.at (by rw [hs]; rfl : c.bleState.phase = .stoppingScan)
    exact (finish_unlinked hlink rfl).mono fun _ htracks => .inl htracks
  · rename_i hscanning hconnect hstopping
    rcases hphase with hs | hs | hs
    · exact absurd hs hscanning
    · exact absurd hs hconnect
    · exact absurd hs hstopping

/-- The end of a connection procedure: no link, or one that is used or closed again. -/
theorem connectionComplete_sound (status : UInt8) (handle : ConHandle) (h : Sound c k)
    (hsends : k.connecting = true) :
    Reaches env c (k.after (.connectionComplete status handle))
      (connectionComplete env status handle c) Sound := by
  have hoverlap : (k.after (.connectionComplete status handle)).overlap = false := by
    rw [Radio.after_overlap]
    exact h.overlap
  rcases h with h | h
  swap
  · -- the client that has lost the attempt is idle
    unfold connectionComplete
    rw [if_pos (by rw [h.state]; exact ⟨by rintro ⟨⟩, by rintro ⟨⟩⟩)]
    exact .still rfl (.inr ⟨h.state, h.link, h.listening, h.running, h.result, hoverlap⟩)
  -- only a radio that connects completes a connection
  have hphase : (c.bleState = .connecting ∨ c.bleState = .closing) ∧ Unlinked c ∧
      k = { Radio.rest with connecting := true } := by
    have resting {p : Prop} (hk : k.connecting = false) : p :=
      absurd (hk.symm.trans hsends) (by decide)
    cases h.stance with
    | resting _ _ hk => exact resting (by rw [hk]; rfl)
    | scanning _ _ hk => exact resting hk.1
    | connecting hstate hlink hk => exact ⟨hstate, hlink, hk⟩
    | linked _ hlinked =>
      obtain ⟨handle, -, rfl⟩ := hlinked
      cases hsends
  obtain ⟨hstate, hlink, rfl⟩ := hphase
  unfold connectionComplete
  rw [if_neg (by rcases hstate with hs | hs <;> simp [hs])]
  simp only
  split
  · rename_i hstatus
    have hafter : Radio.after { Radio.rest with connecting := true }
        (.connectionComplete status handle) = .rest := by
      simp [Radio.after, Radio.rest, hstatus]
    rw [hafter]
    split
    · have hfinish := @finish_unlinked env { c with connectionHandle := none } .rest
        ⟨rfl, hlink.2⟩ rfl
      exact (hfinish.from_eq rfl).mono fun _ htracks => .inl htracks
    · have hidle : Tracks (Client.setState env .idle { c with connectionHandle := none }) .rest :=
        ⟨⟨rfl, hlink.2⟩, rfl⟩
      exact (transferFailed_sound _ hidle (by rintro ⟨⟩) (by rintro ⟨⟩)).from_eq rfl
  · rename_i hstatus
    rw [not_not] at hstatus
    have hafter : Radio.after { Radio.rest with connecting := true }
        (.connectionComplete status handle) = { Radio.rest with link := some handle } := by
      simp [Radio.after, Radio.rest, hstatus]
    rw [hafter]
    have hlinked : Linked { c with connectionHandle := some handle }
        { Radio.rest with link := some handle } := by
      refine ⟨handle, rfl, ?_⟩
      rw [show ({ c with connectionHandle := some handle } : Client).listening = false from hlink.2]
      rfl
    split
    · -- too late: the link is closed at once
      have hclosing := @linked_closing env _
        ((Client.setState env .closing { c with connectionHandle := some handle }).call
          (.disconnect handle)) _ handle hlinked rfl rfl rfl rfl
      exact (hclosing.from_eq rfl).mono fun _ htracks => .inl htracks
    · have htalking : Talking ((Client.setState env .discoverService
          { c with connectionHandle := some handle, serviceFound := false }).call
          (.discoverServices (some handle))) { Radio.rest with link := some handle } := ⟨hlinked, rfl⟩
      split
      · exact (htalking.failed _).behind rfl rfl
      · exact .calling rfl (.inl htalking.tracks)

/-- The end of a link. -/
theorem disconnectionComplete_sound (handle : ConHandle) (h : Sound c k)
    (hsends : k.link = some handle) :
    Reaches env c (k.after (.disconnectionComplete handle))
      (disconnectionComplete env handle c) Sound := by
  rcases h with h | h
  swap
  · unfold disconnectionComplete
    rw [if_pos (by rw [h.link]; nofun)]
    exact .still rfl (.inr ⟨h.state, h.link, h.listening, h.running, h.result, h.overlap⟩)
  -- only an open connection is lost, and the client knows it
  have hlinked : Linked c k := by
    have resting {p : Prop} (hk : k.link = none) : p := by
      rw [hk] at hsends
      cases hsends
    cases h.stance with
    | resting _ _ hk => exact resting (by rw [hk]; rfl)
    | scanning _ _ hk => exact resting hk.2
    | connecting _ _ hk => exact resting (by rw [hk]; rfl)
    | linked _ hlinked => exact hlinked
  obtain ⟨own, hown, rfl⟩ := hlinked
  have hsame : own = handle := Option.some.inj hsends
  subst hsame
  have hfinish (d : Client) (hlistening : d.listening = c.listening) (hcalls : d.calls = c.calls) :
      Reaches env c (Radio.after { Radio.rest with link := some own, listener := c.listening }
        (.disconnectionComplete own)) (finishAttempt env d) Sound := by
    refine ((finish_rest ?_).from_eq hcalls).mono fun _ htracks => .inl htracks
    rw [hlistening]
    rfl
  unfold disconnectionComplete
  rw [if_neg (not_not.mpr hown)]
  simp only
  split
  · exact hfinish _ rfl rfl
  · exact hfinish _ rfl rfl

/-- **Every packet the radio may deliver** keeps client and radio in step, or ends the attempt
as fatal. -/
theorem handle_sound (event : Event) (h : Sound c k) (hsends : k.sends event = true) :
    Reaches env c (k.after event) (handle robotFile env event c) Sound := by
  cases event with
  | stackState working =>
    rcases h with h | h
    · exact .still rfl (.inl (h.congr rfl rfl rfl rfl))
    · exact .still rfl (.inr ⟨h.state, h.link, h.listening, h.running, h.result, h.overlap⟩)
  | commandComplete scanEnable status =>
    cases scanEnable with
    | false => exact .still rfl h
    | true => exact scanEnableComplete_sound status h (of_decide_eq_true hsends)
  | advertisingReport report =>
    show Reaches env c k (if c.bleState = .scanning then _ else _) Sound
    split
    · rename_i hstate
      rcases h with h | h
      · exact advertisementReceived_sound report h hstate hsends
      · rw [h.state] at hstate
        cases hstate
    · exact .still rfl h
  | connectionComplete status handle => exact connectionComplete_sound status handle h hsends
  | disconnectionComplete handle =>
    exact disconnectionComplete_sound handle h (of_decide_eq_true hsends)
  | notification handle valueHandle value => exact gattHandler_sound _ h
  | serviceQueryResult handle => exact gattHandler_sound _ h
  | characteristicQueryResult handle valueHandle => exact gattHandler_sound _ h
  | queryComplete handle status => exact gattHandler_sound _ h

/-! ## Run-loop callbacks -/

/-- The start callback begins with the radio at rest. -/
theorem startAttemptCallback_sound (h : Unlinked c) (hk : k = .rest) :
    Reaches env c k (startAttemptCallback env c) Sound := by
  subst hk
  unfold startAttemptCallback
  split
  · have hfinish := @finish_unlinked env { c with closingResult := .fatal } .rest h rfl
    exact (hfinish.from_eq rfl).mono fun _ htracks => .inl htracks
  simp only
  split
  · exact (beginConnection_sound (c := { c with
      closeConfirmed := c.closeConfirmed
      scanConfirmed := false
      payloadVerified := false
      pendingLength := 0
      replyLength := 0
      replyOffset := 0
      sampleCount := 0
      sampleIndex := 0
      closeCount := 0
      rssiSamples := .filled 12 0 }) h rfl).from_eq rfl
  · exact .calling rfl (.inl ⟨h, rfl⟩)

/-- The polls of an abort are none of the radio's concern. -/
theorem abortPolls_same (c : Client) : Same c (abortPolls env c) := by
  unfold abortPolls Client.pollStop
  cases env.stopAtReport <;> cases env.stopAtFault <;> cases env.stopAtClose <;>
    simp only [Bool.false_eq_true, if_false, if_true] <;> split <;>
    exact ⟨rfl, rfl, rfl, rfl, rfl⟩

/-- The abort callback closes whatever the attempt is at. -/
theorem abortAttemptCallback_sound (h : Sound c k) :
    Reaches env c k (abortAttemptCallback env c) Sound := by
  unfold abortAttemptCallback
  split
  · exact .still rfl h
  rename_i hopen
  rw [not_or, not_or, Bool.not_eq_false] at hopen
  obtain ⟨hrunning, hstop, hclosing⟩ := hopen
  rcases h with h | h
  swap
  · rw [h.running] at hrunning
    cases hrunning
  have hsame := @abortPolls_same env c
  show Reaches env c k (closeAttempt env _ (abortPolls env c)) Sound
  refine (closeAttempt_sound (h.same hsame) ?_ ?_).from_eq hsame.2.2.2.2
  · rw [hsame.1]
    exact hstop
  · rw [hsame.1]
    exact hclosing

/-! ## The whole -/

/-- What holds along a run in which every attempt begins with an empty run loop. -/
structure Safe (s : Air) : Prop where
  main : Live s.sys ∨ Dead s.sys
  sound : Sound s.sys.client s.radio
  kept : ¬ Dead s.sys → s.sys.main.pc.stage ≠ .loop → Tracks s.sys.client s.radio
  waiting : .start ∈ s.sys.queue → Unlinked s.sys.client ∧ s.radio = .rest
  order : .start ∉ s.sys.queue.tail

variable {s t : Air}

/-- The radio is at rest while the client is idle and keeps track. -/
theorem Tracks.rest (h : Tracks c k) (hstate : c.bleState = .idle ∨ c.bleState = .starting) :
    Unlinked c ∧ k = .rest := by
  rcases hstate with hs | hs
  · exact h.at (by rw [hs]; rfl : c.bleState.phase = .idle)
  · exact h.at (by rw [hs]; rfl : c.bleState.phase = .starting)

/-- The starting phase is the one state `BLE_STARTING`. -/
theorem starting_iff (c : Client) : c.life.phase = .starting ↔ c.bleState = .starting := by
  show c.bleState.phase = _ ↔ _
  cases c.bleState <;> decide

/-- A radio at rest sends nothing the client takes. -/
theorem handle_rest (event : Event) (h : Unlinked c) (hsends : Radio.rest.sends event = true) :
    Unlinked (handle robotFile env event c) ∧
      (handle robotFile env event c).bleState = c.bleState ∧
      Reaches env c (Radio.rest.after event) (handle robotFile env event c) fun _ k => k = .rest := by
  have deaf (event : Event) : gattHandler robotFile env event c = c := gattHandler_deaf event h.1
  have same (event : Event) (hd : handle robotFile env event c = c)
      (hafter : Radio.rest.after event = .rest) :
      Unlinked (handle robotFile env event c) ∧
        (handle robotFile env event c).bleState = c.bleState ∧
        Reaches env c (Radio.rest.after event) (handle robotFile env event c)
          fun _ k => k = .rest := by
    rw [hd]
    exact ⟨h, rfl, .still rfl hafter⟩
  cases event with
  | stackState working => exact ⟨h, rfl, .still rfl rfl⟩
  | commandComplete scanEnable status =>
    cases scanEnable with
    | false => exact ⟨h, rfl, .still rfl rfl⟩
    | true => simp [Radio.sends, Radio.rest] at hsends
  | advertisingReport report => cases hsends
  | connectionComplete status handle => cases hsends
  | disconnectionComplete handle => simp [Radio.sends, Radio.rest] at hsends
  | notification handle valueHandle value =>
    exact same _ (deaf (.notification handle valueHandle value)) rfl
  | serviceQueryResult handle => exact same _ (deaf (.serviceQueryResult handle)) rfl
  | characteristicQueryResult handle valueHandle =>
    exact same _ (deaf (.characteristicQueryResult handle valueHandle)) rfl
  | queryComplete handle status => exact same _ (deaf (.queryComplete handle status)) rfl

/-- Client, main thread and run loop do what they do without the radio. -/
theorem airStep_sys {action : Action} (hstep : airStep robotFile s action = some t) :
    step robotFile s.sys action = some t.sys := by
  cases action with
  | packet event env =>
    simp only [airStep] at hstep
    split at hstep
    · cases hstep
      rfl
    · cases hstep
  | callback env =>
    obtain ⟨u, hu, rfl⟩ := Option.map_eq_some_iff.mp hstep
    exact hu
  | main world =>
    obtain ⟨u, hu, rfl⟩ := Option.map_eq_some_iff.mp hstep
    exact hu

/-- A packet in a safe state. -/
theorem safe_packet {event : Event} (h : Safe s) (hsends : s.radio.sends event = true)
    (hmain : Live { s.sys with client := handle robotFile env event s.sys.client } ∨
      Dead { s.sys with client := handle robotFile env event s.sys.client }) :
    Safe ⟨{ s.sys with client := handle robotFile env event s.sys.client },
      (s.radio.after event).obey env
        (newCalls s.sys.client (handle robotFile env event s.sys.client))⟩ := by
  have resting (hrest : Unlinked s.sys.client ∧ s.radio = .rest) :
      Unlinked (handle robotFile env event s.sys.client) ∧
        (handle robotFile env event s.sys.client).bleState = s.sys.client.bleState ∧
        (s.radio.after event).obey env
          (newCalls s.sys.client (handle robotFile env event s.sys.client)) = .rest := by
    rw [hrest.2] at hsends ⊢
    obtain ⟨hlink, hstate, hreach⟩ := @handle_rest robotFile env _ event
      hrest.1 hsends
    exact ⟨hlink, hstate, hreach.newCalls⟩
  refine ⟨hmain, (handle_sound event h.sound hsends).newCalls, fun hdead hstage => ?_,
    fun hstart => ?_, h.order⟩
  · -- outside the loop the client is idle or starting
    have hlive : Live s.sys := h.main.resolve_right hdead
    have hstate : s.sys.client.bleState = .idle ∨ s.sys.client.bleState = .starting := by
      rw [← idle_iff, ← starting_iff]
      change s.sys.main.pc.stage ≠ .loop at hstage
      cases hs : s.sys.main.pc.stage with
      | outside => exact .inl ((live_outside hs).mp hlive).1.phase
      | tests => exact .inl ((live_tests (.inl hs)).mp hlive).1.phase
      | writes => exact .inl ((live_tests (.inr hs)).mp hlive).1.phase
      | setup => exact ((live_setup hs).mp hlive).1.phase
      | loop => exact absurd hs hstage
    obtain ⟨hlink, hstate', hradio⟩ := resting ((h.kept hdead hstage).rest hstate)
    show Tracks (handle robotFile env event s.sys.client) _
    unfold Tracks
    rw [hstate', hradio]
    rcases hstate with hs | hs
    · rw [hs]
      exact ⟨hlink, rfl⟩
    · rw [hs]
      exact ⟨hlink, rfl⟩
  · obtain ⟨hlink, -, hradio⟩ := resting (h.waiting hstart)
    exact ⟨hlink, hradio⟩

/-- A callback in a safe state. -/
theorem safe_callback {u : Sys} (h : Safe s) (hstep : runCallback env s.sys = some u)
    (hmain : Live u ∨ Dead u) :
    Safe ⟨u, s.radio.obey env (newCalls s.sys.client u.client)⟩ := by
  have hcleared (rest : List Callback) (callback : Callback) (hqueue : s.sys.queue = callback :: rest) :
      .start ∉ rest := by
    have horder := h.order
    rw [hqueue] at horder
    exact horder
  have loop (hqueue : s.sys.queue ≠ []) (hlive : Live s.sys) :
      s.sys.main.pc.stage = .outside ∨ s.sys.main.pc.stage = .loop := hlive.stage_of_queue hqueue
  cases runCallback_cases hstep with
  | start rest hqueue =>
    have hmem : .start ∈ s.sys.queue := by simp [hqueue]
    obtain ⟨hlink, hrest⟩ := h.waiting hmem
    have hnone := hcleared rest .start hqueue
    refine ⟨hmain, (startAttemptCallback_sound hlink hrest).newCalls, ?_,
      fun hstart => absurd hstart hnone, fun hstart => hnone (List.mem_of_mem_tail hstart)⟩
    intro hdead hstage
    have hlive : Live s.sys := h.main.resolve_right hdead
    exact absurd (hlive.loop_of_start hmem) hstage
  | abort rest hqueue =>
    have hnone := hcleared rest .abort hqueue
    have hsound := (@abortAttemptCallback_sound env _ _ h.sound).newCalls
    refine ⟨hmain, hsound, ?_, fun hstart => absurd hstart hnone,
      fun hstart => hnone (List.mem_of_mem_tail hstart)⟩
    intro hdead hstage
    -- between attempts nothing runs, so the callback returns at once
    have hlive : Live s.sys := h.main.resolve_right hdead
    rcases loop (by simp [hqueue]) hlive with hs | hs
    · have hrunning : s.sys.client.attemptRunning = false := ((live_outside hs).mp hlive).1.running
      have hsame : abortAttemptCallback env s.sys.client = s.sys.client := by
        rw [abortAttemptCallback, if_pos (.inl hrunning)]
      have hkept := h.kept hdead hstage
      have hnew : newCalls s.sys.client (abortAttemptCallback env s.sys.client) = [] := by
        rw [hsame, newCalls, List.drop_length]
      show Tracks (abortAttemptCallback env s.sys.client) (s.radio.obey env _)
      rw [hnew, hsame]
      exact hkept
    · exact absurd hs hstage

/-- The main thread does not touch what the radio depends on, except that it begins attempts. -/
theorem Safe.keep {u : Sys} (h : Safe s) (hmain : Live u ∨ Dead u) (hdead : Dead s.sys → Dead u)
    (hsame : Same { s.sys.client with calls := u.client.calls } u.client)
    (hrunning : u.client.attemptRunning = s.sys.client.attemptRunning)
    (hresult : u.client.result = s.sys.client.result)
    (hstart : .start ∈ u.queue → .start ∈ s.sys.queue) (horder : .start ∉ u.queue.tail)
    (hstage : ¬ Dead u → u.main.pc.stage ≠ .loop →
      s.sys.main.pc.stage ≠ .loop ∨ Tracks s.sys.client s.radio) : Safe ⟨u, s.radio⟩ := by
  obtain ⟨hstate, hlink, hlistening, hscan, -⟩ := hsame
  refine ⟨hmain, ?_, fun hnot hne => ?_, fun hmem => ?_, horder⟩
  · rcases h.sound with hs | hs
    · exact .inl (hs.congr hstate hlink hlistening hscan)
    · exact .inr ⟨hstate.trans hs.state, hlink.trans hs.link, hlistening.trans hs.listening,
        hrunning.trans hs.running, hresult.trans hs.result, hs.overlap⟩
  · have htracks : Tracks s.sys.client s.radio := by
      rcases hstage hnot hne with hs | hs
      · exact h.kept (fun hd => hnot (hdead hd)) hs
      · exact hs
    exact htracks.congr hstate hlink hlistening hscan
  · obtain ⟨⟨hnone, hsilent⟩, hrest⟩ := h.waiting (hstart hmem)
    exact ⟨⟨hlink.trans hnone, hlistening.trans hsilent⟩, hrest⟩

/-- A step of the main thread in a safe state. -/
theorem safe_main {u : Sys} (h : Safe s) (hstep : MainStep s.sys u) (hmain : Live u ∨ Dead u)
    (hdead : Dead s.sys → Dead u) : Safe ⟨u, s.radio⟩ := by
  have stage {pc : Pc} (hpc : s.sys.main.pc = pc) (hne : pc.stage ≠ .loop) :
      s.sys.main.pc.stage ≠ .loop := by
    rw [hpc]
    exact hne
  have alive {pc : Pc} (hpc : s.sys.main.pc = pc) (hreturned : pc ≠ .returned)
      (hdriving : pc ≠ .driving) : ¬ Dead s.sys := by
    rintro ⟨-, hp | hp⟩
    · exact hreturned (hpc.symm.trans hp)
    · exact hdriving (hpc.symm.trans hp)
  have same : Same s.sys.client s.sys.client := ⟨rfl, rfl, rfl, rfl, rfl⟩
  cases hstep with
  | drive faults hpc =>
    exact h.keep hmain hdead same rfl rfl id h.order fun _ _ => .inl (stage hpc nofun)
  | call hpc =>
    exact h.keep hmain hdead same rfl rfl id h.order fun _ _ => .inl (stage hpc nofun)
  | stop faults main hpc =>
    refine h.keep hmain hdead same rfl rfl id h.order fun _ _ => .inl ?_
    rcases hpc with hpc | hpc
    · exact stage hpc nofun
    · exact stage hpc nofun
  | far faults hpc =>
    exact h.keep hmain hdead same rfl rfl id h.order fun _ _ => .inl (stage hpc nofun)
  | begin faults dbm hpc =>
    -- the log begins anew, and the radio has heard all of the old one
    exact h.keep hmain hdead ⟨rfl, rfl, rfl, rfl, rfl⟩ rfl rfl id h.order
      fun _ _ => .inl (stage hpc nofun)
  | refuse faults hpc =>
    refine h.keep hmain hdead same rfl rfl id h.order fun _ _ => .inl ?_
    rw [hpc]
    nofun
  | test faults pc hpc =>
    refine h.keep hmain hdead same rfl rfl id h.order fun _ _ => .inl ?_
    rw [hpc]
    nofun
  | setReconnect hpc =>
    exact h.keep hmain hdead same rfl rfl id h.order fun _ _ => .inl (stage hpc nofun)
  | clearAbort pc hpc =>
    exact h.keep hmain hdead same rfl rfl id h.order fun _ _ => .inl (stage hpc nofun)
  | clearConfirmed hpc =>
    exact h.keep hmain hdead same rfl rfl id h.order fun _ _ => .inl (stage hpc nofun)
  | setRunning hpc =>
    have hkept := h.kept (alive hpc nofun nofun) (stage hpc nofun)
    have htracks : Tracks { s.sys.client with attemptRunning := true } s.radio :=
      hkept.congr rfl rfl rfl rfl
    exact ⟨hmain, .inl htracks, fun _ _ => htracks, h.waiting, h.order⟩
  | stamp now hpc =>
    exact h.keep hmain hdead same rfl rfl id h.order fun _ _ => .inl (stage hpc nofun)
  | starting hpc =>
    have halive := alive hpc nofun nofun
    have hkept := h.kept halive (stage hpc nofun)
    have hphase := ((live_setup (by rw [hpc]; rfl)).mp (h.main.resolve_right halive)).1.phase
    have hstate : s.sys.client.bleState = .idle ∨ s.sys.client.bleState = .starting := by
      rw [← idle_iff, ← starting_iff]
      exact hphase
    have htracks : Tracks { s.sys.client with bleState := .starting } s.radio := hkept.rest hstate
    exact ⟨hmain, .inl htracks, fun _ _ => htracks, h.waiting, h.order⟩
  | queueStart main hpc hpc' =>
    have halive := alive hpc nofun nofun
    have hkept := h.kept halive (stage hpc nofun)
    obtain ⟨hwaiting, hqueue, -⟩ :=
      (live_setup (by rw [hpc]; rfl)).mp (h.main.resolve_right halive)
    have hstate : s.sys.client.bleState = .idle ∨ s.sys.client.bleState = .starting := by
      rw [← idle_iff, ← starting_iff]
      exact hwaiting.phase
    refine ⟨hmain, .inl hkept, fun _ _ => hkept, fun _ => hkept.rest hstate, ?_⟩
    show .start ∉ (enqueue .start s.sys.queue).tail
    simp [hqueue, enqueue]
  | loop faults abort queue main hpc hpc' hleaving hsub hqueue =>
    refine h.keep hmain hdead same rfl rfl ?_ ?_ fun _ hne => absurd hpc' hne
    · rcases hqueue with rfl | rfl
      · exact id
      · exact start_mem_enqueue.mp
    · rcases hqueue with rfl | rfl
      · exact h.order
      · exact not_start_mem_tail_enqueue h.order
  | giveUp faults hpc =>
    exact h.keep hmain hdead same rfl rfl id h.order fun hnot _ => absurd ⟨rfl, .inl rfl⟩ hnot
  | result hpc =>
    refine h.keep hmain hdead same rfl rfl id h.order fun hnot _ => .inr ?_
    rcases h.sound with hs | hs
    · exact hs
    · exact absurd ⟨hs.result, .inl rfl⟩ hnot
  | done faults main hpc =>
    exact h.keep hmain hdead same rfl rfl id h.order fun _ _ => .inl (stage hpc nofun)
  | again faults main hpc =>
    exact h.keep hmain hdead same rfl rfl id h.order fun _ _ => .inl (stage hpc nofun)

/-- One move of the whole keeps it safe. -/
theorem safe_step {action : Action} (h : Safe s) (hprompt : Prompt s action)
    (hstep : airStep robotFile s action = some t) : Safe t := by
  have hsys := airStep_sys hstep
  have hdead (hd : Dead s.sys) : Dead t.sys := dead_step robotFile hd hsys
  have hmain : Live t.sys ∨ Dead t.sys := by
    rcases h.main with hl | hd
    · exact live_step robotFile hl hprompt hsys
    · exact .inr (hdead hd)
  cases action with
  | packet event env =>
    simp only [airStep] at hstep
    split at hstep
    · rename_i hsends
      cases hstep
      exact safe_packet h hsends hmain
    · cases hstep
  | callback env =>
    obtain ⟨u, hu, rfl⟩ := Option.map_eq_some_iff.mp hstep
    exact safe_callback h hu hmain
  | main world =>
    obtain ⟨u, hu, rfl⟩ := Option.map_eq_some_iff.mp hstep
    exact safe_main h (mainStep_cases world hsys) hmain hdead

/-- Client and radio agree at boot. -/
theorem safe_boot : Safe Air.boot :=
  ⟨.inl live_boot, .inl ⟨⟨rfl, rfl⟩, rfl⟩, fun _ _ => ⟨⟨rfl, rfl⟩, rfl⟩, nofun, nofun⟩

/-- **Every attempt cleans up**: in every run in which a callback an attempt has queued runs
before the next attempt begins, whenever `run_attempt` returns anything but `PAYLOAD_FATAL`
the radio is quiet and the client idle, and `gap_connect` is never called during a scan. -/
theorem attempts_clean_up (robotFile : Bytes) {actions : List Action} {s : Air}
    (hprompt : Along (airStep robotFile) Prompt Air.boot actions)
    (hrun : run (airStep robotFile) Air.boot actions = some s) : s.CleanedUp := by
  have h : Safe s := run_invariant_along (I := Safe)
    (fun s action t hs hp hstep => safe_step hs hp hstep) actions Air.boot s safe_boot hprompt hrun
  refine ⟨h.sound.overlap, ?_⟩
  intro hpc hreturned
  have hdead : ¬ Dead s.sys := fun hd => hreturned hd.1
  have hstage : s.sys.main.pc.stage = .outside := by rw [hpc]; rfl
  have hidle := ((live_outside hstage).mp (h.main.resolve_right hdead)).1
  have hstate : s.sys.client.bleState = .idle := (idle_iff _).mp hidle.phase
  obtain ⟨-, hrest⟩ := (h.kept hdead (by rw [hstage]; nofun)).rest (.inl hstate)
  rw [hrest]
  exact ⟨⟨rfl, rfl, rfl, rfl, rfl⟩, hstate⟩

/-- The main thread thirty seconds on. -/
def mainLate : Action := .main ⟨30000, false, true, true, true, false, true, none⟩

/-- The first attempt connects and runs into its time limit; the link is lost just before the
abort callback is queued, so `run_attempt` returns `PAYLOAD_RETRY`. The second attempt queues
its start callback behind the abort callback, which then closes it before it has begun. -/
def staleAbort : List Action :=
  attemptBegun ++ closeRangeConfirmed ++ [.packet (.connectionComplete 0 1) accepting] ++
    List.replicate 9 mainLate ++ [.packet (.disconnectionComplete 1) accepting] ++
    List.replicate 20 mainLate ++ [.callback accepting, .callback accepting] ++
    List.replicate 3 mainLate

/-- Without that order an attempt is returned as `PAYLOAD_RETRY` while a connection is being
opened. -/
theorem staleAbort_left_open :
    ¬ ∀ (actions : List Action) (s : Air),
      run (airStep robotTestFile) Air.boot actions = some s → s.CleanedUp := by
  intro hclaim
  have hend : (run (airStep robotTestFile) Air.boot staleAbort).map
      (fun s => (s.sys.main.pc, s.sys.main.returned, s.radio.connecting)) =
        some (.returned, .retry, true) := by
    decide +kernel
  obtain ⟨s, hrun, hs⟩ := Option.map_eq_some_iff.mp hend
  simp only [Prod.mk.injEq] at hs
  obtain ⟨hpc, hreturned, hconnecting⟩ := hs
  obtain ⟨⟨-, -, hquiet, -⟩, -⟩ := (hclaim staleAbort s hrun).2 hpc (by rw [hreturned]; nofun)
  exact absurd (hquiet.symm.trans hconnecting) nofun

/-- An attempt that loses its link is retried, and both callbacks have run in between. -/
def linkLost : List Action :=
  attemptBegun ++ closeRangeConfirmed ++
    [.packet (.connectionComplete 0 1) accepting, .packet (.disconnectionComplete 1) accepting] ++
    List.replicate 3 (mainAt 0)

/-- The run that loses its link returns `PAYLOAD_RETRY` and cleans up. -/
theorem linkLost_cleans_up :
    ∃ s, run (airStep robotTestFile) Air.boot linkLost = some s ∧
      (s.sys.main.pc, s.sys.main.returned) = (.returned, .retry) ∧ s.CleanedUp := by
  have hprompt : Along (airStep robotTestFile) Prompt Air.boot linkLost := by decide +kernel
  have hend : (run (airStep robotTestFile) Air.boot linkLost).map
      (fun s => (s.sys.main.pc, s.sys.main.returned)) = some (.returned, .retry) := by
    decide +kernel
  obtain ⟨s, hrun, hs⟩ := Option.map_eq_some_iff.mp hend
  exact ⟨s, hrun, hs, attempts_clean_up robotTestFile hprompt hrun⟩

end PayloadClient
