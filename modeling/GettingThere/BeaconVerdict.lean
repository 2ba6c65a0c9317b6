/-
# What the beacon verifies

`MSG_FILE_END` compares what was received with what was announced.  Both are zero where nothing
was announced, and the CRC-32 of nothing is zero, so the verdict on no file at all is that it is
verified.  The four variables belong to no connection: one link can end what another has begun.
And `queue_notification` drops an answer while notifications are off, so a file can be announced,
received and verified that was never answered with `MSG_FILE_READY`.

What a link has announced and sent is read off the history (`mark`), and compared with the
variables and the buffer that the verdict is given on (`Beacon.intake`).
-/
import GettingThere.BeaconBounds

namespace BeaconServer

open TransferProtocol Transition

variable (cfg : Config)

/-! ## The history of a link -/

/-- The events so far, newest first, each with the state that it came in. -/
abbrev History := List (Beacon × Event)

/-- The link that writes to the transfer characteristic. -/
def writerOf : Event → Option ConHandle
  | .attWrite con .value _ => some con
  | _ => none

/-- The link that writes a `MSG_FILE_END`. -/
def enderOf : Event → Option ConHandle
  | .attWrite con .value buffer =>
    if MessageType.ofCode? (byteAt buffer 0) = some .fileEnd then some con else none
  | _ => none

/-- The notification that a handler has queued for a link. -/
def queuedFor (con : ConHandle) (r : Beacon × List Effect) : Option Bytes :=
  if .requestCanSendNow con ∈ r.2 then
    some (r.1.pendingNotification.prefixOf r.1.pendingNotificationLength)
  else none

/-- The event is answered with `MSG_FILE_READY`. -/
def readies (con : ConHandle) (b : Beacon) (e : Event) : Bool :=
  queuedFor con (handle cfg b e) = some [MessageType.fileReady.code, cfg.beaconId]

/-- Where a link stands since it began and since its latest valid `MSG_HELLO`: nothing
announced, or the latest `MSG_FILE_START` of at least 7 bytes, whether it was answered with
`MSG_FILE_READY`, and the packets of the link accepted since. -/
inductive Mark
  | cleared
  | announced (start : Bytes) (ready : Bool) (packets : List Bytes)
  deriving DecidableEq

/-- A packet that was accepted joins the announcement. -/
def Mark.push (packet : Bytes) : Mark → Mark
  | .announced start ready packets => .announced start ready (packets ++ [packet])
  | .cleared => .cleared

/-- What a write of the link is to its history. -/
def Mark.write (con : ConHandle) (b : Beacon) (e : Event) (m : Mark) : Mark :=
  match moveOf cfg e with
  | some .clear => .cleared
  | some (.announce start) => .announced start (readies cfg con b e) []
  | some (.carry packet) => if fileDataFits packet b then m.push packet else m
  | none => m

/-- What an event is to the history of a link. -/
def Mark.after (con : ConHandle) (b : Beacon) (e : Event) (m : Mark) : Mark :=
  match e with
  | .disconnectionComplete => .cleared
  | .leConnectionComplete other => if other = con then .cleared else m
  | e => if writerOf e = some con then m.write cfg con b e else m

/-- Where a link stands. -/
def mark (con : ConHandle) : History → Mark
  | [] => .cleared
  | (b, e) :: past => (mark con past).after cfg con b e

/-- A file that was announced, answered with `MSG_FILE_READY` and received: its chunks are
numbered from 0 on, and have together the length and the CRC-32 that were announced. -/
def Mark.Received : Mark → Prop
  | .announced start ready packets =>
    ready = true ∧
    packets.map (fun packet => byteAt packet 1) = (List.range packets.length).map UInt8.ofNat ∧
    (packets.flatMap fileBytes).length = announcedLength start ∧
    transferCrc32 (packets.flatMap fileBytes) = transferReadU32 start 3
  | .cleared => False

instance : (m : Mark) → Decidable m.Received
  | .announced start ready packets => by unfold Mark.Received; infer_instance
  | .cleared => .isFalse id

/-- The beacon with its history. -/
def serve (s : Beacon × History) (e : Event) : Option (Beacon × History) :=
  some ((handle cfg s.1 e).1, (s.1, e) :: s.2)

/-- What must hold of one event: a file that a `MSG_FILE_END` finds verified was received on
its link. -/
def Justified (s : Beacon × History) (e : Event) : Prop :=
  ∀ con ∈ enderOf e, (handle cfg s.1 e).1.beaconStatus = .fileVerified →
    (mark cfg con s.2).Received

instance (s : Beacon × History) (e : Event) : Decidable (Justified cfg s e) := by
  unfold Justified; exact Option.decidableForallMem _

/-! ## When the verdict can be trusted -/

/-- An answer goes out to the link. -/
def Beacon.notifies (con : ConHandle) (b : Beacon) : Bool :=
  b.notificationsEnabled ∧ b.connectionHandle = some con

/-- The transfer is the link's own: since the link began it has announced a file with
notifications on, and since then there was no disconnection, no valid `MSG_HELLO`, no
announcement and no accepted packet of another link. -/
def owns (con : ConHandle) : History → Bool
  | [] => false
  | (b, e) :: past =>
    match moveOf cfg e with
    | some .clear => false
    | some (.announce _) => writerOf e = some con ∧ b.notifies con
    | some (.carry packet) => (fileDataFits packet b → writerOf e = some con) ∧ owns con past
    | none => e ≠ .leConnectionComplete con ∧ owns con past

/-- A `MSG_FILE_END` comes only from the link whose transfer it is. -/
def AfterAnnouncement (s : Beacon × History) (e : Event) : Prop :=
  ∀ con ∈ enderOf e, owns cfg con s.2 = true

instance (s : Beacon × History) (e : Event) : Decidable (AfterAnnouncement cfg s e) := by
  unfold AfterAnnouncement; exact Option.decidableForallMem _

/-- The link that was reported last and has not ended. -/
def linkNow : History → Option ConHandle
  | [] => none
  | (_, .leConnectionComplete con) :: _ => some con
  | (_, .disconnectionComplete) :: _ => none
  | _ :: past => linkNow past

/-- There is one link at a time, which enables notifications before it announces a file. -/
structure Tidy (s : Beacon × History) (e : Event) : Prop where
  begins : ∀ con, e = .leConnectionComplete con → linkNow s.2 = none
  writes : ∀ con ∈ writerOf e, linkNow s.2 = some con
  announces : ∀ start, moveOf cfg e = some (.announce start) →
    ∀ con ∈ writerOf e, s.1.notifies con = true

/-! ## The answer to an announcement -/

/-- A notification goes out to a link that has enabled them. -/
theorem queuedFor_queueNotification {con : ConHandle} {b : Beacon} (h : b.notifies con = true)
    {data : Bytes} (hlen : data.length ≤ transferPacketSize) :
    queuedFor con (queueNotification data b) = some data := by
  simp only [Beacon.notifies, decide_eq_true_eq] at h
  unfold queueNotification
  rw [h.1, h.2]
  show (if _ ∈ [Effect.requestCanSendNow con] then some _ else none) = _
  rw [if_pos (List.mem_singleton_self _), List.take_of_length_le hlen]
  exact congrArg some (Buffer.prefixOf_write_zero b.pendingNotification hlen)

/-- What a move that announces is. -/
theorem moveOf_announce {e : Event} {start : Bytes} (h : moveOf cfg e = some (.announce start)) :
    7 ≤ start.length ∧ ∀ b, handle cfg b e = receiveFileStart cfg start b := by
  unfold moveOf at h
  split at h
  · cases h
  split at h
  · split_ifs at h
    cases h
  · rename_i buffer hmessage
    split_ifs at h with hlen
    cases h
    refine ⟨hlen, fun b => ?_⟩
    obtain ⟨con, rfl, hne, htype⟩ := messageOf_inv hmessage
    rw [handle, attWriteCallback, if_neg hne, receiveMessage, htype]
  · split_ifs at h
    cases h
  · cases h

/-- With notifications on, an announcement is answered with `MSG_FILE_READY` if it fits. -/
theorem readies_announce {con : ConHandle} {b : Beacon} {e : Event} {start : Bytes}
    (hmove : moveOf cfg e = some (.announce start)) (h : b.notifies con = true) :
    readies cfg con b e = decide (announcedLength start ≤ transferMaxFileSize) := by
  obtain ⟨hlen, hhandle⟩ := moveOf_announce cfg hmove
  rw [readies, hhandle, receiveFileStart, if_neg (Nat.not_lt_of_le hlen)]
  dsimp only
  split_ifs with hover
  · rw [sendError, sendSimple, queuedFor_queueNotification (by exact h) (by decide),
      decide_eq_false (Nat.not_le_of_lt hover)]
    simp [MessageType.code]
  · rw [sendSimple, queuedFor_queueNotification (by exact h) (by simp [transferPacketSize]),
      decide_eq_true (Nat.le_of_not_lt hover)]
    exact decide_eq_true rfl

@[simp] theorem queueNotification_beaconStatus (data : Bytes) (b : Beacon) :
    (queueNotification data b).1.beaconStatus = b.beaconStatus := by
  unfold queueNotification; split <;> rfl

/-- The verdict on a `MSG_FILE_END`. -/
theorem verified_iff {b : Beacon} {e : Event} {con : ConHandle} (hend : con ∈ enderOf e) :
    (handle cfg b e).1.beaconStatus = .fileVerified ↔ fileVerified b = true := by
  unfold enderOf at hend
  split at hend
  · rename_i con' buffer
    split_ifs at hend with htype
    · have hne : buffer ≠ [] := by
        rintro rfl
        exact absurd htype (by decide)
      rw [handle, attWriteCallback, if_neg hne, receiveMessage, htype]
      show (receiveFileEnd b).1.beaconStatus = _ ↔ _
      rw [receiveFileEnd, queueNotification_beaconStatus]
      cases fileVerified b with
      | true => exact ⟨fun _ => rfl, fun _ => rfl⟩
      | false => exact ⟨by rintro ⟨⟩, by rintro ⟨⟩⟩
    · cases hend
  · cases hend

/-! ## A transfer that is followed -/

/-- The intake is what the history of the link says. -/
structure Tracks (i : Intake) (start : Bytes) (ready : Bool) (packets : List Bytes) : Prop where
  counted : Offer.Counted ⟨start, packets⟩ i
  crc : i.expectedCrc = transferReadU32 start 3
  ready : ready = decide (announcedLength start ≤ transferMaxFileSize)
  numbers : packets.map (fun packet => byteAt packet 1) =
    (List.range packets.length).map UInt8.ofNat
  file : i.receivedLength ≤ 256 → i.file.prefixOf i.receivedLength = packets.flatMap fileBytes

/-- A link whose transfer it is knows what the beacon has of it. -/
def Mark.Tracks (i : Intake) : Mark → Prop
  | .announced start ready packets => BeaconServer.Tracks i start ready packets
  | .cleared => False

theorem tracks_start {i : Intake} (start : Bytes) :
    Tracks (i.start start) start (decide (announcedLength start ≤ transferMaxFileSize)) [] where
  counted := ⟨rfl, rfl, rfl, Nat.zero_le _⟩
  crc := rfl
  ready := rfl
  numbers := rfl
  file := fun _ => Buffer.prefixOf_zero _

/-- A packet that is taken is tracked. -/
theorem Tracks.take {b : Beacon} {start packet : Bytes} {ready : Bool} {packets : List Bytes}
    (h : Tracks b.intake start ready packets) (hfits : fileDataFits packet b = true) :
    Tracks (b.intake.take packet) start ready (packets ++ [packet]) := by
  have hcounted := h.counted.carry packet
  have hcontinued := (h.counted.fileDataFits_eq packet).symm.trans hfits
  rw [Offer.carry, if_pos hcontinued, if_pos hfits] at hcounted
  have hnumber : byteAt packet 1 = b.expectedSequence := by
    simp only [fileDataFits, decide_eq_true_eq] at hfits
    exact hfits.1
  refine ⟨hcounted, h.crc, h.ready, ?_, fun hle => ?_⟩
  · have hsequence : b.expectedSequence = UInt8.ofNat packets.length := h.counted.sequence
    rw [List.map_append, h.numbers, List.length_append, List.length_singleton, List.range_succ,
      List.map_append, List.map_singleton, List.map_singleton, hnumber, hsequence]
  · -- the count has not wrapped, so the chunk stands behind the others
    have hroom := chunk_le_announced hfits
    have hlt : b.expectedFileLength < 65536 := by
      rw [show b.expectedFileLength = _ from h.counted.expected]
      exact announcedLength_lt start
    have hlength : (fileBytes packet).length = chunkLength packet := length_chunk hfits
    change (b.receivedFileLength + chunkLength packet) % 65536 ≤ 256 at hle
    have hsum : (b.receivedFileLength + chunkLength packet) % 65536 =
        b.receivedFileLength + (fileBytes packet).length := by omega
    have hbefore := h.file (show b.receivedFileLength ≤ 256 by omega)
    show (b.receivedFile.write b.receivedFileLength (fileBytes packet)).prefixOf
      ((b.receivedFileLength + chunkLength packet) % 65536) = _
    rw [hsum, Buffer.prefixOf_write, List.flatMap_append, List.flatMap_singleton]
    · exact congrArg (· ++ _) hbefore
    · show b.receivedFileLength + (fileBytes packet).length ≤ 256
      omega

/-- What a write of the link itself does to its mark. -/
theorem mark_own {con : ConHandle} {b : Beacon} {e : Event} (m : Mark)
    (h : writerOf e = some con) : m.after cfg con b e = m.write cfg con b e := by
  cases e with
  | attWrite other attHandle buffer => exact if_pos h
  | _ => cases h

/-- An event that is no move, and no new beginning of the link, leaves its mark. -/
theorem mark_still {con : ConHandle} {b : Beacon} {e : Event} (m : Mark)
    (h : moveOf cfg e = none) (hne : e ≠ .leConnectionComplete con) :
    m.after cfg con b e = m := by
  have hwrite : m.write cfg con b e = m := by rw [Mark.write, h]
  unfold Mark.after
  split
  · cases h
  · rename_i other
    exact if_neg fun ho => hne (by rw [ho])
  · rw [hwrite, ite_self]

/-- **The link that owns the transfer follows it.** -/
theorem tracks_serve {con : ConHandle} {s t : Beacon × History} {e : Event}
    (h : owns cfg con s.2 = true → (mark cfg con s.2).Tracks s.1.intake)
    (hstep : serve cfg s e = some t) :
    owns cfg con t.2 = true → (mark cfg con t.2).Tracks t.1.intake := by
  cases hstep
  show owns cfg con ((s.1, e) :: s.2) = true →
    ((mark cfg con s.2).after cfg con s.1 e).Tracks (handle cfg s.1 e).1.intake
  rw [(handle_move cfg s.1 e).1, owns]
  intro howns
  cases hmove : moveOf cfg e with
  | none =>
    rw [hmove] at howns
    obtain ⟨hne, hpast⟩ := of_decide_eq_true howns
    rw [mark_still cfg _ hmove hne]
    exact h hpast
  | some move =>
    rw [hmove] at howns
    cases move with
    | clear => cases howns
    | announce start =>
      obtain ⟨hwriter, hnotifies⟩ := of_decide_eq_true howns
      rw [mark_own cfg _ hwriter, Mark.write, hmove]
      show BeaconServer.Tracks _ _ _ _
      rw [readies_announce cfg hmove hnotifies]
      exact tracks_start start
    | carry packet =>
      obtain ⟨hother, hpast⟩ := of_decide_eq_true howns
      have htracks := h hpast
      by_cases hfits : fileDataFits packet s.1 = true
      · rw [mark_own cfg _ (hother hfits), Mark.write, hmove]
        show (if _ then _ else _ : Mark).Tracks (if _ then _ else _)
        rw [if_pos hfits, if_pos hfits]
        cases hmark : mark cfg con s.2 with
        | cleared =>
          rw [hmark] at htracks
          exact htracks.elim
        | announced start ready packets =>
          rw [hmark] at htracks
          exact Tracks.take htracks hfits
      · -- a packet that is not accepted, whoever writes it
        have hwrite : (mark cfg con s.2).write cfg con s.1 e = mark cfg con s.2 := by
          rw [Mark.write, hmove]
          exact if_neg hfits
        have hsame : (mark cfg con s.2).after cfg con s.1 e = mark cfg con s.2 := by
          obtain ⟨other, rfl, -⟩ := moveOf_carry cfg hmove
          show (if _ then _ else _ : Mark) = _
          rw [hwrite, ite_self]
        show Mark.Tracks (if _ then _ else _) _
        rw [if_neg hfits, hsame]
        exact htracks

/-- What a followed transfer leaves verified was received. -/
theorem received_of_tracks {b : Beacon} {m : Mark} (h : m.Tracks b.intake)
    (hinside : b.receivedFileLength ≤ 256) (hverified : fileVerified b = true) : m.Received := by
  obtain ⟨hlength, hverdict⟩ := of_decide_eq_true hverified
  cases m with
  | cleared => exact h.elim
  | announced start ready packets =>
    have hexpected : b.expectedFileLength = announcedLength start := h.counted.expected
    have hreceived : b.receivedFileLength = (packets.flatMap fileBytes).length :=
      h.counted.received
    have hcrc : b.expectedFileCrc = transferReadU32 start 3 := h.crc
    have hfile : b.receivedFile.prefixOf b.receivedFileLength = packets.flatMap fileBytes :=
      h.file hinside
    have hfit : announcedLength start ≤ transferMaxFileSize := by
      rw [← hexpected, ← hlength]
      exact hinside
    refine ⟨h.ready.trans (decide_eq_true hfit), h.numbers, ?_, ?_⟩
    · rw [← hreceived, hlength, hexpected]
    · rw [← hfile, ← hcrc]
      exact hverdict

/-! ## Where nothing is announced -/

/-- Nothing is expected and nothing was received. -/
def Intake.Idle (i : Intake) : Prop :=
  i.expectedLength = 0 ∧ i.receivedLength = 0 ∧ i.expectedCrc = 0

/-- Only a packet without bytes is taken where nothing is expected. -/
theorem Intake.Idle.carry {b : Beacon} (h : b.intake.Idle) (packet : Bytes) :
    (if fileDataFits packet b then b.intake.take packet else b.intake).Idle := by
  obtain ⟨hexpected, hreceived, hcrc⟩ := h
  split_ifs with hfits
  · have hroom := chunk_le_announced hfits
    have hexpected' : b.expectedFileLength = 0 := hexpected
    refine ⟨hexpected, ?_, hcrc⟩
    show (b.receivedFileLength + chunkLength packet) % 65536 = 0
    omega
  · exact ⟨hexpected, hreceived, hcrc⟩

/-- **Nothing is verified**, where nothing was announced. -/
theorem Intake.Idle.verified {b : Beacon} (h : b.intake.Idle) : fileVerified b = true := by
  obtain ⟨hexpected, hreceived, hcrc⟩ := h
  have hexpected' : b.expectedFileLength = 0 := hexpected
  have hreceived' : b.receivedFileLength = 0 := hreceived
  have hcrc' : b.expectedFileCrc = 0 := hcrc
  refine decide_eq_true ⟨hreceived'.trans hexpected'.symm, ?_⟩
  rw [receivedCrc, hreceived', hcrc', Buffer.prefixOf_zero]
  decide

/-- Under tidy links the open one owns the transfer, or there is none. -/
structure Settled (s : Beacon × History) : Prop where
  closed : linkNow s.2 = none → s.1.intake.Idle
  opened : ∀ con, linkNow s.2 = some con →
    owns cfg con s.2 = true ∨ mark cfg con s.2 = .cleared ∧ s.1.intake.Idle

/-- An event that is neither a beginning nor an end of a link leaves the open link open. -/
theorem linkNow_cons {b : Beacon} {e : Event} {past : History}
    (hbegin : ∀ con, e ≠ .leConnectionComplete con) (hend : e ≠ .disconnectionComplete) :
    linkNow ((b, e) :: past) = linkNow past := by
  cases e with
  | leConnectionComplete con => exact absurd rfl (hbegin con)
  | disconnectionComplete => exact absurd rfl hend
  | _ => rfl

/-- A write of the open link keeps it settled. -/
theorem settled_write {s : Beacon × History} {e : Event} {con : ConHandle}
    (h : Settled cfg s) (hwriter : writerOf e = some con) (hopen : linkNow s.2 = some con)
    (hannounces : ∀ start, moveOf cfg e = some (.announce start) → s.1.notifies con = true) :
    Settled cfg ((handle cfg s.1 e).1, (s.1, e) :: s.2) := by
  have hbegin : ∀ other, e ≠ .leConnectionComplete other := by
    rintro other rfl
    cases hwriter
  have hend : e ≠ .disconnectionComplete := by
    rintro rfl
    cases hwriter
  have hlink := @linkNow_cons s.1 e s.2 hbegin hend
  refine ⟨fun hnone => absurd (hlink.symm.trans hnone) (by rw [hopen]; nofun), fun other ho => ?_⟩
  obtain rfl : con = other := Option.some.inj (hopen.symm.trans (hlink.symm.trans ho))
  show owns cfg con ((s.1, e) :: s.2) = true ∨
    (mark cfg con s.2).after cfg con s.1 e = .cleared ∧ (handle cfg s.1 e).1.intake.Idle
  rw [(handle_move cfg s.1 e).1, mark_own cfg _ hwriter, owns, Mark.write]
  cases hmove : moveOf cfg e with
  | none =>
    rcases h.opened con hopen with howns | hidle
    · exact .inl (decide_eq_true ⟨hbegin con, howns⟩)
    · exact .inr hidle
  | some move =>
    cases move with
    | clear => exact .inr ⟨rfl, rfl, rfl, rfl⟩
    | announce start => exact .inl (decide_eq_true ⟨hwriter, hannounces start hmove⟩)
    | carry packet =>
      rcases h.opened con hopen with howns | ⟨hcleared, hidle⟩
      · exact .inl (decide_eq_true ⟨fun _ => hwriter, howns⟩)
      · refine .inr ⟨?_, hidle.carry packet⟩
        show (if _ then _ else _ : Mark) = _
        rw [hcleared]
        exact ite_self _

theorem settled_serve {s t : Beacon × History} {e : Event} (h : Settled cfg s)
    (htidy : Tidy cfg s e) (hstep : serve cfg s e = some t) : Settled cfg t := by
  cases hstep
  -- what is no write of a link and no beginning or end of one changes nothing
  have still (hmove : moveOf cfg e = none) (hbegin : ∀ con, e ≠ .leConnectionComplete con)
      (hend : e ≠ .disconnectionComplete) :
      Settled cfg ((handle cfg s.1 e).1, (s.1, e) :: s.2) := by
    have hlink := @linkNow_cons s.1 e s.2 hbegin hend
    have hintake : (handle cfg s.1 e).1.intake = s.1.intake := by
      rw [(handle_move cfg s.1 e).1, hmove]
      rfl
    refine ⟨fun hnone => ?_, fun con hopen => ?_⟩
    · rw [hintake]
      exact h.closed (hlink.symm.trans hnone)
    · show owns cfg con ((s.1, e) :: s.2) = true ∨
        (mark cfg con s.2).after cfg con s.1 e = .cleared ∧ _
      rw [hintake, mark_still cfg _ hmove (hbegin con), owns, hmove]
      rcases h.opened con (hlink.symm.trans hopen) with howns | hidle
      · exact .inl (decide_eq_true ⟨hbegin con, howns⟩)
      · exact .inr hidle
  cases e with
  | disconnectionComplete =>
    exact ⟨fun _ => ⟨rfl, rfl, rfl⟩, by rintro con ⟨⟩⟩
  | leConnectionComplete con =>
    have hidle := h.closed (htidy.begins con rfl)
    refine ⟨by rintro ⟨⟩, ?_⟩
    rintro _ ⟨⟩
    exact .inr ⟨if_pos rfl, hidle⟩
  | attWrite con attHandle buffer =>
    cases attHandle with
    | value =>
      exact settled_write cfg h rfl (htidy.writes con rfl)
        fun start hmove => htidy.announces start hmove con rfl
    | clientConfiguration => exact still rfl nofun nofun
    | other => exact still rfl nofun nofun
  | stackState working => exact still rfl nofun nofun
  | canSendNow => exact still rfl nofun nofun
  | other => exact still rfl nofun nofun

theorem settled_boot : Settled cfg (Beacon.boot, []) := ⟨fun _ => ⟨rfl, rfl, rfl⟩, nofun⟩

/-! ## The verdict -/

/-- The beacon of a run with its history is the beacon of the run. -/
theorem run_serve (es : List Event) {s t : Beacon × History} (h : run (serve cfg) s es = some t) :
    run (step cfg) s.1 es = some t.1 := by
  induction es generalizing s with
  | nil =>
    cases h
    rfl
  | cons e es ih => exact ih h

/-- The link that ends a file is the one that writes. -/
theorem writerOf_of_enderOf {e : Event} {con : ConHandle} (h : con ∈ enderOf e) :
    con ∈ writerOf e := by
  unfold enderOf at h
  split at h
  · split_ifs at h
    · exact h
    · cases h
  · cases h

/-- **The verdict of the beacon**: over every sequence of events since power-up that stays
inside `received_file`, every file that is verified was announced, answered and received on the
link that ends it, if every `MSG_FILE_END` comes from the link whose transfer it is.  With one
link at a time, which enables notifications first, that condition is exact: where nothing was
announced, nothing is always verified. -/
theorem verified_received (es : List Event) (hfit : OffersFit cfg es) :
    (Along (serve cfg) (AfterAnnouncement cfg) (Beacon.boot, []) es →
      Along (serve cfg) (Justified cfg) (Beacon.boot, []) es) ∧
    (Along (serve cfg) (Tidy cfg) (Beacon.boot, []) es →
      Along (serve cfg) (Justified cfg) (Beacon.boot, []) es →
      Along (serve cfg) (AfterAnnouncement cfg) (Beacon.boot, []) es) := by
  have hinside : Along (step cfg) (StaysInside cfg) Beacon.boot es :=
    (staysInside_along_iff es Beacon.boot none counted_boot (by decide) nofun).mpr hfit
  constructor
  · intro hafter
    apply along_of_forall
    intro pre e post s hes hrun con hend hverified
    subst hes
    have htracks : owns cfg con s.2 = true → (mark cfg con s.2).Tracks s.1.intake :=
      run_invariant (I := fun s => owns cfg con s.2 = true → (mark cfg con s.2).Tracks s.1.intake)
        (fun s e t h hstep => tracks_serve cfg h hstep) (by rintro ⟨⟩) hrun
    have hreceived := hinside.at (run_serve cfg pre hrun)
    exact received_of_tracks (htracks (hafter.at hrun con hend)) hreceived.1
      ((verified_iff cfg hend).mp hverified)
  · intro htidy hjustified
    apply along_of_forall
    intro pre e post s hes hrun con hend
    subst hes
    have hsettled : Settled cfg s :=
      run_invariant_along (I := Settled cfg) (fun s e t h ht hstep => settled_serve cfg h ht hstep)
        pre (Beacon.boot, []) s (settled_boot cfg) htidy.append_left hrun
    have hopen := (htidy.at hrun).writes con (writerOf_of_enderOf hend)
    rcases hsettled.opened con hopen with howns | ⟨hcleared, hidle⟩
    · exact howns
    · -- without an announcement the intake is idle, and an empty file verifies
      have hreceived := hjustified.at hrun con hend ((verified_iff cfg hend).mpr hidle.verified)
      rw [hcleared] at hreceived
      exact hreceived.elim

/-- The transfer of a file of two bytes. -/
def twoBytesSent : List Event :=
  [.leConnectionComplete 1, .attWrite 1 .clientConfiguration [1, 0],
    .attWrite 1 .value [MessageType.hello.code, 1, 1],
    .attWrite 1 .value (MessageType.fileStart.code ::
      (transferWriteU16 2 ++ transferWriteU32 (transferCrc32 [0x6F, 0x6B]))),
    .attWrite 1 .value [MessageType.fileData.code, 0, 2, 0x6F, 0x6B],
    .attWrite 1 .value [MessageType.fileEnd.code]]

theorem twoBytesSent_received :
    Along (serve Config.ap1) (Justified Config.ap1) (Beacon.boot, []) twoBytesSent :=
  (verified_received Config.ap1 twoBytesSent (by decide +kernel)).1 (by decide +kernel)

/-- A peer that says `MSG_HELLO` and then at once `MSG_FILE_END`. -/
def nothingSent : List Event :=
  [.leConnectionComplete 1, .attWrite 1 .clientConfiguration [1, 0],
    .attWrite 1 .value [MessageType.hello.code, 1, 1], .attWrite 1 .value [MessageType.fileEnd.code]]

/-- The file that nobody sent is verified. -/
theorem nothingSent_verified :
    ¬ Along (serve Config.ap1) (Justified Config.ap1) (Beacon.boot, []) nothingSent := by
  decide +kernel

end BeaconServer
