/-
# Where the beacon's file bytes go

`received_file` holds 256 bytes.  `MSG_FILE_DATA` checks its chunk against the announced
length only, and `MSG_FILE_START` stores an announcement before it rejects it for being
too long, so the buffer is safe exactly as long as the peer does not go on, behind a
rejected announcement, to write more than 256 bytes in sequence (`OffersFit`).

* `moveOf` is what an event means to a transfer, and `offer` what the peer has announced and
  written in sequence; both look at the events only.
* `handle_move` splits the messages once and says what the handlers make of each move.
-/
import GettingThere.BeaconServer
import GettingThere.Transition

namespace BeaconServer

open TransferProtocol Transition

variable (cfg : Config)

/-! ## What the peer writes -/

/-- The message of an event, if it is a write to the transfer characteristic. -/
def messageOf : Event → Option (MessageType × Bytes)
  | .attWrite _ .value buffer => (MessageType.ofCode? (byteAt buffer 0)).map fun m => (m, buffer)
  | _ => none

/-- What an event means to a transfer: a disconnection or a valid `MSG_HELLO` clears it, a
`MSG_FILE_START` of 7 bytes or more announces a file, and a `MSG_FILE_DATA` with a whole
header carries a chunk. -/
inductive Move
  | clear
  | announce (start : Bytes)
  | carry (packet : Bytes)
  deriving DecidableEq, Repr

/-- The move of an event. -/
def moveOf : Event → Option Move
  | .disconnectionComplete => some .clear
  | e =>
    match messageOf e with
    | some (.hello, buffer) => if helloValid cfg buffer then some .clear else none
    | some (.fileStart, buffer) => if 7 ≤ buffer.length then some (.announce buffer) else none
    | some (.fileData, buffer) => if 3 ≤ buffer.length then some (.carry buffer) else none
    | _ => none

/-- The file bytes of a packet. -/
def fileBytes (packet : Bytes) : Bytes := packet.drop 3

/-- An announcement of the peer and the packets it has written in sequence behind it. -/
structure Offer where
  start : Bytes
  packets : List Bytes
  deriving DecidableEq, Repr

/-- The file bytes written so far. -/
def Offer.bytes (o : Offer) : Bytes := o.packets.flatMap fileBytes

/-- The packet is the next one: it has the next number modulo 256, a chunk of at most 17
bytes that is as long as it says, and the announced length leaves room for it. -/
def Offer.continuedBy (packet : Bytes) (o : Offer) : Bool :=
  byteAt packet 1 = UInt8.ofNat o.packets.length ∧ chunkLength packet ≤ transferDataBytes ∧
    packet.length = 3 + chunkLength packet ∧
    o.bytes.length + chunkLength packet ≤ announcedLength o.start

/-- The offer with a packet that comes in sequence. -/
def Offer.carry (packet : Bytes) (o : Offer) : Offer :=
  if o.continuedBy packet then { o with packets := o.packets ++ [packet] } else o

/-- What is on offer after one more event. -/
def offerAfter (o : Option Offer) (e : Event) : Option Offer :=
  match moveOf cfg e with
  | some .clear => none
  | some (.announce start) => some ⟨start, []⟩
  | some (.carry packet) => o.map (Offer.carry packet)
  | none => o

/-- What the peer has on offer after some events. -/
def offer (es : List Event) : Option Offer := es.foldl (offerAfter cfg) none

/-- At no point of the run has the peer written more than 256 bytes in sequence behind one
announcement, which would then be longer than that and have been rejected. -/
def OffersFit (es : List Event) : Prop :=
  ∀ n ≤ es.length, ∀ o ∈ offer cfg (es.take n), o.bytes.length ≤ transferMaxFileSize

instance (es : List Event) : Decidable (OffersFit cfg es) := by
  unfold OffersFit; infer_instance

theorem messageOf_value (con : ConHandle) (buffer : Bytes) :
    messageOf (.attWrite con .value buffer) =
      (MessageType.ofCode? (byteAt buffer 0)).map fun m => (m, buffer) := rfl

/-- A message is a write of at least one byte. -/
theorem messageOf_inv {e : Event} {type : MessageType} {buffer : Bytes}
    (h : messageOf e = some (type, buffer)) : ∃ con, e = .attWrite con .value buffer ∧
      buffer ≠ [] ∧ MessageType.ofCode? (byteAt buffer 0) = some type := by
  unfold messageOf at h
  split at h
  · rename_i con buffer'
    obtain ⟨type', htype, heq⟩ := Option.map_eq_some_iff.mp h
    obtain ⟨rfl, rfl⟩ := Prod.mk.inj heq
    refine ⟨con, rfl, ?_, htype⟩
    rintro rfl
    have hnone : MessageType.ofCode? (byteAt [] 0) = none := by decide
    rw [hnone] at htype
    cases htype
  · cases h

/-! ## What the handlers keep of it -/

/-- The announcement, and what was received. -/
structure Intake where
  expectedLength : ℕ
  receivedLength : ℕ
  expectedCrc : UInt32
  expectedSequence : UInt8
  file : Buffer UInt8 256

/-- What a beacon has of it. -/
def Beacon.intake (b : Beacon) : Intake :=
  ⟨b.expectedFileLength, b.receivedFileLength, b.expectedFileCrc, b.expectedSequence,
    b.receivedFile⟩

/-- The intake of a cleared transfer; the buffer keeps its bytes. -/
def Intake.clear (i : Intake) : Intake :=
  { i with expectedLength := 0, receivedLength := 0, expectedCrc := 0, expectedSequence := 0 }

/-- The intake after an announcement. -/
def Intake.start (buffer : Bytes) (i : Intake) : Intake :=
  { i with
    expectedLength := announcedLength buffer
    expectedCrc := transferReadU32 buffer 3
    receivedLength := 0
    expectedSequence := 0 }

/-- The intake after a packet that was accepted. -/
def Intake.take (packet : Bytes) (i : Intake) : Intake :=
  { i with
    file := i.file.write i.receivedLength (fileBytes packet)
    receivedLength := (i.receivedLength + chunkLength packet) % 65536
    expectedSequence := i.expectedSequence + 1 }

/-- The intake after a move. -/
def Beacon.intakeAfter (b : Beacon) : Option Move → Intake
  | some .clear => b.intake.clear
  | some (.announce start) => b.intake.start start
  | some (.carry packet) => if fileDataFits packet b then b.intake.take packet else b.intake
  | none => b.intake

/-- The copies into `received_file` that a move makes. -/
def Beacon.copiesOf (b : Beacon) : Option Move → List (ℕ × Bytes)
  | some (.carry packet) =>
    if fileDataFits packet b then [(b.receivedFileLength, fileBytes packet)] else []
  | _ => []

/-- The copies into `received_file` among the effects of a handler. -/
def copies (effects : List Effect) : List (ℕ × Bytes) :=
  effects.filterMap fun
    | .copyReceived offset bytes => some (offset, bytes)
    | _ => none

@[simp] theorem queueNotification_intake (data : Bytes) (b : Beacon) :
    (queueNotification data b).1.intake = b.intake := by
  unfold queueNotification; split <;> rfl

@[simp] theorem copies_queueNotification (data : Bytes) (b : Beacon) :
    copies (queueNotification data b).2 = [] := by
  unfold queueNotification; split <;> rfl

@[simp] theorem sendReplyPiece_intake (b : Beacon) : (sendReplyPiece b).1.intake = b.intake := by
  unfold sendReplyPiece
  split_ifs <;> simp only [queueNotification_intake] <;> rfl

@[simp] theorem copies_sendReplyPiece (b : Beacon) : copies (sendReplyPiece b).2 = [] := by
  unfold sendReplyPiece
  split_ifs <;> exact copies_queueNotification _ _

/-- What an answer leaves of a transfer: nothing but the notification has changed. -/
def Handled (b : Beacon) (move : Option Move) (r : Beacon × List Effect) : Prop :=
  r.1.intake = b.intakeAfter move ∧ copies r.2 = b.copiesOf move

theorem handled_queueNotification {b b' : Beacon} {move : Option Move} (data : Bytes)
    (h : b'.intake = b.intakeAfter move) (hnone : b.copiesOf move = []) :
    Handled b move (queueNotification data b') :=
  ⟨(queueNotification_intake data b').trans h, (copies_queueNotification data b').trans hnone.symm⟩

/-- A write that is rejected, or that is no part of a transfer. -/
theorem handled_sendError (reason : UInt8) (b : Beacon) : Handled b none (sendError reason b) :=
  handled_queueNotification _ rfl rfl

theorem handled_receiveHello (buffer : Bytes) (b : Beacon) :
    Handled b (if helloValid cfg buffer then some .clear else none)
      (receiveHello cfg buffer b) := by
  unfold receiveHello
  split_ifs
  · exact handled_queueNotification _ rfl rfl
  · exact handled_sendError 1 b

/-- An announcement is stored, and then judged. -/
theorem handled_receiveFileStart (buffer : Bytes) (b : Beacon) :
    Handled b (if 7 ≤ buffer.length then some (.announce buffer) else none)
      (receiveFileStart cfg buffer b) := by
  unfold receiveFileStart
  by_cases hlen : 7 ≤ buffer.length
  · rw [if_pos hlen, if_neg (Nat.not_lt_of_le hlen)]
    simp only
    split_ifs
    · exact handled_queueNotification _ rfl rfl
    · exact handled_queueNotification _ rfl rfl
  · rw [if_neg hlen, if_pos (Nat.lt_of_not_le hlen)]
    exact handled_sendError 2 b

theorem handled_receiveFileData (buffer : Bytes) (b : Beacon) :
    Handled b (if 3 ≤ buffer.length then some (.carry buffer) else none)
      (receiveFileData buffer b) := by
  unfold receiveFileData
  by_cases hlen : 3 ≤ buffer.length
  · rw [if_pos hlen, if_neg (Nat.not_lt_of_le hlen)]
    by_cases hfits : fileDataFits buffer b
    · rw [if_pos hfits]
      exact ⟨(if_pos hfits).symm, (if_pos hfits).symm⟩
    · rw [if_neg hfits]
      obtain ⟨hintake, hnone⟩ := handled_sendError 5 b
      exact ⟨hintake.trans (if_neg hfits).symm, hnone.trans (if_neg hfits).symm⟩
  · rw [if_neg hlen, if_pos (Nat.lt_of_not_le hlen)]
    exact handled_sendError 4 b

/-- **What one event does** to the transfer: its move, and nothing else. -/
theorem handle_move (b : Beacon) (e : Event) : Handled b (moveOf cfg e) (handle cfg b e) := by
  cases e with
  | stackState working => cases working <;> exact ⟨rfl, rfl⟩
  | leConnectionComplete con => exact ⟨rfl, rfl⟩
  | disconnectionComplete =>
    refine ⟨rfl, ?_⟩
    show copies (disconnected b).2 = []
    unfold disconnected
    cases b.connectedCueOn <;> rfl
  | canSendNow =>
    rw [handle, sendPending]
    split_ifs
    · exact ⟨rfl, rfl⟩
    · exact ⟨rfl, rfl⟩
  | other => exact ⟨rfl, rfl⟩
  | attWrite con attHandle buffer =>
    cases attHandle with
    | clientConfiguration => exact ⟨rfl, rfl⟩
    | other => exact ⟨rfl, rfl⟩
    | value =>
      by_cases hempty : buffer = []
      · subst hempty
        exact ⟨rfl, rfl⟩
      rw [handle, attWriteCallback, if_neg hempty, moveOf, messageOf_value, receiveMessage]
      · rcases MessageType.ofCode? (byteAt buffer 0) with _ | type
        · exact handled_sendError 6 b
        cases type with
        | hello => exact handled_receiveHello cfg buffer b
        | fileStart => exact handled_receiveFileStart cfg buffer b
        | fileData => exact handled_receiveFileData buffer b
        | fileEnd => exact handled_queueNotification _ rfl rfl
        | replyRequest => exact ⟨sendReplyPiece_intake _, copies_sendReplyPiece _⟩
        | replyNext => exact ⟨sendReplyPiece_intake b, copies_sendReplyPiece b⟩
        | complete => exact handled_queueNotification _ rfl rfl
        | _ => exact handled_sendError 6 b
      · rintro ⟨⟩

/-! ## The bound -/

/-- The beacon as a machine: every event is possible at every time. -/
def step (b : Beacon) (e : Event) : Option Beacon := some (handle cfg b e).1

/-- A `MSG_FILE_DATA` write that passes every check. -/
def acceptsFileData (b : Beacon) (buffer : Bytes) : Bool :=
  MessageType.ofCode? (byteAt buffer 0) = some .fileData ∧ 3 ≤ buffer.length ∧
    fileDataFits buffer b

/-- The chunk of an accepted write is what follows its three header bytes. -/
theorem length_chunk {b : Beacon} {buffer : Bytes} (h : fileDataFits buffer b = true) :
    (buffer.drop 3).length = chunkLength buffer := by
  simp only [fileDataFits, decide_eq_true_eq] at h
  rw [List.length_drop]
  omega

theorem announcedLength_lt (buffer : Bytes) : announcedLength buffer < 65536 :=
  (transferReadU16 buffer 1).toNat_lt

/-- The announced length has room for a chunk that is accepted. -/
theorem chunk_le_announced {b : Beacon} {buffer : Bytes} (h : fileDataFits buffer b = true) :
    b.receivedFileLength + chunkLength buffer ≤ b.expectedFileLength := by
  simp only [fileDataFits, decide_eq_true_eq] at h
  exact h.2.2.2

/-- The announced length is a 16-bit number. -/
theorem handle_expected_lt {b : Beacon} (e : Event) (h : b.expectedFileLength < 65536) :
    (handle cfg b e).1.expectedFileLength < 65536 := by
  have hintake := (handle_move cfg b e).1
  show (handle cfg b e).1.intake.expectedLength < 65536
  rw [hintake]
  unfold Beacon.intakeAfter
  split
  · exact Nat.zero_lt_succ _
  · exact announcedLength_lt _
  · split_ifs
    · exact h
    · exact h
  · exact h

/-- What must hold of one event: the count stays within `sizeof(received_file)`, and so
does every copy into it. -/
def StaysInside (b : Beacon) (e : Event) : Prop :=
  b.receivedFileLength ≤ 256 ∧ (handle cfg b e).1.receivedFileLength ≤ 256 ∧
    ∀ copy ∈ copies (handle cfg b e).2, Buffer.Fits 256 copy.1 copy.2

instance (b : Beacon) (e : Event) : Decidable (StaysInside cfg b e) := by
  unfold StaysInside; infer_instance

/-- A packet that is carried is a write of it. -/
theorem moveOf_carry {e : Event} {packet : Bytes} (h : moveOf cfg e = some (.carry packet)) :
    ∃ con, e = .attWrite con .value packet ∧
      MessageType.ofCode? (byteAt packet 0) = some .fileData ∧ 3 ≤ packet.length := by
  unfold moveOf at h
  split at h
  · cases h
  split at h
  · split_ifs at h
    cases h
  · split_ifs at h
    cases h
  · rename_i buffer hmessage
    split_ifs at h with hlen
    cases h
    obtain ⟨con, he, -, htype⟩ := messageOf_inv hmessage
    exact ⟨con, he, htype, hlen⟩
  · cases h

/-- The count tells whether an event stays inside. -/
theorem staysInside_iff {b : Beacon} {e : Event} (hle : b.receivedFileLength ≤ 256)
    (hlt : b.expectedFileLength < 65536) :
    StaysInside cfg b e ↔ (handle cfg b e).1.receivedFileLength ≤ 256 := by
  refine ⟨fun h => h.2.1, fun hafter => ⟨hle, hafter, ?_⟩⟩
  obtain ⟨hintake, hcopies⟩ := handle_move cfg b e
  rw [hcopies]
  intro copy hcopy
  unfold Beacon.copiesOf at hcopy
  split at hcopy
  · rename_i packet hmove
    split_ifs at hcopy with hfits
    · rw [List.mem_singleton.mp hcopy, Buffer.Fits, fileBytes, length_chunk hfits]
      have hroom := chunk_le_announced hfits
      have hcount : (handle cfg b e).1.receivedFileLength =
          (b.receivedFileLength + chunkLength packet) % 65536 := by
        show (handle cfg b e).1.intake.receivedLength = _
        rw [hintake, hmove]
        exact congrArg Intake.receivedLength (if_pos hfits)
      omega
    · cases hcopy
  · cases hcopy

/-- The event that goes wrong: a chunk accepted under an announcement the beacon has
answered with `MSG_ERROR` 3, when it no longer fits the 256 bytes. -/
def fileDataPastRejected (b : Beacon) : Event → Bool
  | .attWrite _ .value buffer =>
    acceptsFileData b buffer && decide (256 < b.expectedFileLength) &&
      decide (256 < b.receivedFileLength + chunkLength buffer)
  | _ => false

/-- One event stays inside the buffer unless it is the one that goes wrong. -/
theorem staysInside_of {b : Beacon} {e : Event} (hle : b.receivedFileLength ≤ 256)
    (hlt : b.expectedFileLength < 65536) (hgood : fileDataPastRejected b e = false) :
    StaysInside cfg b e := by
  rw [staysInside_iff cfg hle hlt]
  show (handle cfg b e).1.intake.receivedLength ≤ 256
  rw [(handle_move cfg b e).1]
  unfold Beacon.intakeAfter
  split
  · exact Nat.zero_le _
  · exact Nat.zero_le _
  · rename_i packet hmove
    split_ifs with hfits
    · obtain ⟨con, rfl, htype, hlen⟩ := moveOf_carry cfg hmove
      have haccept : acceptsFileData b packet = true := decide_eq_true ⟨htype, hlen, hfits⟩
      have hroom := chunk_le_announced hfits
      simp only [fileDataPastRejected, haccept, Bool.true_and, Bool.and_eq_false_iff,
        decide_eq_false_iff_not] at hgood
      show (b.receivedFileLength + chunkLength packet) % 65536 ≤ 256
      omega
    · exact hle
  · exact hle

/-! ## The offer behind the intake -/

/-- The intake counts what is on offer. -/
structure Offer.Counted (o : Offer) (i : Intake) : Prop where
  expected : i.expectedLength = announcedLength o.start
  received : i.receivedLength = o.bytes.length
  sequence : i.expectedSequence = UInt8.ofNat o.packets.length
  room : o.bytes.length ≤ announcedLength o.start

/-- What the beacon counts of an offer; without one it expects nothing. -/
def Counted (i : Intake) : Option Offer → Prop
  | none => i.expectedLength = 0 ∧ i.receivedLength = 0
  | some o => o.Counted i

variable {cfg} {b : Beacon} {e : Event} {o : Option Offer}

/-- The handler accepts exactly the packets that come in sequence. -/
theorem Offer.Counted.fileDataFits_eq {o : Offer} (h : o.Counted b.intake) (packet : Bytes) :
    fileDataFits packet b = o.continuedBy packet := by
  have hexpected : b.expectedFileLength = announcedLength o.start := h.expected
  have hreceived : b.receivedFileLength = o.bytes.length := h.received
  have hsequence : b.expectedSequence = UInt8.ofNat o.packets.length := h.sequence
  rw [fileDataFits, continuedBy, hexpected, hreceived, hsequence]

/-- A packet in sequence is counted. -/
theorem Offer.Counted.carry {o : Offer} (h : o.Counted b.intake) (packet : Bytes) :
    (o.carry packet).Counted
      (if fileDataFits packet b then b.intake.take packet else b.intake) := by
  have hsame := h.fileDataFits_eq packet
  unfold Offer.carry
  rw [← hsame]
  split_ifs with hfits
  · have hlength : (fileBytes packet).length = chunkLength packet := length_chunk hfits
    have hroom := chunk_le_announced hfits
    have hlt := announcedLength_lt o.start
    have hexpected : b.expectedFileLength = announcedLength o.start := h.expected
    have hreceived : b.receivedFileLength = o.bytes.length := h.received
    have hbytes : (o.packets ++ [packet]).flatMap fileBytes = o.bytes ++ fileBytes packet := by
      rw [List.flatMap_append, List.flatMap_singleton, Offer.bytes]
    refine ⟨h.expected, ?_, ?_, ?_⟩
    · show (b.receivedFileLength + chunkLength packet) % 65536 = _
      rw [Offer.bytes, hbytes, List.length_append]
      omega
    · show b.expectedSequence + 1 = UInt8.ofNat (o.packets ++ [packet]).length
      rw [show b.expectedSequence = _ from h.sequence, List.length_append, List.length_singleton,
        UInt8.ofNat_add]
      rfl
    · rw [Offer.bytes, hbytes, List.length_append]
      show _ ≤ announcedLength o.start
      omega
  · exact h

/-- Every event keeps the count. -/
theorem Counted.handle (h : Counted b.intake o) (e : Event) :
    Counted (handle cfg b e).1.intake (offerAfter cfg o e) := by
  rw [(handle_move cfg b e).1, offerAfter]
  cases moveOf cfg e with
  | none => exact h
  | some move =>
    cases move with
    | clear => exact ⟨rfl, rfl⟩
    | announce start => exact ⟨rfl, rfl, rfl, Nat.zero_le _⟩
    | carry packet =>
      cases o with
      | some o => exact h.carry packet
      | none =>
        -- only a chunk without bytes is accepted where nothing is expected
        have hexpected : b.expectedFileLength = 0 := h.1
        have hreceived : b.receivedFileLength = 0 := h.2
        show (if _ then _ else _ : Intake).expectedLength = 0 ∧
          (if _ then _ else _ : Intake).receivedLength = 0
        split_ifs with hfits
        · have hroom := chunk_le_announced hfits
          refine ⟨h.1, ?_⟩
          show (b.receivedFileLength + chunkLength packet) % 65536 = 0
          omega
        · exact h

theorem counted_boot : Counted Beacon.boot.intake none := ⟨rfl, rfl⟩

/-- The count is within the buffer exactly when what is on offer is. -/
theorem Counted.received_le_iff {i : Intake} (h : Counted i o) :
    i.receivedLength ≤ 256 ↔ ∀ p ∈ o, p.bytes.length ≤ transferMaxFileSize := by
  cases o with
  | none => exact iff_of_true (by rw [h.2]; exact Nat.zero_le _) nofun
  | some o =>
    rw [h.received]
    exact ⟨fun hle p hp => Option.some.inj hp ▸ hle, fun hall => hall o rfl⟩

/-- An event stays inside exactly when the offer behind it does. -/
theorem Counted.staysInside_iff (h : Counted b.intake o) (hlt : b.expectedFileLength < 65536)
    (hfit : ∀ p ∈ o, p.bytes.length ≤ transferMaxFileSize) :
    StaysInside cfg b e ↔
      ∀ p ∈ offerAfter cfg o e, p.bytes.length ≤ transferMaxFileSize :=
  (BeaconServer.staysInside_iff cfg (h.received_le_iff.mpr hfit) hlt).trans
    (h.handle e).received_le_iff

/-- The offers behind a first event are the ones of the run that begins there. -/
theorem offers_cons (es : List Event) :
    (∀ n ≤ (e :: es).length, ∀ p ∈ ((e :: es).take n).foldl (offerAfter cfg) o,
      p.bytes.length ≤ transferMaxFileSize) ↔
    (∀ p ∈ o, p.bytes.length ≤ transferMaxFileSize) ∧
      ∀ n ≤ es.length, ∀ p ∈ (es.take n).foldl (offerAfter cfg) (offerAfter cfg o e),
        p.bytes.length ≤ transferMaxFileSize := by
  constructor
  · intro hall
    exact ⟨hall 0 (Nat.zero_le _), fun n hn => hall (n + 1) (Nat.succ_le_succ hn)⟩
  · rintro ⟨hfirst, hrest⟩ n hn
    cases n with
    | zero => exact hfirst
    | succ n => exact hrest n (Nat.le_of_succ_le_succ hn)

/-- A run stays inside exactly when the offers along it do. -/
theorem staysInside_along_iff (es : List Event) (b : Beacon) (o : Option Offer)
    (h : Counted b.intake o) (hlt : b.expectedFileLength < 65536)
    (hfit : ∀ p ∈ o, p.bytes.length ≤ transferMaxFileSize) :
    Along (step cfg) (StaysInside cfg) b es ↔
      ∀ n ≤ es.length, ∀ p ∈ (es.take n).foldl (offerAfter cfg) o,
        p.bytes.length ≤ transferMaxFileSize := by
  induction es generalizing b o with
  | nil =>
    refine iff_of_true trivial fun n hn => ?_
    rw [List.take_nil]
    exact hfit
  | cons e es ih =>
    rw [offers_cons, and_iff_right hfit]
    have hfirst := @Counted.staysInside_iff cfg b e o h hlt hfit
    have hrest (hin : ∀ p ∈ offerAfter cfg o e, p.bytes.length ≤ transferMaxFileSize) :=
      ih (BeaconServer.handle cfg b e).1 (offerAfter cfg o e) (h.handle e)
        (handle_expected_lt cfg e hlt) hin
    constructor
    · rintro ⟨hin, hafter⟩
      exact (hrest (hfirst.mp hin)).mp (hafter _ rfl)
    · intro hall
      have hin := hall 0 (Nat.zero_le _)
      refine ⟨hfirst.mpr hin, ?_⟩
      rintro t ⟨⟩
      exact (hrest hin).mpr hall

/-- **Exactly when `received_file` is safe**: over every sequence of events since power-up,
the count and every accepted chunk stay inside the 256 bytes if and only if the peer never
writes more than 256 bytes in sequence behind one announcement. -/
theorem received_file_inside_iff (cfg : Config) (es : List Event) :
    Along (step cfg) (StaysInside cfg) Beacon.boot es ↔ OffersFit cfg es :=
  staysInside_along_iff es Beacon.boot none counted_boot (by decide) nofun

/-- A peer that announces 300 bytes, gets `MSG_ERROR` 3, and sends 17-byte chunks all the
same. -/
def oversizeTransfer : List Event :=
  [.leConnectionComplete 1, .attWrite 1 .clientConfiguration [1, 0],
    .attWrite 1 .value (MessageType.fileStart.code ::
      (transferWriteU16 300 ++ transferWriteU32 0))] ++
    (List.range 16).map fun i =>
      .attWrite 1 .value (MessageType.fileData.code :: UInt8.ofNat i :: 17 :: List.replicate 17 65)

/-- The sixteenth chunk of `oversizeTransfer` is copied past the end of `received_file`. -/
theorem oversizeTransfer_overruns :
    ¬ Along (step Config.ap1) (StaysInside Config.ap1) Beacon.boot oversizeTransfer := by
  decide +kernel

end BeaconServer
