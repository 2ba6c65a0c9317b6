/-
# Both parties agree on how an exchange ended

On a link that loses, delays, repeats and reorders (`LossyLink`) an exchange may stop anywhere, but
neither party is mistaken about it.  The requests so far form a `Path`, each following the one
before it; the beacon has taken a first part of it, and the rest is on its way.  What the beacon
has notified is the answer of a request it took.  Hence

* a beacon in `BEACON_STATUS_COMPLETE` has the robot's whole file, and the client the whole reply;
* a client that has verified its payload has the beacon's reply, and the beacon the robot's file;
* no request of the client is ever answered with an error.
-/
import GettingThere.ExchangeCompletes
import GettingThere.BeaconVerdict
import GettingThere.VerifiedEnds

namespace LossyLink

open TransferProtocol PayloadClient
open Connection (Names Round BeaconAt Delivered Serving Took Subscribing slot attempted notified
  written handle_write took_of_queue takes_hello takes_fileStart takes_fileData takes_fileEnd
  takes_replyRequest takes_replyNext takes_complete sendPending_of_slot unparked_attempted someNames
  foundPackets)

/-! ## The requests of an exchange -/

/-- Each request follows the one before it. -/
def Path (robotFile reply : Bytes) (rounds : List Round) : Prop :=
  ∀ before ρ, before ++ [ρ] <+: rounds → follow robotFile reply before.getLast? = some ρ

/-- The value answers one of the requests. -/
def Answers (robotFile reply : Bytes) (rounds : List Round) (v : Bytes) : Prop :=
  ∃ ρ ∈ rounds, ρ.answer robotFile reply = some v

/-- The client holds the whole reply. -/
def Replied (reply : Bytes) (c : Client) : Prop :=
  c.replyLength = reply.length ∧ c.replyFile.prefixOf reply.length = reply

variable {names : Names} {robotFile reply : Bytes} {cfg : BeaconServer.Config}
  {rounds taken queued : List Round} {ρ : Round}

/-- No request is a path. -/
theorem path_nil : Path robotFile reply [] := by
  intro before ρ h
  cases before <;> cases List.prefix_nil.mp h

/-- A path goes on with the request that follows. -/
theorem Path.snoc (h : Path robotFile reply rounds)
    (hnext : follow robotFile reply rounds.getLast? = some ρ) :
    Path robotFile reply (rounds ++ [ρ]) := by
  intro before ρ' hstarts
  rcases List.prefix_concat_iff.mp hstarts with heq | hstarts
  · obtain ⟨rfl, hlast⟩ := List.append_inj' heq rfl
    cases hlast
    exact hnext
  · exact h before ρ' hstarts

/-- The request after a first part of the path. -/
theorem Path.next (h : Path robotFile reply (taken ++ ρ :: queued)) :
    follow robotFile reply taken.getLast? = some ρ := by
  refine h taken ρ ⟨queued, ?_⟩
  rw [List.append_assoc]
  rfl

/-- A first part of a path is a path. -/
theorem Path.left (h : Path robotFile reply (taken ++ queued)) : Path robotFile reply taken :=
  fun before ρ hstarts => h before ρ (hstarts.trans (List.prefix_append taken queued))

/-- The request that follows is a valid one. -/
theorem valid_follow {p : Option Round} (hnext : follow robotFile reply p = some ρ) :
    ρ.Valid robotFile reply := by
  rcases p with _ | ρ'
  · cases hnext
    trivial
  · exact Round.valid_next hnext

/-- Every request of a path is valid. -/
theorem Path.valid (h : Path robotFile reply rounds) (hρ : ρ ∈ rounds) :
    ρ.Valid robotFile reply := by
  obtain ⟨before, after, rfl⟩ := List.append_of_mem hρ
  exact valid_follow h.next

/-- Nothing follows the last request. -/
theorem Path.complete_last (h : Path robotFile reply rounds) (hρ : Round.complete ∈ rounds) :
    rounds.getLast? = some .complete := by
  obtain ⟨before, after, rfl⟩ := List.append_of_mem hρ
  rcases after with _ | ⟨ρ', after⟩
  · rw [List.getLast?_concat]
  · have hnext : follow robotFile reply (before ++ [Round.complete]).getLast? = some ρ' := by
      refine h (before ++ [Round.complete]) ρ' ⟨after, ?_⟩
      simp
    rw [List.getLast?_concat] at hnext
    cases hnext

/-- An answer to one of the requests taken is one to the requests made. -/
theorem Answers.mono {v : Bytes} (h : Answers robotFile reply taken v) (queued : List Round) :
    Answers robotFile reply (taken ++ queued) v := by
  obtain ⟨ρ, hρ, hanswer⟩ := h
  exact ⟨ρ, List.mem_append_left _ hρ, hanswer⟩

/-- An answer to a request of a path is genuine. -/
theorem Answers.genuine {v : Bytes} (h : Answers robotFile reply rounds v)
    (hpath : Path robotFile reply rounds) : Genuine robotFile reply v := by
  obtain ⟨ρ, hρ, hanswer⟩ := h
  exact ⟨ρ, hpath.valid hρ, hanswer⟩

/-- Only the last request is answered with the final acknowledgement. -/
theorem Answers.complete (h : Answers robotFile reply rounds completeAck) :
    Round.complete ∈ rounds := by
  obtain ⟨ρ, hρ, hanswer⟩ := h
  have hfirst {type : MessageType} {rest : Bytes}
      (heq : some (type.code :: rest) = some completeAck) : type = .completeAck := by
    have hcode := (List.cons.inj (Option.some.inj heq)).1
    have hsame := congrArg MessageType.ofCode? hcode
    rw [MessageType.ofCode?_code, MessageType.ofCode?_code] at hsame
    exact Option.some.inj hsame
  cases ρ with
  | complete => exact hρ
  | replyNext k =>
    rw [Round.answer] at hanswer
    split at hanswer
    · cases hfirst hanswer
    · cases hfirst hanswer
  | fileData k => cases hanswer
  | hello => cases hfirst hanswer
  | fileStart => cases hfirst hanswer
  | fileEnd => cases hfirst hanswer
  | replyRequest => cases hfirst hanswer

/-! ## The beacon's side -/

/-- What the beacon keeps while the link is up: it is ready for the request after those it has
taken, and its slot holds the answer of one of these. -/
structure BeaconSide (names : Names) (robotFile : Bytes) (cfg : BeaconServer.Config)
    (taken : List Round) (b : BeaconServer.Beacon) : Prop where
  serving : Serving names b
  kept : BeaconAt robotFile cfg.reply b (follow robotFile cfg.reply taken.getLast?)
  slot : ∀ v, slot b = some v → Answers robotFile cfg.reply taken v
  status : b.beaconStatus = .complete ↔ taken.getLast? = some .complete

variable {b : BeaconServer.Beacon}

/-- What a handler that has taken the request of a round leaves behind, with the slot perhaps as
it was. -/
structure TookOver (names : Names) (robotFile : Bytes) (cfg : BeaconServer.Config) (ρ : Round)
    (b : BeaconServer.Beacon) (r : BeaconServer.Beacon × List BeaconServer.Effect) : Prop where
  serving : Serving names r.1
  kept : BeaconAt robotFile cfg.reply r.1 (ρ.next robotFile cfg.reply)
  slot : slot r.1 = ρ.answer robotFile cfg.reply ∨ slot r.1 = Connection.slot b
  notified : notified names r.2 = []

/-- A handler that has taken a request has taken it over. -/
theorem TookOver.of_took {r : BeaconServer.Beacon × List BeaconServer.Effect}
    (h : Took names robotFile cfg ρ r) : TookOver names robotFile cfg ρ b r :=
  ⟨h.serving, h.kept, .inl h.slot, h.notified⟩

/-- A chunk of the file is taken without a look at the slot. -/
theorem tookOver_fileData {k : ℕ} (hmax : robotFile.length ≤ 256) (hserving : Serving names b)
    (hvalid : 17 * k < robotFile.length)
    (h : BeaconAt robotFile cfg.reply b (some (.fileData k))) :
    TookOver names robotFile cfg (.fileData k) b (BeaconServer.handle cfg b
      (.attWrite names.beaconCon .value (Round.request robotFile (.fileData k)))) := by
  have htook : Took names robotFile cfg (.fileData k)
      (BeaconServer.handle cfg { b with pendingNotificationLength := 0 }
        (.attWrite names.beaconCon .value (Round.request robotFile (.fileData k)))) :=
    takes_fileData hmax ⟨hserving.enabled, hserving.handle⟩ rfl hvalid
      (h.withSlot b.pendingNotification 0)
  have hrefused {r : UInt8} (hno : Took names robotFile cfg (.fileData k)
      (BeaconServer.sendError r { b with pendingNotificationLength := 0 })) : False := by
    have hslot := hno.requested
    unfold BeaconServer.sendError BeaconServer.sendSimple BeaconServer.queueNotification at hslot
    simp only [hserving.enabled, hserving.handle] at hslot
    simp [Connection.requested, Round.answer] at hslot
  rw [Round.request, Connection.chunkPacket, handle_write] at htook ⊢
  simp only at htook ⊢
  unfold BeaconServer.receiveFileData at htook ⊢
  by_cases hlen : (MessageType.fileData.code :: UInt8.ofNat k ::
      UInt8.ofNat (Connection.chunk robotFile k).length :: Connection.chunk robotFile k).length < 3
  · rw [if_pos hlen] at htook
    exact (hrefused htook).elim
  rw [if_neg hlen] at htook ⊢
  by_cases hfits : BeaconServer.fileDataFits (MessageType.fileData.code :: UInt8.ofNat k ::
      UInt8.ofNat (Connection.chunk robotFile k).length :: Connection.chunk robotFile k) b = true
  · rw [if_pos hfits]
    rw [if_pos (show BeaconServer.fileDataFits _ { b with pendingNotificationLength := 0 } = true
      from hfits)] at htook
    exact ⟨⟨htook.serving.enabled, htook.serving.handle⟩,
      htook.kept.withSlot b.pendingNotification b.pendingNotificationLength, .inr rfl, rfl⟩
  · rw [if_neg (show ¬ BeaconServer.fileDataFits _ { b with pendingNotificationLength := 0 } = true
      from hfits)] at htook
    exact (hrefused htook).elim

/-- **The beacon takes the next request**, also when its last answer is still in the slot. -/
theorem beacon_takesOver (hid : cfg.beaconId = targetBeaconId) (hmax : robotFile.length ≤ 256)
    (hvalid : ρ.Valid robotFile cfg.reply) (hserving : Serving names b)
    (h : BeaconAt robotFile cfg.reply b (some ρ)) :
    TookOver names robotFile cfg ρ b (BeaconServer.handle cfg b
      (.attWrite names.beaconCon .value (ρ.request robotFile))) := by
  cases ρ with
  | hello => exact .of_took (takes_hello hid hserving)
  | fileStart => exact .of_took (takes_fileStart hid hmax hserving)
  | fileData k => exact tookOver_fileData hmax hserving hvalid h
  | fileEnd => exact .of_took (takes_fileEnd hserving h)
  | replyRequest => exact .of_took (takes_replyRequest hserving h)
  | replyNext k => exact .of_took (takes_replyNext hserving hvalid h)
  | complete => exact .of_took (takes_complete hid hserving h)

/-- `BEACON_STATUS_COMPLETE` is set by the last request only. -/
theorem status_takes (h : b.beaconStatus ≠ .complete) :
    (BeaconServer.handle cfg b
      (.attWrite names.beaconCon .value (ρ.request robotFile))).1.beaconStatus = .complete ↔
      ρ = .complete := by
  cases ρ with
  | hello =>
    rw [Round.request, handle_write]
    simp only [BeaconServer.receiveHello]
    split <;> simp [BeaconServer.sendError, BeaconServer.sendSimple]
  | fileStart =>
    rw [Round.request, handle_write]
    simp only [BeaconServer.receiveFileStart]
    split_ifs <;> simp [BeaconServer.sendError, BeaconServer.sendSimple]
  | fileData k =>
    rw [Round.request, Connection.chunkPacket, handle_write]
    simp only [BeaconServer.receiveFileData]
    split_ifs <;> simp [BeaconServer.sendError, BeaconServer.sendSimple, h]
  | fileEnd =>
    rw [Round.request, handle_write]
    simp only [BeaconServer.receiveFileEnd, BeaconServer.queueNotification_beaconStatus]
    split <;> simp
  | replyRequest =>
    rw [Round.request, handle_write]
    simp [BeaconServer.receiveReplyRequest, BeaconServer.sendReplyPiece]
  | replyNext k =>
    rw [Round.request, handle_write]
    simp only [BeaconServer.sendReplyPiece]
    split_ifs <;> simp [h]
  | complete =>
    rw [Round.request, handle_write]
    simp [BeaconServer.receiveComplete, BeaconServer.sendSimple]

/-- **The beacon takes the request that follows**, and keeps its side. -/
theorem BeaconSide.takes (h : BeaconSide names robotFile cfg taken b)
    (hid : cfg.beaconId = targetBeaconId) (hmax : robotFile.length ≤ 256)
    (hnext : follow robotFile cfg.reply taken.getLast? = some ρ) :
    let r := BeaconServer.handle cfg b (.attWrite names.beaconCon .value (ρ.request robotFile))
    BeaconSide names robotFile cfg (taken ++ [ρ]) r.1 ∧ notified names r.2 = [] := by
  have hover := beacon_takesOver hid hmax (valid_follow hnext) h.serving (hnext ▸ h.kept)
  refine ⟨⟨hover.serving, ?_, ?_, ?_⟩, hover.notified⟩
  · rw [List.getLast?_concat]
    exact hover.kept
  · intro v hv
    rcases hover.slot with hslot | hslot
    · exact ⟨ρ, by simp, hslot.symm.trans hv⟩
    · exact (h.slot v (hslot.symm.trans hv)).mono [ρ]
  · have hnot : b.beaconStatus ≠ .complete := by
      intro hstatus
      rw [h.status.mp hstatus] at hnext
      cases hnext
    rw [status_takes hnot, List.getLast?_concat]
    simp

/-- A beacon that has taken the last request has the file. -/
theorem BeaconSide.delivered (h : BeaconSide names robotFile cfg taken b)
    (hlast : taken.getLast? = some .complete) : Delivered robotFile b := by
  have hkept := h.kept
  rw [hlast] at hkept
  exact hkept

/-- A can-send-now event sends what the slot holds, if anything. -/
theorem BeaconSide.sends (h : BeaconSide names robotFile cfg taken b) :
    let r := BeaconServer.handle cfg b .canSendNow
    BeaconSide names robotFile cfg taken r.1 ∧
      ∀ v ∈ notified names r.2, Answers robotFile cfg.reply taken v := by
  intro r
  cases hslot : Connection.slot b with
  | none =>
    have hr : r = (b, []) := by
      unfold Connection.slot at hslot
      split at hslot
      · rename_i hlength
        show BeaconServer.sendPending b = _
        rw [BeaconServer.sendPending, if_neg (not_not.mpr hlength)]
      · cases hslot
    rw [hr]
    exact ⟨h, by simp [notified]⟩
  | some v =>
    have hr : r = ({ b with pendingNotificationLength := 0 }, [.notify (some names.beaconCon) v]) :=
      sendPending_of_slot h.serving hslot
    rw [hr]
    refine ⟨⟨⟨h.serving.enabled, h.serving.handle⟩, h.kept.withSlot b.pendingNotification 0, ?_,
      h.status⟩, ?_⟩
    · intro v hv
      cases hv
    · intro v' hv'
      have hsame : v' = v := by simpa [notified] using hv'
      exact hsame ▸ h.slot v hslot

/-! ## The client's side -/

/-- What the client keeps: it takes part in the exchange, or it has left it. -/
inductive ClientSide (names : Names) (robotFile reply : Bytes) (p : Option Round)
    (sent : List Bytes) (c : Client) : Prop
  | engaged (h : Engaged names robotFile reply (· ∈ sent) p c)
  | left (h : Left c) (hreply : p = some .complete → Replied reply c)
      (hverified : c.payloadVerified = true → p = some .complete ∧ completeAck ∈ sent)

variable {sent sent' : List Bytes} {p : Option Round} {c d : Client} {env : Env}

/-- The client keeps its side whatever else the beacon sends. -/
theorem ClientSide.mono (h : ClientSide names robotFile reply p sent c)
    (hsub : ∀ v ∈ sent, v ∈ sent') : ClientSide names robotFile reply p sent' c := by
  cases h with
  | engaged h => exact .engaged (h.mono hsub)
  | left h hreply hverified =>
    exact .left h hreply fun hv => ⟨(hverified hv).1, hsub _ (hverified hv).2⟩

/-- Once the last request is written the client has the reply. -/
theorem ClientSide.replied (h : ClientSide names robotFile reply (some .complete) sent c) :
    Replied reply c := by
  cases h with
  | engaged h => exact h.stage.2
  | left h hreply hverified => exact hreply rfl

/-- A payload is verified after the last request and its acknowledgement. -/
theorem ClientSide.verified (h : ClientSide names robotFile reply p sent c)
    (hc : c.payloadVerified = true) : p = some .complete ∧ completeAck ∈ sent := by
  cases h with
  | engaged h => exact absurd hc (by simp [h.unverified])
  | left h hreply hverified => exact hverified hc

/-! ## Both parties -/

/-- The two parties and the link: `taken` are the requests the beacon has taken, `queued` those on
their way. -/
structure Agreed (names : Names) (robotFile : Bytes) (cfg : BeaconServer.Config)
    (taken queued : List Round) (x : Link) : Prop where
  path : Path robotFile cfg.reply (taken ++ queued)
  writes : x.writes = queued.map (·.request robotFile)
  client : ClientSide names robotFile cfg.reply (taken ++ queued).getLast? x.sent x.client
  sent : ∀ v ∈ x.sent, Answers robotFile cfg.reply taken v
  beacon : x.up = true → BeaconSide names robotFile cfg taken x.beacon
  gone : x.up = false → x.beacon.beaconStatus ≠ .complete
  file : .complete ∈ taken → x.beacon.receivedFile.prefixOf robotFile.length = robotFile

variable {x y : Link}

/-- **The client moves**: what it does follows the path, and BTstack queues it. -/
theorem Agreed.clientMoves (h : Agreed names robotFile cfg taken queued x)
    (hengaged : ∀ p, Engaged names robotFile cfg.reply (· ∈ x.sent) p x.client →
      p = (taken ++ queued).getLast? →
      Outcome names robotFile cfg.reply (· ∈ x.sent) p env x.client d)
    (hleft : Left x.client → Leaves names x.client d) :
    ∃ queued', Agreed names robotFile cfg taken queued' (Link.clientRan names env d x) := by
  -- nothing is written, and the path stays
  have stays (hd : ClientSide names robotFile cfg.reply (taken ++ queued).getLast? x.sent d)
      (hadds : env.write = 0 → Adds names [] x.client d) :
      ∃ queued', Agreed names robotFile cfg taken queued' (Link.clientRan names env d x) := by
    refine ⟨queued, h.path, ?_, hd, h.sent, h.beacon, h.gone, h.file⟩
    show x.writes ++ _ = _
    split
    · rename_i hwrite
      rw [(hadds hwrite).drop, List.append_nil, h.writes]
    · rw [List.append_nil, h.writes]
  have hreplied (hlast : (taken ++ queued).getLast? = some .complete) :
      Replied cfg.reply x.client := by
    have hclient := h.client
    rw [hlast] at hclient
    exact hclient.replied
  rcases h.client with hc | ⟨hc, hreply, hverified⟩
  · rcases hengaged _ hc rfl with ⟨hd, hadds⟩ | ⟨hnext, hwrite, hd, hadds⟩ |
      ⟨hd, hadds, hreply, hverified⟩
    · exact stays (.engaged hd) fun _ => hadds
    · rename_i ρ
      refine ⟨queued ++ [ρ], ?_, ?_, ?_, h.sent, h.beacon, h.gone, h.file⟩
      · rw [← List.append_assoc]
        exact h.path.snoc hnext
      · show x.writes ++ _ = _
        rw [if_pos hwrite, hadds.drop, h.writes, List.map_append]
        rfl
      · rw [← List.append_assoc, List.getLast?_concat]
        exact .engaged hd
    · refine stays (.left hd (fun hlast => ?_) hverified) hadds
      obtain ⟨hlength, hfile⟩ := hreply hlast
      obtain ⟨hlength', hfile'⟩ := hreplied hlast
      exact ⟨hlength.trans hlength', hfile ▸ hfile'⟩
  · obtain ⟨hd, hadds, hkept, hv⟩ := hleft hc
    refine stays (.left hd (fun hlast => ?_) fun hd => hverified (hv hd)) fun _ => hadds
    obtain ⟨hlength', hfile'⟩ := hreply hlast
    exact ⟨hkept.1.trans hlength', hkept.2 ▸ hfile'⟩

/-- What the beacon has sent is genuine. -/
theorem Agreed.genuine (h : Agreed names robotFile cfg taken queued x) :
    ∀ v ∈ x.sent, Genuine robotFile cfg.reply v := fun v hv =>
  ((h.sent v hv).mono queued).genuine h.path

/-- The latest request is valid. -/
theorem Agreed.valid (h : Agreed names robotFile cfg taken queued x) :
    ∀ ρ, (taken ++ queued).getLast? = some ρ → ρ.Valid robotFile cfg.reply := fun _ hρ =>
  h.path.valid (List.mem_of_getLast? hρ)

/-- A packet reaches the client. -/
theorem Agreed.hears (h : Agreed names robotFile cfg taken queued x) (hmax : robotFile.length ≤ 256)
    {event : PayloadClient.Event}
    (hevent : ∀ v, event = .notification names.robotCon names.valueHandle v → v ∈ x.sent) :
    ∃ queued', Agreed names robotFile cfg taken queued'
      (Link.clientRan names env (handle robotFile env event x.client) x) := by
  have hreply : cfg.reply.length ≤ 256 := by
    have := cfg.reply_le
    omega
  refine h.clientMoves (fun p hc hp => ?_) Left.handle
  exact outcome_handle hmax hreply (fun ρ hρ => h.valid ρ (hp ▸ hρ)) h.genuine hc hevent

/-- A write reaches the beacon. -/
theorem Agreed.delivers (h : Agreed names robotFile cfg taken (ρ :: queued) x)
    (hid : cfg.beaconId = targetBeaconId) (hmax : robotFile.length ≤ 256) (hup : x.up = true) :
    Agreed names robotFile cfg (taken ++ [ρ]) queued
      (Link.beaconRan names (BeaconServer.handle cfg x.beacon
        (.attWrite names.beaconCon .value (ρ.request robotFile)))
        { x with writes := queued.map (·.request robotFile) }) := by
  obtain ⟨hside, hnotified⟩ := (h.beacon hup).takes hid hmax h.path.next
  have hassoc : taken ++ [ρ] ++ queued = taken ++ ρ :: queued := by simp
  have hpath : Path robotFile cfg.reply (taken ++ [ρ] ++ queued) := by
    rw [hassoc]
    exact h.path
  refine ⟨hpath, rfl, ?_, ?_, fun _ => hside, ?_, ?_⟩
  · rw [hassoc]
    exact h.client.mono fun v hv => List.mem_append_left _ hv
  · intro v hv
    rcases List.mem_append.mp hv with hv | hv
    · exact (h.sent v hv).mono [ρ]
    · rw [hnotified] at hv
      cases hv
  · intro hdown
    exact absurd (hup.symm.trans hdown) (by decide)
  · intro hcomplete
    exact (hside.delivered (hpath.left.complete_last hcomplete)).2

/-- The beacon may send what is in its slot. -/
theorem Agreed.sends (h : Agreed names robotFile cfg taken queued x) (hup : x.up = true) :
    Agreed names robotFile cfg taken queued
      (Link.beaconRan names (BeaconServer.handle cfg x.beacon .canSendNow) x) := by
  obtain ⟨hside, hnotified⟩ := (h.beacon hup).sends
  refine ⟨h.path, h.writes, ?_, ?_, fun _ => hside, ?_, ?_⟩
  · exact h.client.mono fun v hv => List.mem_append_left _ hv
  · intro v hv
    rcases List.mem_append.mp hv with hv | hv
    · exact h.sent v hv
    · exact hnotified v hv
  · intro hdown
    exact absurd (hup.symm.trans hdown) (by decide)
  · intro hcomplete
    exact (hside.delivered (h.path.left.complete_last hcomplete)).2

/-- The abort is asked for. -/
theorem Agreed.requestAbort (h : Agreed names robotFile cfg taken queued x) :
    Agreed names robotFile cfg taken queued
      { x with client := { x.client with abortRequested := true } } := by
  refine ⟨h.path, h.writes, ?_, h.sent, h.beacon, h.gone, h.file⟩
  rcases h.client with hc | ⟨hc, hreply, hverified⟩
  · exact .engaged ⟨hc.handle, hc.value,
      hc.stage.congr rfl ⟨rfl, rfl, rfl⟩ ⟨rfl, rfl, rfl, rfl, rfl⟩, hc.unverified, hc.parked⟩
  · exact .left hc hreply hverified

/-- **Every move** keeps the agreement. -/
theorem agreed_step (hid : cfg.beaconId = targetBeaconId) (hmax : robotFile.length ≤ 256)
    {a : Action} (h : Agreed names robotFile cfg taken queued x)
    (hstep : step names robotFile cfg x a = some y) :
    ∃ taken' queued', Agreed names robotFile cfg taken' queued' y := by
  cases a with
  | deliverWrite =>
    have hwrites := h.writes
    simp only [step, deliverWrite] at hstep
    split at hstep
    · cases hstep
    rename_i value rest heq
    rw [heq] at hwrites
    cases queued with
    | nil => cases hwrites
    | cons ρ queued =>
      obtain ⟨rfl, rfl⟩ := List.cons.inj hwrites
      split at hstep
      · rename_i hup
        cases hstep
        exact ⟨_, _, h.delivers hid hmax hup⟩
      · cases hstep
  | canSendNow =>
    simp only [step] at hstep
    split at hstep
    · rename_i hup
      cases hstep
      exact ⟨_, _, h.sends hup⟩
    · cases hstep
  | notify value env =>
    simp only [step] at hstep
    split at hstep
    · rename_i hsent
      cases hstep
      refine ⟨taken, h.hears hmax ?_⟩
      rintro v hv
      cases hv
      exact hsent
    · cases hstep
  | packet event env =>
    simp only [step] at hstep
    split at hstep
    · cases hstep
    · rename_i hother
      cases hstep
      refine ⟨taken, h.hears hmax ?_⟩
      rintro v rfl
      exact absurd (by simp [fromBeacon]) hother
  | requestAbort =>
    cases hstep
    exact ⟨_, _, h.requestAbort⟩
  | abort env =>
    cases hstep
    exact ⟨taken, h.clientMoves (fun p hc _ => outcome_abort hc) Left.abort⟩
  | endBeacon =>
    simp only [step] at hstep
    split at hstep
    · cases hstep
      exact ⟨taken, queued, h.path, h.writes, h.client, h.sent, nofun, fun _ => nofun, h.file⟩
    · cases hstep

/-- What both parties can rely on. -/
structure InAgreement (robotFile : Bytes) (cfg : BeaconServer.Config) (x : Link) : Prop where
  /-- a beacon that reports success has the file, and the client has the reply -/
  complete : x.beacon.beaconStatus = .complete →
    Delivered robotFile x.beacon ∧ Replied cfg.reply x.client
  /-- a reply the robot uses is the beacon's, and the beacon has had the robot's file -/
  verified : ∀ data, payloadClientData x.client = some data →
    data = cfg.reply ∧ x.beacon.receivedFile.prefixOf robotFile.length = robotFile ∧
      (x.up = true → x.beacon.beaconStatus = .complete)
  /-- the beacon sends the answers of an exchange only, and none of them reports an error -/
  genuine : ∀ v ∈ x.sent, Genuine robotFile cfg.reply v ∧ byteAt v 0 ≠ MessageType.error.code

/-- Parties that keep their sides are in agreement. -/
theorem Agreed.inAgreement (h : Agreed names robotFile cfg taken queued x) :
    InAgreement robotFile cfg x := by
  have hreplied (hcomplete : Round.complete ∈ taken) :
      (taken ++ queued).getLast? = some .complete ∧ Replied cfg.reply x.client := by
    have hlast := h.path.complete_last (List.mem_append_left queued hcomplete)
    have hclient := h.client
    rw [hlast] at hclient
    exact ⟨hlast, hclient.replied⟩
  constructor
  · intro hstatus
    have hup : x.up = true := by
      by_contra hdown
      exact h.gone (by simpa using hdown) hstatus
    have hlast := (h.beacon hup).status.mp hstatus
    exact ⟨(h.beacon hup).delivered hlast, (hreplied (List.mem_of_getLast? hlast)).2⟩
  · intro data hdata
    unfold payloadClientData at hdata
    split at hdata
    · rename_i hverified
      have hcomplete := (h.sent _ (h.client.verified hverified).2).complete
      obtain ⟨hlength, hfile⟩ := (hreplied hcomplete).2
      refine ⟨?_, h.file hcomplete, fun hup => ?_⟩
      · rw [← Option.some.inj hdata, hlength, hfile]
      · exact (h.beacon hup).status.mpr (h.path.left.complete_last hcomplete)
    · cases hdata
  · intro v hv
    obtain ⟨type, rest, heq, herror, -⟩ := (h.genuine v hv).packet
    refine ⟨h.genuine v hv, fun hcode => herror ?_⟩
    rw [heq] at hcode
    have hsame := congrArg MessageType.ofCode? (show type.code = MessageType.error.code from hcode)
    rw [MessageType.ofCode?_code, MessageType.ofCode?_code] at hsame
    exact Option.some.inj hsame

/-- The agreement when the configuration write is about to complete. -/
theorem agreed_opened {client : Client} (hclient : Subscribing names client)
    (hparked : client.pendingLength = 0) (hverified : client.payloadVerified = false)
    (b : BeaconServer.Beacon) :
    Agreed names robotFile cfg [] [] (opened names cfg client b) := by
  refine ⟨path_nil, rfl, .engaged ⟨hclient.handle, hclient.value, hclient.state, hverified, ?_⟩,
    nofun, fun _ => ⟨⟨rfl, rfl⟩, trivial, nofun, ?_⟩, nofun, nofun⟩
  · exact fun hne => absurd hparked hne
  · exact iff_of_false nofun nofun

/-- **Both parties agree**, whatever the link loses, delays, repeats or reorders, whatever else
reaches the client, and whenever the attempt is aborted or the link ends: from any exchange that a
client begins after its discovery, neither party is ever mistaken about the other. -/
theorem parties_agree (hid : cfg.beaconId = 1) (hmax : robotFile.length ≤ 256) {env : Env}
    {packets : List (PayloadClient.Event × Env)} {c : Client}
    (hclient : Subscribing names (attempted robotFile env packets c)) (b : BeaconServer.Beacon)
    {actions : List Action}
    (hrun : Transition.run (step names robotFile cfg)
      (opened names cfg (attempted robotFile env packets c) b) actions = some x) :
    InAgreement robotFile cfg x := by
  have hstart : Agreed names robotFile cfg [] []
      (opened names cfg (attempted robotFile env packets c) b) := by
    refine agreed_opened hclient ?_ ?_ b
    · apply unparked_attempted packets c
      rw [hclient.state]
      rfl
    · exact (fresh_attempted packets c).unverified hclient.state nofun nofun
  obtain ⟨taken, queued, hx⟩ : ∃ taken queued, Agreed names robotFile cfg taken queued x := by
    refine Transition.run_invariant
      (I := fun x => ∃ taken queued, Agreed names robotFile cfg taken queued x) ?_
      ⟨[], [], hstart⟩ hrun
    rintro x a y ⟨taken, queued, h⟩ hstep
    exact agreed_step hid hmax h hstep
  exact hx.inAgreement

/-- An exchange with AP1 in which every answer is preceded by the first one over again. -/
def repeatedAck : List Action :=
  let done : Action := .packet (.queryComplete someNames.robotCon 0) accepting
  let rounds : List Round := [.hello, .fileStart, .fileData 0, .fileData 1, .fileData 2, .fileEnd,
    .replyRequest, .replyNext 0, .replyNext 1, .replyNext 2, .complete]
  done :: rounds.flatMap fun ρ =>
    match ρ.answer robotTestFile BeaconServer.Config.ap1.reply with
    | none => [.deliverWrite, done]
    | some v => [.deliverWrite, done, .canSendNow,
        .notify [MessageType.helloAck.code, targetBeaconId] accepting, .notify v accepting]

/-- The reply arrives all the same. -/
theorem parties_agree_repeatedAck :
    ∃ x, Transition.run (step someNames robotTestFile .ap1)
        (opened someNames .ap1 (attempted robotTestFile accepting foundPackets .boot) .boot)
        repeatedAck = some x ∧
      payloadClientData x.client = some BeaconServer.Config.ap1.reply ∧
      InAgreement robotTestFile .ap1 x := by
  have hend : (Transition.run (step someNames robotTestFile .ap1)
      (opened someNames .ap1 (attempted robotTestFile accepting foundPackets .boot) .boot)
      repeatedAck).map (fun x => payloadClientData x.client) =
        some (some BeaconServer.Config.ap1.reply) := by
    decide +kernel
  obtain ⟨x, hrun, hx⟩ := Option.map_eq_some_iff.mp hend
  exact ⟨x, hrun, hx, parties_agree rfl (by decide)
    ⟨by decide +kernel, by decide +kernel, by decide +kernel, by decide +kernel⟩ .boot hrun⟩

end LossyLink
