/-
# Every interleaving completes the exchange

`Place` says where an exchange stands: between two rounds, or with the answer of a round in
the beacon's slot, on its way, parked or awaited.  `Stands` fixes the traffic and what both
parties keep there.  Every possible move leads from one place to another with a smaller
`rank` (`stands_step`), and at every place but the last some move is possible
(`stands_progress`), so every run ends with the file and the reply delivered
(`exchange_completes`).
-/
import GettingThere.ExchangeClient
import GettingThere.PayloadAttempt

namespace Connection

open TransferProtocol PayloadClient Transition

/-- Where an exchange stands. -/
inductive Place
  | opening
  | asked (ρ : Round)
  | taken (ρ : Round)
  | sent (ρ : Round)
  | parked (ρ : Round)
  | awaited (ρ : Round)
  | coming (ρ : Round)
  | ended (endsClient endsBeacon : Bool)
  deriving DecidableEq, Repr

/-- A measure every move lowers: five moves a round at the most. -/
def Place.rank (robotFile reply : Bytes) : Place → ℕ
  | opening => 8 * (reply.length + robotFile.length + 6) + 8
  | asked ρ => 8 * ρ.left robotFile reply + 8
  | taken ρ => 8 * ρ.left robotFile reply + 7
  | sent ρ => 8 * ρ.left robotFile reply + 6
  | parked ρ => 8 * ρ.left robotFile reply + 5
  | awaited ρ => 8 * ρ.left robotFile reply + 6
  | coming ρ => 8 * ρ.left robotFile reply + 5
  | ended endsClient endsBeacon => endsClient.toNat + endsBeacon.toNat

variable {names : Names} {robotFile : Bytes} {cfg : BeaconServer.Config} {x y : Link}

/-- The client of an exchange whose link has ended or is about to. -/
def ClientOver (names : Names) (reply : Bytes) (endsClient : Bool) (c : Client) : Prop :=
  (c.replyLength = reply.length ∧ c.replyFile.prefixOf reply.length = reply) ∧
    if endsClient then
      c.bleState = .closing ∧ c.connectionHandle = some names.robotCon ∧ c.closingResult = .complete
    else c.bleState = .idle ∧ c.result = .complete ∧ c.attemptRunning = false

/-- The beacon of an exchange whose link has ended or is about to. -/
def BeaconOver (robotFile : Bytes) (endsBeacon : Bool) (b : BeaconServer.Beacon) : Prop :=
  slot b = none ∧ b.receivedFile.prefixOf robotFile.length = robotFile ∧
    if endsBeacon then b.connectionHandle ≠ none else b.connectionHandle = none

/-- The beacon serves the connection with nothing but `pending` in its slot. -/
structure Beaconing (names : Names) (robotFile reply : Bytes) (pending : Option Bytes)
    (ρ : Option Round) (b : BeaconServer.Beacon) : Prop where
  serving : Serving names b
  slot : slot b = pending
  kept : BeaconAt robotFile reply b ρ

/-- What holds of the traffic and the two parties at a place. -/
inductive Stands (names : Names) (robotFile : Bytes) (cfg : BeaconServer.Config) (x : Link) :
    Place → Prop
  | opening (traffic : x.traffic = .subscribed) (joined : Joined names x.client)
      (state : x.client.bleState = .enableNotifications) (pending : x.client.pendingLength = 0)
      (beacon : Beaconing names robotFile cfg.reply none (some .hello) x.beacon) :
      Stands names robotFile cfg x .opening
  | asked {ρ : Round} (valid : ρ.Valid robotFile cfg.reply)
      (traffic : x.traffic = ⟨[ρ.request robotFile], 0, 0, [], false, false⟩)
      (client : Writes names robotFile cfg.reply ρ none x.client)
      (beacon : Beaconing names robotFile cfg.reply none (some ρ) x.beacon) :
      Stands names robotFile cfg x (.asked ρ)
  | taken {ρ : Round} (valid : ρ.Valid robotFile cfg.reply)
      (traffic : x.traffic =
        ⟨[], 1, if (ρ.answer robotFile cfg.reply).isSome then 1 else 0, [], false, false⟩)
      (client : Writes names robotFile cfg.reply ρ none x.client)
      (beacon : Beaconing names robotFile cfg.reply (ρ.answer robotFile cfg.reply)
        (ρ.next robotFile cfg.reply) x.beacon) :
      Stands names robotFile cfg x (.taken ρ)
  | sent {ρ : Round} {value : Bytes} (valid : ρ.Valid robotFile cfg.reply)
      (answer : ρ.answer robotFile cfg.reply = some value)
      (traffic : x.traffic = ⟨[], 1, 0, [value], false, false⟩)
      (client : Writes names robotFile cfg.reply ρ none x.client)
      (beacon : Beaconing names robotFile cfg.reply none (ρ.next robotFile cfg.reply) x.beacon) :
      Stands names robotFile cfg x (.sent ρ)
  | parked {ρ : Round} {value : Bytes} (valid : ρ.Valid robotFile cfg.reply)
      (answer : ρ.answer robotFile cfg.reply = some value)
      (traffic : x.traffic = ⟨[], 1, 0, [], false, false⟩)
      (client : Writes names robotFile cfg.reply ρ (some value) x.client)
      (beacon : Beaconing names robotFile cfg.reply none (ρ.next robotFile cfg.reply) x.beacon) :
      Stands names robotFile cfg x (.parked ρ)
  | awaited {ρ : Round} {value : Bytes} (valid : ρ.Valid robotFile cfg.reply)
      (answer : ρ.answer robotFile cfg.reply = some value)
      (traffic : x.traffic = ⟨[], 0, 1, [], false, false⟩)
      (client : Waits names robotFile cfg.reply ρ x.client)
      (beacon : Beaconing names robotFile cfg.reply (some value) (ρ.next robotFile cfg.reply)
        x.beacon) :
      Stands names robotFile cfg x (.awaited ρ)
  | coming {ρ : Round} {value : Bytes} (valid : ρ.Valid robotFile cfg.reply)
      (answer : ρ.answer robotFile cfg.reply = some value)
      (traffic : x.traffic = ⟨[], 0, 0, [value], false, false⟩)
      (client : Waits names robotFile cfg.reply ρ x.client)
      (beacon : Beaconing names robotFile cfg.reply none (ρ.next robotFile cfg.reply) x.beacon) :
      Stands names robotFile cfg x (.coming ρ)
  | ended {endsClient endsBeacon : Bool} (traffic : x.traffic = ⟨[], 0, 0, [], endsClient, endsBeacon⟩)
      (client : ClientOver names cfg.reply endsClient x.client)
      (beacon : BeaconOver robotFile endsBeacon x.beacon) :
      Stands names robotFile cfg x (.ended endsClient endsBeacon)

/-! ## Carrying out what was asked -/

/-- BTstack takes over what the client asked for. -/
theorem clientRan_of_asked {c d : Client} {values : List Bytes} {ended : Bool}
    (h : Asked names c d values ended) (b : BeaconServer.Beacon) (t : Traffic) :
    Link.clientRan names d ⟨c, b, t⟩ =
      ⟨d, b, { t with
        writes := t.writes ++ values
        endsClient := t.endsClient || ended
        endsBeacon := t.endsBeacon || ended }⟩ := by
  obtain ⟨asked, hcalls, hvalues, hended, -⟩ := h
  unfold Link.clientRan
  simp only
  rw [hcalls, List.drop_left, hvalues, hended]

/-- The client has reported no failure between `c` and `d`. -/
def Quiet (c d : Client) : Prop :=
  ∃ made, d.calls = c.calls ++ made ∧ ∀ reason, .failed reason ∉ made

theorem Asked.quiet {c d : Client} {values : List Bytes} {ended : Bool}
    (h : Asked names c d values ended) : Quiet c d := by
  obtain ⟨asked, hcalls, -, -, hfailed⟩ := h
  exact ⟨asked, hcalls, hfailed⟩

theorem Quiet.refl (c : Client) : Quiet c c := ⟨[], by rw [List.append_nil], by simp⟩

theorem Quiet.trans {c d e : Client} (h : Quiet c d) (h' : Quiet d e) : Quiet c e := by
  obtain ⟨made, hcalls, hfailed⟩ := h
  obtain ⟨made', hcalls', hfailed'⟩ := h'
  refine ⟨made ++ made', by rw [hcalls', hcalls, List.append_assoc], ?_⟩
  intro reason hmem
  rcases List.mem_append.mp hmem with hm | hm
  · exact hfailed reason hm
  · exact hfailed' reason hm

/-- One move: to which place it leads, and that the client reports no failure. -/
def Moves (names : Names) (robotFile : Bytes) (cfg : BeaconServer.Config) (x y : Link)
    (p : Place) : Prop :=
  (∃ q, Stands names robotFile cfg y q ∧
    q.rank robotFile cfg.reply < p.rank robotFile cfg.reply) ∧ Quiet x.client y.client

/-- The client goes on to the next round, or hangs up: from a link with nothing else on its
way. -/
theorem stands_advanced {ρ : Round} {d : Client} {x : Link} (hvalid : ρ.Valid robotFile cfg.reply)
    (htraffic : x.traffic = ⟨[], 0, 0, [], false, false⟩)
    (hbeacon : Beaconing names robotFile cfg.reply none (ρ.next robotFile cfg.reply) x.beacon)
    (hadvanced : Advanced names robotFile cfg.reply ρ x.client d) :
    (∃ q, Stands names robotFile cfg (x.clientRan names d) q ∧
      q.rank robotFile cfg.reply ≤ 8 * ρ.left robotFile cfg.reply + 2) ∧
    Quiet x.client (x.clientRan names d).client := by
  obtain ⟨c, b, t⟩ := x
  simp only at htraffic hbeacon hadvanced
  subst htraffic
  unfold Advanced at hadvanced
  cases hnext : ρ.next robotFile cfg.reply with
  | some ρ' =>
    rw [hnext] at hadvanced hbeacon
    have hleft := Round.left_next hvalid hnext
    rw [clientRan_of_asked hadvanced.asked]
    refine ⟨⟨.asked ρ', ?_, ?_⟩, hadvanced.asked.quiet⟩
    · exact .asked (Round.valid_next hnext) rfl hadvanced.writes hbeacon
    · simp only [Place.rank]
      omega
  | none =>
    rw [hnext] at hadvanced hbeacon
    rw [clientRan_of_asked hadvanced.asked]
    refine ⟨⟨.ended true true, ?_, ?_⟩, hadvanced.asked.quiet⟩
    · refine .ended rfl ⟨hadvanced.kept, ?_⟩ ⟨hbeacon.slot, hbeacon.kept.2, ?_⟩
      · exact ⟨hadvanced.state, hadvanced.handle, hadvanced.result⟩
      · show b.connectionHandle ≠ none
        rw [hbeacon.serving.handle]
        nofun
    · simp [Place.rank]

/-! ## The moves -/

/-- What a move needs of the traffic. -/
def Possible (t : Traffic) : Action → Prop
  | .deliverWrite => t.writes ≠ []
  | .canSendNow => t.canSends ≠ 0
  | .deliverNotification _ => t.notifications ≠ []
  | .deliverCompletion _ => t.completions ≠ 0
  | .endClient _ => t.endsClient = true
  | .endBeacon => t.endsBeacon = true

theorem isSome_step (x : Link) (a : Action) :
    (step names robotFile cfg x a).isSome ↔ Possible x.traffic a := by
  cases a with
  | deliverWrite =>
    simp only [step, deliverWrite, Possible]
    split <;> simp_all
  | canSendNow =>
    simp only [step, canSendNow, Possible]
    split <;> simp_all
  | deliverNotification now =>
    simp only [step, deliverNotification, Possible]
    split <;> simp_all
  | deliverCompletion now =>
    simp only [step, deliverCompletion, Possible]
    split <;> simp_all
  | endClient now =>
    simp only [step, endClient, Possible]
    split <;> simp_all
  | endBeacon =>
    simp only [step, endBeacon, Possible]
    split <;> simp_all

/-- A move that happened was possible. -/
theorem possible_of_step {a : Action} (h : step names robotFile cfg x a = some y) :
    Possible x.traffic a := by
  rw [← @isSome_step names robotFile cfg x a, h]
  rfl

/-- The parameters of an exchange the proofs need. -/
structure Admissible (robotFile : Bytes) (cfg : BeaconServer.Config) : Prop where
  beacon : cfg.beaconId = targetBeaconId
  file : robotFile.length ≤ 256
  replyPos : 1 ≤ cfg.reply.length

/-- The client accepts any reply a beacon can have. -/
theorem reply_le_max (cfg : BeaconServer.Config) : cfg.reply.length ≤ 256 := by
  have := cfg.reply_le
  omega

/-- The completion of the configuration write is delivered. -/
theorem step_opening {a : Action} (h : Stands names robotFile cfg x .opening)
    (hstep : step names robotFile cfg x a = some y) :
    Moves names robotFile cfg x y .opening := by
  obtain ⟨htraffic, hjoined, hstate, hpending, hbeacon⟩ := h
  have hpossible := possible_of_step hstep
  rw [htraffic] at hpossible
  cases a with
  | deliverCompletion now =>
    have hwrote := @client_opens names robotFile cfg.reply x.client now hjoined hstate hpending
    simp only [step, deliverCompletion, htraffic, Traffic.subscribed, Option.some.injEq] at hstep
    subst hstep
    rw [clientRan_of_asked hwrote.asked]
    refine ⟨⟨.asked .hello, .asked trivial rfl hwrote.writes hbeacon, ?_⟩, hwrote.asked.quiet⟩
    simp only [Place.rank, Round.left]
    omega
  | deliverWrite => exact absurd rfl hpossible
  | canSendNow => exact absurd rfl hpossible
  | deliverNotification now => exact absurd rfl hpossible
  | endClient now => cases hpossible
  | endBeacon => cases hpossible

/-- The request of a round reaches the beacon. -/
theorem step_asked {ρ : Round} {a : Action} (hadm : Admissible robotFile cfg)
    (h : Stands names robotFile cfg x (.asked ρ)) (hstep : step names robotFile cfg x a = some y) :
    Moves names robotFile cfg x y (.asked ρ) := by
  cases h with
  | asked hvalid htraffic hclient hbeacon =>
  have hpossible := possible_of_step hstep
  rw [htraffic] at hpossible
  cases a with
  | deliverWrite =>
    have htook := beacon_takes hadm.beacon hadm.file hvalid hbeacon.serving hbeacon.slot hbeacon.kept
    simp only [step, deliverWrite, htraffic, Option.some.injEq] at hstep
    subst hstep
    refine ⟨⟨.taken ρ, .taken hvalid ?_ hclient ⟨htook.serving, htook.slot, htook.kept⟩, ?_⟩,
      Quiet.refl _⟩
    · simp only [Link.beaconRan, htook.requested, htook.notified, Nat.zero_add, List.append_nil]
    · simp only [Place.rank]
      omega
  | canSendNow => exact absurd rfl hpossible
  | deliverNotification now => exact absurd rfl hpossible
  | deliverCompletion now => exact absurd rfl hpossible
  | endClient now => cases hpossible
  | endBeacon => cases hpossible

/-- The beacon sends what is in its slot. -/
theorem sendPending_of_slot {b : BeaconServer.Beacon} {value : Bytes} (hserving : Serving names b)
    (hslot : slot b = some value) :
    BeaconServer.handle cfg b .canSendNow =
      ({ b with pendingNotificationLength := 0 }, [.notify (some names.beaconCon) value]) := by
  unfold slot at hslot
  split at hslot
  · cases hslot
  · rename_i hlength
    show BeaconServer.sendPending b = _
    rw [BeaconServer.sendPending, if_pos hlength, hserving.handle, Option.some.inj hslot]

/-- Sending the slot frees it and keeps the rest. -/
theorem Beaconing.send {reply : Bytes} {pending : Option Bytes} {ρ : Option Round}
    {b : BeaconServer.Beacon} (h : Beaconing names robotFile reply pending ρ b) :
    Beaconing names robotFile reply none ρ { b with pendingNotificationLength := 0 } :=
  ⟨⟨h.serving.enabled, h.serving.handle⟩, rfl, h.kept.withSlot b.pendingNotification 0⟩

/-- The beacon has the request: the completion and the can-send-now event are due. -/
theorem step_taken {ρ : Round} {a : Action} (hadm : Admissible robotFile cfg)
    (h : Stands names robotFile cfg x (.taken ρ)) (hstep : step names robotFile cfg x a = some y) :
    Moves names robotFile cfg x y (.taken ρ) := by
  cases h with
  | taken hvalid htraffic hclient hbeacon =>
  have hpossible := possible_of_step hstep
  cases hanswer : ρ.answer robotFile cfg.reply with
  | none =>
    -- a file chunk: nothing but its completion is due
    rw [hanswer] at htraffic hbeacon
    obtain ⟨k, rfl⟩ := (Round.answer_eq_none_iff ρ).mp hanswer
    rw [htraffic] at hpossible
    cases a with
    | deliverCompletion now =>
      simp only [step, deliverCompletion, htraffic, Option.some.injEq] at hstep
      subst hstep
      have hadvanced := @client_goesOn names robotFile cfg.reply x.client now k hadm.file hclient
      obtain ⟨⟨q, hstands, hrank⟩, hquiet⟩ := stands_advanced
        (x := { x with traffic := ⟨[], 0, 0, [], false, false⟩ }) hvalid rfl hbeacon hadvanced
      refine ⟨⟨q, hstands, hrank.trans_lt ?_⟩, hquiet⟩
      simp only [Place.rank]
      omega
    | deliverWrite => exact absurd rfl hpossible
    | canSendNow => exact absurd rfl hpossible
    | deliverNotification now => exact absurd rfl hpossible
    | endClient now => cases hpossible
    | endBeacon => cases hpossible
  | some value =>
    rw [hanswer] at htraffic hbeacon
    rw [htraffic] at hpossible
    have hsome : ρ.answer robotFile cfg.reply ≠ none := by rw [hanswer]; nofun
    cases a with
    | canSendNow =>
      simp only [step, canSendNow, htraffic, Option.isSome_some, if_true, Option.some.injEq] at hstep
      subst hstep
      rw [sendPending_of_slot hbeacon.serving hbeacon.slot]
      refine ⟨⟨.sent ρ, .sent hvalid hanswer ?_ hclient hbeacon.send, ?_⟩, Quiet.refl _⟩
      · simp [Link.beaconRan, requested, notified]
      · simp only [Place.rank]
        omega
    | deliverCompletion now =>
      obtain ⟨hwaits, hasked⟩ := @client_waits names robotFile cfg.reply x.client now ρ hsome hclient
      simp only [step, deliverCompletion, htraffic, Option.some.injEq] at hstep
      subst hstep
      rw [clientRan_of_asked hasked]
      refine ⟨⟨.awaited ρ, .awaited hvalid hanswer rfl hwaits hbeacon, ?_⟩, hasked.quiet⟩
      simp only [Place.rank]
      omega
    | deliverWrite => exact absurd rfl hpossible
    | deliverNotification now => exact absurd rfl hpossible
    | endClient now => cases hpossible
    | endBeacon => cases hpossible

/-- The notification and the completion are both on their way to the client. -/
theorem step_sent {ρ : Round} {a : Action} (h : Stands names robotFile cfg x (.sent ρ))
    (hstep : step names robotFile cfg x a = some y) :
    Moves names robotFile cfg x y (.sent ρ) := by
  cases h with
  | sent hvalid hanswer htraffic hclient hbeacon =>
  have hpossible := possible_of_step hstep
  rw [htraffic] at hpossible
  have hsome : ρ.answer robotFile cfg.reply ≠ none := by rw [hanswer]; nofun
  cases a with
  | deliverNotification now =>
    obtain ⟨hwrites, hasked⟩ :=
      @client_parks names robotFile cfg.reply x.client now ρ _ hanswer hclient
    simp only [step, deliverNotification, htraffic, Option.some.injEq] at hstep
    subst hstep
    rw [clientRan_of_asked hasked]
    refine ⟨⟨.parked ρ, .parked hvalid hanswer rfl hwrites hbeacon, ?_⟩, hasked.quiet⟩
    simp only [Place.rank]
    omega
  | deliverCompletion now =>
    obtain ⟨hwaits, hasked⟩ := @client_waits names robotFile cfg.reply x.client now ρ hsome hclient
    simp only [step, deliverCompletion, htraffic, Option.some.injEq] at hstep
    subst hstep
    rw [clientRan_of_asked hasked]
    refine ⟨⟨.coming ρ, .coming hvalid hanswer rfl hwaits hbeacon, ?_⟩, hasked.quiet⟩
    simp only [Place.rank]
    omega
  | deliverWrite => exact absurd rfl hpossible
  | canSendNow => exact absurd rfl hpossible
  | endClient now => cases hpossible
  | endBeacon => cases hpossible

/-- The completion comes after the answer. -/
theorem step_parked {ρ : Round} {a : Action} (hadm : Admissible robotFile cfg)
    (h : Stands names robotFile cfg x (.parked ρ)) (hstep : step names robotFile cfg x a = some y) :
    Moves names robotFile cfg x y (.parked ρ) := by
  cases h with
  | parked hvalid hanswer htraffic hclient hbeacon =>
  have hpossible := possible_of_step hstep
  rw [htraffic] at hpossible
  cases a with
  | deliverCompletion now =>
    have hadvanced := @client_replays names robotFile cfg.reply x.client now ρ _ hadm.file
      hadm.replyPos (reply_le_max cfg) hanswer hclient
    simp only [step, deliverCompletion, htraffic, Option.some.injEq] at hstep
    subst hstep
    obtain ⟨⟨q, hstands, hrank⟩, hquiet⟩ := stands_advanced
      (x := { x with traffic := ⟨[], 0, 0, [], false, false⟩ }) hvalid rfl hbeacon hadvanced
    refine ⟨⟨q, hstands, hrank.trans_lt ?_⟩, hquiet⟩
    simp only [Place.rank]
    omega
  | deliverWrite => exact absurd rfl hpossible
  | canSendNow => exact absurd rfl hpossible
  | deliverNotification now => exact absurd rfl hpossible
  | endClient now => cases hpossible
  | endBeacon => cases hpossible

/-- The completion came first, and the answer is still in the slot. -/
theorem step_awaited {ρ : Round} {a : Action} (h : Stands names robotFile cfg x (.awaited ρ))
    (hstep : step names robotFile cfg x a = some y) :
    Moves names robotFile cfg x y (.awaited ρ) := by
  cases h with
  | awaited hvalid hanswer htraffic hclient hbeacon =>
  have hpossible := possible_of_step hstep
  rw [htraffic] at hpossible
  cases a with
  | canSendNow =>
    simp only [step, canSendNow, htraffic, Option.some.injEq] at hstep
    subst hstep
    rw [sendPending_of_slot hbeacon.serving hbeacon.slot]
    refine ⟨⟨.coming ρ, .coming hvalid hanswer ?_ hclient hbeacon.send, ?_⟩, Quiet.refl _⟩
    · simp [Link.beaconRan, requested, notified]
    · simp only [Place.rank]
      omega
  | deliverWrite => exact absurd rfl hpossible
  | deliverNotification now => exact absurd rfl hpossible
  | deliverCompletion now => exact absurd rfl hpossible
  | endClient now => cases hpossible
  | endBeacon => cases hpossible

/-- The completion came first, and the answer is on its way. -/
theorem step_coming {ρ : Round} {a : Action} (hadm : Admissible robotFile cfg)
    (h : Stands names robotFile cfg x (.coming ρ)) (hstep : step names robotFile cfg x a = some y) :
    Moves names robotFile cfg x y (.coming ρ) := by
  cases h with
  | coming hvalid hanswer htraffic hclient hbeacon =>
  have hpossible := possible_of_step hstep
  rw [htraffic] at hpossible
  cases a with
  | deliverNotification now =>
    have hsome : ρ.answer robotFile cfg.reply ≠ none := by rw [hanswer]; nofun
    have hne := (writingState_waiting hsome).2
    have hadvanced := @client_hears names robotFile cfg.reply x.client now ρ _ hadm.file
      hadm.replyPos (reply_le_max cfg) hanswer hclient
    simp only [step, deliverNotification, htraffic, Option.some.injEq] at hstep
    subst hstep
    rw [handle_notified hclient.joined (hclient.state ▸ hne.1) (hclient.state ▸ hne.2)]
    obtain ⟨⟨q, hstands, hrank⟩, hquiet⟩ := stands_advanced
      (x := { x with traffic := ⟨[], 0, 0, [], false, false⟩ }) hvalid rfl hbeacon hadvanced
    refine ⟨⟨q, hstands, hrank.trans_lt ?_⟩, hquiet⟩
    simp only [Place.rank]
    omega
  | deliverWrite => exact absurd rfl hpossible
  | canSendNow => exact absurd rfl hpossible
  | deliverCompletion now => exact absurd rfl hpossible
  | endClient now => cases hpossible
  | endBeacon => cases hpossible

/-- The link has ended, and each side is told. -/
theorem step_over {endsClient endsBeacon : Bool} {a : Action}
    (h : Stands names robotFile cfg x (.ended endsClient endsBeacon))
    (hstep : step names robotFile cfg x a = some y) :
    Moves names robotFile cfg x y (.ended endsClient endsBeacon) := by
  cases h with
  | ended htraffic hclient hbeacon =>
  have hpossible := possible_of_step hstep
  rw [htraffic] at hpossible
  cases a with
  | endClient now =>
    have htrue : endsClient = true := hpossible
    subst htrue
    obtain ⟨hkept, hstate, hhandle, hresult⟩ := hclient
    have hover := @client_ends names robotFile cfg.reply x.client now hstate hhandle hresult hkept
    simp only [step, endClient, htraffic, if_true, Option.some.injEq] at hstep
    subst hstep
    rw [clientRan_of_asked hover.asked]
    refine ⟨⟨.ended false endsBeacon, .ended ?_ ⟨hover.kept, hover.state, hover.result, hover.running⟩
      hbeacon, ?_⟩, hover.asked.quiet⟩
    · simp
    · simp [Place.rank]
  | endBeacon =>
    have htrue : endsBeacon = true := hpossible
    subst htrue
    obtain ⟨-, hfile, -⟩ := hbeacon
    simp only [step, endBeacon, htraffic, if_true, Option.some.injEq] at hstep
    subst hstep
    refine ⟨⟨.ended endsClient false, .ended ?_ hclient ⟨rfl, hfile, rfl⟩, ?_⟩, Quiet.refl _⟩
    · have hquiet : requested names (BeaconServer.handle cfg x.beacon .disconnectionComplete).2 = 0 ∧
          notified names (BeaconServer.handle cfg x.beacon .disconnectionComplete).2 = [] := by
        show requested names (if x.beacon.connectedCueOn then _ else _) = 0 ∧
          notified names (if x.beacon.connectedCueOn then _ else _) = []
        split <;> exact ⟨rfl, rfl⟩
      simp only [Link.beaconRan, hquiet.1, hquiet.2, Nat.zero_add, List.append_nil]
    · simp [Place.rank]
  | deliverWrite => exact absurd rfl hpossible
  | canSendNow => exact absurd rfl hpossible
  | deliverNotification now => exact absurd rfl hpossible
  | deliverCompletion now => exact absurd rfl hpossible

/-- **Every move** leads from one place to another, further on, and reports no failure. -/
theorem stands_step {p : Place} {a : Action} (hadm : Admissible robotFile cfg)
    (h : Stands names robotFile cfg x p) (hstep : step names robotFile cfg x a = some y) :
    Moves names robotFile cfg x y p := by
  cases p with
  | opening => exact step_opening h hstep
  | asked ρ => exact step_asked hadm h hstep
  | taken ρ => exact step_taken hadm h hstep
  | sent ρ => exact step_sent h hstep
  | parked ρ => exact step_parked hadm h hstep
  | awaited ρ => exact step_awaited h hstep
  | coming ρ => exact step_coming hadm h hstep
  | ended endsClient endsBeacon => exact step_over h hstep

/-! ## Every run -/

/-- At every place but the last some move is possible. -/
theorem stands_progress {p : Place} (h : Stands names robotFile cfg x p) :
    x.Final ∨ ∃ a, (step names robotFile cfg x a).isSome := by
  have possible (a : Action) (ha : Possible x.traffic a) :
      x.Final ∨ ∃ a, (step names robotFile cfg x a).isSome :=
    .inr ⟨a, (isSome_step x a).mpr ha⟩
  -- in every place something is on its way, or both ends are done
  cases h with
  | opening htraffic =>
    apply possible (.deliverCompletion 0)
    rw [htraffic]
    exact Nat.one_ne_zero
  | asked hvalid htraffic =>
    apply possible .deliverWrite
    rw [htraffic]
    exact List.cons_ne_nil _ _
  | taken hvalid htraffic =>
    apply possible (.deliverCompletion 0)
    rw [htraffic]
    exact Nat.one_ne_zero
  | sent hvalid hanswer htraffic =>
    apply possible (.deliverCompletion 0)
    rw [htraffic]
    exact Nat.one_ne_zero
  | parked hvalid hanswer htraffic =>
    apply possible (.deliverCompletion 0)
    rw [htraffic]
    exact Nat.one_ne_zero
  | awaited hvalid hanswer htraffic =>
    apply possible .canSendNow
    rw [htraffic]
    exact Nat.one_ne_zero
  | coming hvalid hanswer htraffic =>
    apply possible (.deliverNotification 0)
    rw [htraffic]
    exact List.cons_ne_nil _ _
  | @ended endsClient endsBeacon htraffic hclient hbeacon =>
    cases endsClient with
    | true =>
      apply possible (.endClient 0)
      rw [htraffic]
      rfl
    | false =>
      cases endsBeacon with
      | true =>
        apply possible .endBeacon
        rw [htraffic]
        rfl
      | false => exact .inl ⟨hclient.2.1, hbeacon.2.2⟩

/-- While an answer is in the slot, no request is on its way and the link has not ended. -/
theorem stands_busy {p : Place} (h : Stands names robotFile cfg x p)
    (hslot : x.beacon.pendingNotificationLength ≠ 0) :
    x.traffic.writes = [] ∧ x.traffic.endsBeacon = false := by
  have busy : slot x.beacon ≠ none := by
    rw [slot, if_neg hslot]
    rintro ⟨⟩
  cases h with
  | opening htraffic _ _ _ hbeacon => exact absurd hbeacon.slot busy
  | asked _ _ _ hbeacon => exact absurd hbeacon.slot busy
  | taken _ htraffic => rw [htraffic]; exact ⟨rfl, rfl⟩
  | sent _ _ _ _ hbeacon => exact absurd hbeacon.slot busy
  | parked _ _ _ _ hbeacon => exact absurd hbeacon.slot busy
  | awaited _ _ htraffic => rw [htraffic]; exact ⟨rfl, rfl⟩
  | coming _ _ _ _ hbeacon => exact absurd hbeacon.slot busy
  | ended _ _ hbeacon => exact absurd hbeacon.1 busy

/-- A request is under way at most once. -/
theorem stands_one {p : Place} (h : Stands names robotFile cfg x p) :
    x.traffic.writes.length + x.traffic.completions ≤ 1 := by
  cases h with
  | opening htraffic => rw [htraffic]; decide
  | asked _ htraffic => rw [htraffic]; simp
  | taken _ htraffic => rw [htraffic]; simp
  | sent _ _ htraffic => rw [htraffic]; simp
  | parked _ _ htraffic => rw [htraffic]; simp
  | awaited _ _ htraffic => rw [htraffic]; simp
  | coming _ _ htraffic => rw [htraffic]; simp
  | ended htraffic => rw [htraffic]; simp

/-- Both files have arrived, and the client's attempt reports it. -/
structure Complete (robotFile reply : Bytes) (x : Link) : Prop where
  result : x.client.result = .complete ∧ x.client.attemptRunning = false
  received : x.beacon.receivedFile.prefixOf robotFile.length = robotFile
  reply : x.client.replyFile.prefixOf x.client.replyLength = reply

/-- An exchange that is over is complete. -/
theorem stands_final {p : Place} (h : Stands names robotFile cfg x p) (hfinal : x.Final) :
    Complete robotFile cfg.reply x := by
  have idle : x.client.bleState = .idle := hfinal.1
  have written {ρ : Round} {early : Option Bytes}
      (hclient : Writes names robotFile cfg.reply ρ early x.client) : False :=
    (writing_ne ρ).2 (hclient.state.symm.trans idle)
  have waited {ρ : Round} {value : Bytes} (hanswer : ρ.answer robotFile cfg.reply = some value)
      (hclient : Waits names robotFile cfg.reply ρ x.client) : False := by
    have hsome : ρ.answer robotFile cfg.reply ≠ none := by rw [hanswer]; nofun
    exact (writingState_waiting hsome).2.2 (hclient.state.symm.trans idle)
  cases h with
  | opening _ _ hstate => exact absurd (hstate.symm.trans idle) nofun
  | asked _ _ hclient => exact (written hclient).elim
  | taken _ _ hclient => exact (written hclient).elim
  | sent _ _ _ hclient => exact (written hclient).elim
  | parked _ _ _ hclient => exact (written hclient).elim
  | awaited _ hanswer _ hclient => exact (waited hanswer hclient).elim
  | coming _ hanswer _ hclient => exact (waited hanswer hclient).elim
  | @ended endsClient endsBeacon htraffic hclient hbeacon =>
    obtain ⟨⟨hlength, hreply⟩, hstate⟩ := hclient
    cases endsClient with
    | true => exact absurd (hstate.1.symm.trans idle) nofun
    | false => exact ⟨⟨hstate.2.1, hstate.2.2⟩, hbeacon.2.1, by rw [hlength]; exact hreply⟩

/-- The beacon leaves its slot alone in every move but the three that run it. -/
theorem beacon_of_step {a : Action} (h : step names robotFile cfg x a = some y)
    (ha : a ≠ .deliverWrite ∧ a ≠ .canSendNow ∧ a ≠ .endBeacon) : y.beacon = x.beacon := by
  cases a with
  | deliverWrite => exact absurd rfl ha.1
  | canSendNow => exact absurd rfl ha.2.1
  | endBeacon => exact absurd rfl ha.2.2
  | deliverNotification now =>
    simp only [step, deliverNotification] at h
    split at h
    · cases h
    · cases h; rfl
  | deliverCompletion now =>
    simp only [step, deliverCompletion] at h
    split at h
    · cases h
    · cases h; rfl
  | endClient now =>
    simp only [step, endClient] at h
    split at h
    · cases h; rfl
    · cases h

/-- What holds in every state an exchange reaches from `start`: no failure was reported, a
request is under way at most once, an answer in the beacon's slot stays there until it is
sent, the exchange is over or goes on, and when it is over it is complete. -/
structure Sound (names : Names) (robotFile : Bytes) (cfg : BeaconServer.Config) (start x : Link) :
    Prop where
  quiet : Quiet start.client x.client
  one : x.traffic.writes.length + x.traffic.completions ≤ 1
  slot : x.beacon.pendingNotificationLength ≠ 0 → ∀ a y,
    step names robotFile cfg x a = some y → a ≠ .canSendNow → y.beacon = x.beacon
  live : x.Final ∨ ∃ a, (step names robotFile cfg x a).isSome
  final : x.Final → Complete robotFile cfg.reply x

theorem stands_sound {p : Place} {start : Link} (h : Stands names robotFile cfg x p)
    (hquiet : Quiet start.client x.client) : Sound names robotFile cfg start x := by
  refine ⟨hquiet, stands_one h, ?_, stands_progress h, stands_final h⟩
  intro hslot a y hstep hsend
  obtain ⟨hwrites, hends⟩ := stands_busy h hslot
  have hpossible := possible_of_step hstep
  refine beacon_of_step hstep ⟨?_, hsend, ?_⟩
  · rintro rfl
    exact hpossible hwrites
  · rintro rfl
    exact absurd (hends.symm.trans hpossible) nofun

/-- The beacon after the configuration write. -/
theorem beaconing_subscribed (reply : Bytes) (b : BeaconServer.Beacon) :
    Beaconing names robotFile reply none (some .hello) (subscribed names cfg b) :=
  ⟨⟨rfl, rfl⟩, rfl, trivial⟩

/-- **The exchange completes** in every interleaving of the two parties: whatever earlier
connections have left in the client and in the beacon, from the completed configuration
write on every state reached is sound, and only so many moves are possible. -/
theorem exchange_completes (hid : cfg.beaconId = 1) (hfile : robotFile.length ≤ 256)
    (hreply : 1 ≤ cfg.reply.length) (env : Env) (packets : List (PayloadClient.Event × Env)) (c : Client)
    (hclient : Subscribing names (attempted robotFile env packets c)) (b : BeaconServer.Beacon) :
    let start : Link := ⟨attempted robotFile env packets c, subscribed names cfg b, .subscribed⟩
    (∀ actions x, run (step names robotFile cfg) start actions = some x →
      Sound names robotFile cfg start x) ∧
    ∃ bound, ∀ actions x, run (step names robotFile cfg) start actions = some x →
      actions.length ≤ bound := by
  intro start
  have hadm : Admissible robotFile cfg := ⟨hid, hfile, hreply⟩
  have hpending : start.client.pendingLength = 0 := by
    apply unparked_attempted packets c
    rw [hclient.state]
    rfl
  have hstart : Stands names robotFile cfg start .opening :=
    .opening rfl ⟨hclient.handle, hclient.value, hclient.abort⟩ hclient.state hpending
      (beaconing_subscribed cfg.reply b)
  -- the place of a state bounds its rank, and every move lowers it
  let I (x : Link) (n : ℕ) : Prop := ∃ p, Stands names robotFile cfg x p ∧
    p.rank robotFile cfg.reply = n ∧ Quiet start.client x.client
  have hmove : ∀ x a y n, I x n → step names robotFile cfg x a = some y → ∃ m, m < n ∧ I y m := by
    rintro x a y n ⟨p, hstands, rfl, hquiet⟩ hy
    obtain ⟨⟨q, hq, hlower⟩, hsilent⟩ := stands_step hadm hstands hy
    exact ⟨_, hlower, q, hq, rfl, hquiet.trans hsilent⟩
  have hinit : I start (Place.opening.rank robotFile cfg.reply) :=
    ⟨.opening, hstart, rfl, Quiet.refl _⟩
  constructor
  · intro actions x hx
    obtain ⟨m, ⟨p, hp, -, hquiet⟩, -⟩ := run_ranked hmove actions start x _ hinit hx
    exact stands_sound hp hquiet
  · refine ⟨Place.opening.rank robotFile cfg.reply, ?_⟩
    intro actions x hx
    obtain ⟨m, -, hlen⟩ := run_ranked hmove actions start x _ hinit hx
    omega

/-- Names for a connection. -/
def someNames : Names := ⟨7, 3, 9⟩

/-- The packets of an attempt up to the configuration write: close range, connection,
service and characteristic. -/
def foundPackets : List (PayloadClient.Event × Env) :=
  let events : List PayloadClient.Event := [.commandComplete true 0] ++
    List.replicate 14 (.advertisingReport closeReport) ++
    [.commandComplete true 0, .connectionComplete 0 7, .serviceQueryResult 7, .queryComplete 7 0,
      .characteristicQueryResult 7 9, .queryComplete 7 0]
  events.map fun event => (event, accepting)

/-- The robot's file and the reply of AP1, after the power-up of both. -/
theorem exchange_completes_ap1 :
    let start : Link := ⟨attempted robotTestFile accepting foundPackets .boot,
      subscribed someNames .ap1 .boot, .subscribed⟩
    (∀ actions x, run (step someNames robotTestFile .ap1) start actions = some x →
      Sound someNames robotTestFile .ap1 start x) ∧
    ∃ bound, ∀ actions x, run (step someNames robotTestFile .ap1) start actions = some x →
      actions.length ≤ bound :=
  exchange_completes rfl (by decide) (by decide) accepting foundPackets .boot
    ⟨by decide +kernel, by decide +kernel, by decide +kernel, by decide +kernel⟩ .boot

end Connection
