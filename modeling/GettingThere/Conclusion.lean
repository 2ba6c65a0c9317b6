/-
# How the approach ends

A payload check that ends with `PAYLOAD_COMPLETE` or `PAYLOAD_FATAL` decides the run: nothing that
is noted follows it, and `approach_beacon` returns what it decided.

`Concludes D res c`: from a run that is undecided the command leads to where the run stands after
the result `res` of what it returns (`Stands`), and wherever it is cut off the run has got somewhere
(`Reached`).  Of the state under the headers only the delivery `D` is of concern: an attempt that
completes leads from before it to after it, nothing else does, and what follows such an attempt does
not lead back (`Layer.Delivers`).
-/
import GettingThere.BlockGuard
import GettingThere.NavigationSteps

open CrashLogic
open PayloadClient (PayloadResult)

/-- What the state under the headers is before the delivery of the payload and after it. -/
structure Delivery (ρ : Type) where
  /-- wherever the run is cut off -/
  always : ρ → Prop
  before : ρ → Prop
  after : ρ → Prop
  always_of_before : ∀ r, before r → always r
  always_of_after : ∀ r, after r → always r

namespace Delivery

variable {ρ : Type} (D : Delivery ρ)

/-- Before or after. -/
def Either (r : ρ) : Prop := D.before r ∨ D.after r

/-- Before and after a delivery are places where a run may be cut off. -/
theorem always_of_either {r : ρ} (h : D.Either r) : D.always r :=
  h.elim (D.always_of_before r) (D.always_of_after r)

/-- Nothing but an attempt delivers. -/
def guard : Guard ρ where
  always := D.always
  good := D.before
  left := D.before
  worn := D.before
  full _ := True
  left_of_good _ h := h
  always_of_left := D.always_of_before
  full_cons _ _ h := h

/-- An attempt delivers if it completes. -/
structure Attempted (finish : AttemptEnd) (r : ρ) : Prop where
  after : finish.result = .complete → D.after r
  before : finish.result ≠ .complete → D.before r

/-- The command keeps what a delivery has left. -/
abbrev Stays {α : Type} (c : Cmd ρ α) : Prop := Triple D.always D.after c fun _ => D.after

end Delivery

/-- **Only an attempt that completes delivers**, and a checkpoint keeps what it has left. -/
structure Layer.Delivers {ρ : Type} (L : Layer ρ) (D : Delivery ρ) : Prop extends
    L.Bears D.guard where
  attempt : ∀ dbm, Triple D.always D.before (L.payloadAttempt dbm) D.Attempted
  retry : ∀ dbm, Triple D.always D.before (L.payloadRetry dbm) D.Attempted
  stopped : D.Stays L.stop
  quiesced : ∀ started, D.Stays (L.quiesce (L.runCanContinue started))
  saved : D.Stays L.reportCheckpoint
  faulted : D.Stays (L.faultRaise .report)

namespace Navigation

open Guard (Passes Goes)

/-! ## Where a run stands -/

/-- The check decides the run. -/
def Event.decides : Event → Bool
  | .checked _ _ result _ => decide (result = .complete ∨ result = .fatal)
  | .scanned _ => false
  | .block _ _ => false
  | .driven _ _ => false

/-- The newest event is a check that completed. -/
def completed : List Event → Bool
  | .checked _ _ result _ :: _ => decide (result = .complete)
  | _ => false

/-- An attempt of the payload client, or a retry. -/
def GateNote.tries : GateNote → Bool
  | .attempt _ _ => true
  | .retry _ => true
  | .moved => false
  | .checked _ => false
  | .scan _ => false

/-- No check has decided the run. -/
def Undecided (n : Nav) : Prop := ∀ e ∈ n.events, e.decides = false

variable {ρ : Type}

/-- The run goes on: no check has decided it, and nothing was delivered. -/
structure Open (D : Delivery ρ) (s : ρ × Nav) : Prop where
  before : D.before s.1
  undecided : Undecided s.2

/-- The newest note for the payload attempts is an attempt, and it has delivered. -/
structure Delivered (D : Delivery ρ) (s : ρ × Nav) : Prop where
  left : D.after s.1
  newest : s.2.gate.head?.any GateNote.tries = true

/-- The newest event is the check that decided the run, with this result. -/
structure Decided (D : Delivery ρ) (result : PayloadResult) (s : ρ × Nav) : Prop where
  either : D.Either s.1
  newest : ∃ place arrived scans earlier,
    s.2.events = .checked place arrived result scans :: earlier ∧ ∀ e ∈ earlier, e.decides = false
  delivered : result = .complete → Delivered D s

/-- **Where the run stands** after a result: a check has decided it, or it is undecided and the
payload was not delivered. -/
def Stands (D : Delivery ρ) (result : PayloadResult) (s : ρ × Nav) : Prop :=
  (result ≠ .complete ∧ Open D s) ∨
    ((result = .complete ∨ result = .fatal) ∧ Decided D result s)

/-- The run has got somewhere: only its newest event can be a check that has decided it, and if
that has completed the payload was delivered. -/
structure Reached (D : Delivery ρ) (s : ρ × Nav) : Prop where
  always : D.always s.1
  earlier : ∀ e ∈ s.2.events.tail, e.decides = false
  delivered : completed s.2.events = true → Delivered D s

section Stands

variable {D : Delivery ρ} {result : PayloadResult} {s : ρ × Nav}

/-- An undecided run stands at every result that does not claim a delivery. -/
theorem stands_of_open (hresult : result ≠ .complete) (h : Open D s) : Stands D result s :=
  .inl ⟨hresult, h⟩

/-- A run that goes on is open. -/
theorem Stands.isOpen (h : Stands D .notClose s) : Open D s :=
  h.elim And.right fun hd => absurd hd.1 (by decide)

/-- No check of an undecided run has completed. -/
theorem Undecided.not_completed {n : Nav} (h : Undecided n) : completed n.events = false := by
  rcases hevents : n.events with _ | ⟨e, earlier⟩
  · rfl
  · have he := h e (hevents ▸ List.mem_cons_self)
    cases e with
    | checked place arrived result scans =>
      unfold Event.decides at he
      unfold completed
      exact decide_eq_false fun hr => of_decide_eq_false he (.inl hr)
    | scanned ok => rfl
    | block forwards fits => rfl
    | driven duration actual => rfl

/-- Until a check has decided the run it may be cut off anywhere. -/
theorem Undecided.reached (h : Undecided s.2) (hs : D.always s.1) : Reached D s where
  always := hs
  earlier e he := h e (List.mem_of_mem_tail he)
  delivered hdone := nomatch h.not_completed.symm.trans hdone

/-- A run that goes on may be cut off. -/
theorem Open.reached (h : Open D s) : Reached D s :=
  h.undecided.reached (D.always_of_before s.1 h.before)

/-- The run has completed exactly if its newest event is a check that did. -/
theorem Stands.completed_eq (h : Stands D result s) :
    completed s.2.events = decide (result = .complete) := by
  rcases h with ⟨hresult, h⟩ | ⟨-, h⟩
  · rw [h.undecided.not_completed, decide_eq_false hresult]
  · obtain ⟨place, arrived, scans, earlier, hevents, -⟩ := h.newest
    rw [hevents]
    rfl

/-- Where a run stands the delivery is still to come or over. -/
theorem Stands.either (h : Stands D result s) : D.Either s.1 :=
  h.elim (fun hu => .inl hu.2.before) fun hd => hd.2.either

/-- Where a run stands it may be cut off. -/
theorem Stands.reached (h : Stands D result s) : Reached D s := by
  refine ⟨D.always_of_either h.either, ?_, fun hdone => ?_⟩
  · rcases h with ⟨-, h⟩ | ⟨-, h⟩
    · exact h.reached.earlier
    · obtain ⟨place, arrived, scans, earlier, hevents, hearlier⟩ := h.newest
      rw [hevents]
      exact hearlier
  · have hresult : result = .complete := of_decide_eq_true (h.completed_eq.symm.trans hdone)
    rcases h with ⟨hne, -⟩ | ⟨-, h⟩
    · exact absurd hresult hne
    · exact h.delivered hresult

end Stands

/-! ## Rules -/

section Rules

variable {α β γ : Type} {D : Delivery ρ} {res : α → PayloadResult} {res' : β → PayloadResult}
  {c : Cmd (ρ × Nav) α} {f : α → Cmd (ρ × Nav) β}

/-- From a run that goes on the command leads to where the run stands after its result. -/
abbrev Concludes (D : Delivery ρ) (res : α → PayloadResult) (c : Cmd (ρ × Nav) α) : Prop :=
  Triple (Reached D) (Open D) c fun a => Stands D (res a)

/-- The run goes on after the command. -/
abbrev Proceeds (D : Delivery ρ) (c : Cmd (ρ × Nav) α) : Prop :=
  Concludes D (fun _ => .notClose) c

/-- The command returns, and the payload is not delivered. -/
theorem Concludes.pure (a : α) (ha : res a ≠ .complete) : Concludes D res (pure a) :=
  fun _ hs => stands_of_open ha hs

/-- The command returns the result after which the run stands. -/
theorem concludes_return {result : PayloadResult} (b : β) (hb : res' b = result) :
    Triple (Reached D) (Stands D result) (Pure.pure b) fun b => Stands D (res' b) := by
  intro s hs
  rw [wp_pure, hb]
  exact hs

/-- The run goes on. -/
theorem Concludes.go (h : Concludes D res c) :
    Triple (Reached D) (Stands D .notClose) c fun a => Stands D (res a) :=
  Triple.before (fun _ hs => hs.isOpen) h

/-- What concludes may be followed by what goes on from each of its results. -/
theorem Concludes.bind (hc : Concludes D res c)
    (hf : ∀ a, Triple (Reached D) (Stands D (res a)) (f a) fun b => Stands D (res' b)) :
    Concludes D res' (c >>= f) := Triple.bind hc hf

/-- A command after which the run goes on, and then another one. -/
theorem Proceeds.andThen {Q : β → ρ × Nav → Prop} (hc : Proceeds D c)
    (hf : ∀ a, Triple (Reached D) (Open D) (f a) Q) :
    Triple (Reached D) (Open D) (c >>= f) Q :=
  Triple.bind hc fun a => Triple.before (fun _ hs => hs.isOpen) (hf a)

/-- The statics are looked at. -/
theorem Concludes.look {f : Nav → Cmd (ρ × Nav) β} (hf : ∀ n, Concludes D res' (f n)) :
    Concludes D res' (getNav >>= f) := by
  intro s hs
  rw [wp_bind]
  exact hf s.2 s hs

/-- The run ends here unless the result is `notClose`. -/
theorem concludes_goOn {result : PayloadResult} {b : β} {rest : Cmd (ρ × Nav) β}
    (hb : Triple (Reached D) (Stands D result) (Pure.pure b) fun b => Stands D (res' b))
    (hrest : Concludes D res' rest) :
    Triple (Reached D) (Stands D result) (if result ≠ .notClose then Pure.pure b else rest)
      fun b => Stands D (res' b) :=
  Triple.ite (fun _ => hb) fun hr => not_not.mp hr ▸ hrest.go

/-- A result that is returned as it is, unless it is `notClose`. -/
theorem Concludes.orEnds {c : Cmd (ρ × Nav) PayloadResult} {b : PayloadResult → β}
    {rest : PayloadResult → Cmd (ρ × Nav) β} (hc : Concludes D id c)
    (hb : ∀ result, res' (b result) = result) (hrest : ∀ result, Concludes D res' (rest result)) :
    Concludes D res' (c >>= fun result =>
      if result ≠ .notClose then Pure.pure (b result) else rest result) :=
  hc.bind fun result => concludes_goOn (concludes_return _ (hb result)) (hrest result)

/-- What the headers do keeps a run open. -/
theorem proceeds_tells {ok : α → Prop} {c : Cmd ρ α} (hc : D.guard.Tells c ok) :
    Proceeds D (onFirst c : Cmd (ρ × Nav) α) := by
  rintro ⟨r, n⟩ ⟨hr, hn⟩
  rw [wp_onFirst]
  refine wp_mono (hc r hr) (fun _ t ht => ?_) fun t ht => Undecided.reached (s := (t, n)) hn ht
  exact stands_of_open nofun ⟨ht.1, hn⟩

/-- A call to the layer that does not deliver goes on. -/
theorem proceeds_layer {c : Cmd ρ α} (hc : D.guard.Holds c) :
    Proceeds D (onFirst c : Cmd (ρ × Nav) α) := proceeds_tells (hc.tells fun _ => True)

/-- The notes of the run are left alone, and so is what is under the headers. -/
theorem proceeds_of_leads {ok : α → Prop} (h : Leads Undecided Undecided c fun _ => Undecided)
    (hpass : D.guard.Passes Any ok c) : Proceeds D c := by
  rw [leads_iff] at h
  intro s hs
  have hnotes := h s hs.undecided
  have hunder := hpass s ⟨hs.before, trivial⟩
  have hboth : Triple _ (· = s) c _ :=
    Triple.and (fun _ ht => ht ▸ hnotes) fun _ ht => ht ▸ hunder
  refine wp_mono (hboth s rfl) (fun _ t ht => ?_) fun t ht => ?_
  · exact stands_of_open nofun ⟨ht.2.1.elim id And.right, ht.1⟩
  · exact ht.1.reached (ht.2.elim id fun h => D.always_of_before t.1 h.2)

/-- Whatever is noted by no check leaves a run undecided. -/
theorem undecided_roams : Roams Undecided Undecided where
  safe _ h := h
  same n m hm h := by
    unfold Undecided
    rw [hm.events]
    exact h
  moved _ h := h

/-- A command that notes nothing goes on if the layer's part of it delivers nothing. -/
theorem Proceeds.of_quiet {ok : α → Prop} (hc : Quiet c) (hpass : D.guard.Passes Any ok c) :
    Proceeds D c := proceeds_of_leads (hc.leads undecided_roams.toSteady) hpass

/-- The statics are changed. -/
theorem proceeds_set {g : Nav → Nav} (hg : ∀ n, Undecided n → Undecided (g n)) :
    Proceeds D (setNav g : Cmd (ρ × Nav) Unit) :=
  fun s hs => stands_of_open nofun ⟨hs.before, hg s.2 hs.undecided⟩

/-- Something that does not decide the run is noted. -/
theorem proceeds_note {e : Event} (he : e.decides = false) :
    Proceeds D (note e : Cmd (ρ × Nav) Unit) := by
  apply proceeds_set
  intro n hn e' he'
  rcases List.mem_cons.mp he' with rfl | he'
  · exact he
  · exact hn e' he'

/-- A line of the report, and then something else. -/
theorem Concludes.report {L : Layer ρ} (hL : L.Delivers D) {rest : Cmd (ρ × Nav) β}
    (hrest : Concludes D res' rest) : Concludes D res' (reportPrintf L >>= fun _ => rest) :=
  fun s hs => hrest (L.reportPrintf s.1, s.2) ⟨hL.reportPrintf s.1 hs.before, hs.undecided⟩

/-- A report before a command does not change what it concludes. -/
theorem Concludes.reportIf {L : Layer ρ} (hL : L.Delivers D) {b : Bool}
    {rest : Cmd (ρ × Nav) β} (hrest : Concludes D res' rest) :
    Concludes D res' (reportIf L b >>= fun _ => rest) := by
  cases b with
  | true => exact hrest.report hL
  | false => exact hrest

/-- A fault ends the run, with a line of the report. -/
theorem concludes_fault {L : Layer ρ} (hL : L.Delivers D) {fault : Fault} (hf : fault ≠ .profile)
    (b : β) (hb : res' b ≠ .complete) :
    Concludes D res' (do onFirst (L.faultRaise fault); reportPrintf L; Pure.pure b) :=
  (proceeds_layer (hL.faultRaise fault hf)).andThen fun _ =>
    Concludes.report hL (Concludes.pure b hb)

/-- A question that must be answered with yes. -/
theorem Proceeds.unless {c : Cmd (ρ × Nav) Bool} {b : β} {rest : Cmd (ρ × Nav) β}
    (hc : Proceeds D c) (hb : res' b ≠ .complete) (hrest : Concludes D res' rest) :
    Concludes D res' (c >>= fun yes => if (!yes) = true then Pure.pure b else rest) :=
  hc.andThen fun _ => Triple.ite (fun _ => Concludes.pure b hb) fun _ => hrest

/-- A loop, from one round. -/
theorem Concludes.loop {L : Layer ρ} {body : β → Cmd (ρ × Nav) (β ⊕ γ)} {res : γ → PayloadResult}
    (hbody : ∀ b, Concludes D (Sum.elim (fun _ => .notClose) res) (body b)) (b : β) :
    Concludes D res (repeatRounds L body b) := by
  have hround (b : β) : Triple (Reached D) (Open D) (body b) fun r s =>
      r.elim (fun _ => Open D s) fun c => Stands D (res c) s := by
    refine Triple.after (hbody b) ?_
    rintro (b' | c) s hs
    · exact hs.isOpen
    · exact hs
  refine Triple.look fun t _ => Triple.before (fun s hs => hs.1) ?_
  exact Triple.iterate (I := fun _ => Open D) (fun _ _ hs => hs.reached) hround _ b

end Rules

/-- The result that ends a part of the approach. -/
def outcome {α : Type} : Except PayloadResult α → PayloadResult
  | .error result => result
  | .ok _ => .notClose

/-- What `approach_beacon` makes of a result. -/
def verdict (delivered : Bool) : PayloadResult := if delivered then .complete else .fatal

/-- The run ends with whether the payload was delivered. -/
theorem concludes_verdict {β : Type} {D : Delivery ρ} {res : β → PayloadResult} {b : β}
    {result : PayloadResult} (hb : res b = verdict (decide (result = .complete))) :
    Triple (Reached D) (Stands D result) (pure b : Cmd (ρ × Nav) β) fun b => Stands D (res b) := by
  intro s hs
  rw [wp_pure, hb]
  rcases hs with ⟨hresult, h⟩ | ⟨rfl | rfl, h⟩
  · rw [decide_eq_false hresult]
    exact stands_of_open nofun h
  · exact .inr ⟨.inl rfl, h⟩
  · exact .inr ⟨.inr rfl, h⟩

/-! ## Payload checks -/

section Left

variable {D : Delivery ρ} {p q p' q' : Prop} {s : ρ × Nav}

/-- No check has decided the run; under `p` the last thing done was an attempt that has delivered,
and under `q` nothing was delivered. -/
structure Left (D : Delivery ρ) (p q : Prop) (s : ρ × Nav) : Prop where
  undecided : Undecided s.2
  either : D.Either s.1
  delivered : p → Delivered D s
  before : q → D.before s.1

/-- What a check leaves that ends with this result. -/
abbrev Judged (D : Delivery ρ) (result : PayloadResult) : ρ × Nav → Prop :=
  Left D (result = .complete) (result ≠ .complete ∧ result ≠ .fatal)

/-- What is left under weaker conditions is left under stronger ones. -/
theorem Left.less (h : Left D p q s) (hp : p' → p) (hq : q' → q) : Left D p' q' s :=
  ⟨h.undecided, h.either, fun h' => h.delivered (hp h'), fun h' => h.before (hq h')⟩

/-- A run that goes on has delivered nothing. -/
theorem Open.left (h : Open D s) (hp : ¬ p) : Left D p q s :=
  ⟨h.undecided, .inl h.before, fun h' => absurd h' hp, fun _ => h.before⟩

/-- The check ends with a fault, whether or not something was delivered. -/
theorem left_fatal : Triple (Reached D) (Left D p q)
    (pure .fatal : Cmd (ρ × Nav) PayloadResult) (Judged D) :=
  Triple.pure _ fun _ hs => hs.less nofun fun h => absurd rfl h.2

end Left

section Checks

variable {D : Delivery ρ} (L : Layer ρ) (hL : L.Delivers D)
include hL

/-- The tests of STOP and of the report go on. -/
theorem proceeds_runCanContinue : Proceeds D (runCanContinue L) := by
  have hpass : D.guard.Passes Any (fun _ => True) (runCanContinue L) :=
    passes_runCanContinue hL.toBears
  exact Proceeds.of_quiet (quiet_runCanContinue L) hpass

/-- A checkpoint goes on. -/
theorem proceeds_saveCheckpoint : Proceeds D (saveCheckpoint L) :=
  Proceeds.of_quiet (quiet_saveCheckpoint L) (passes_saveCheckpoint hL.toBears)

/-- Noting a point goes on. -/
theorem proceeds_recordPoint : Proceeds D (recordPoint L) := by
  have hpass : D.guard.Passes Any (fun _ => True) (recordPoint L) := by
    refine Goes.look fun n _ => Goes.ite (fun _ => ?_) fun _ => ?_
    · have hfull : D.guard.Holds (L.stopFor .profile) := hL.profileFull
      exact hfull.passes.andThen fun _ => passes_line hL.toBears (Passes.pure _)
    · have hsaved := passes_saveCheckpoint (N := Any) hL.toBears
      refine goes_set (passes_line hL.toBears (hsaved.after fun _ s hs => ⟨hs.1, fun _ => ?_⟩))
      exact ⟨hs.1.elim id And.right, trivial⟩
  exact Proceeds.of_quiet (quiet_recordPoint L) hpass

/-- The Wi-Fi gate goes on, open or closed. -/
theorem proceeds_closeGate : Proceeds D (closeGate L) := by
  have hpass : D.guard.Passes Any (fun _ => True) (closeGate L) :=
    passes_closeGate hL.toBears lasting_any.same
  refine proceeds_of_leads ?_ hpass
  intro x n hn
  have hstill {m : Nav} (hm : Still n m) : Undecided m := by
    unfold Undecided
    rw [hm.events]
    exact hn
  exact wp_mono (settled_closeGate L n x n (Still.refl n)) (fun _ _ hs => hstill hs.toStill)
    fun _ hs => hstill hs

/-- **A checkpoint** keeps what an attempt has left. -/
theorem triple_saveCheckpoint (p : Prop) :
    Triple (Reached D) (Left D p (¬ p)) (saveCheckpoint L) fun _ => Left D p (¬ p) := by
  have hopen : Triple (Reached D) (Open D) (saveCheckpoint L) fun _ => Open D :=
    (proceeds_saveCheckpoint L hL).after fun _ _ hs => hs.isOpen
  have hkeep {α : Type} {c : Cmd ρ α} (hc : D.Stays c) :
      Triple (Reached D) (fun s => Undecided s.2 ∧ Delivered D s) (onFirst c)
        fun _ s => Undecided s.2 ∧ Delivered D s := by
    rintro ⟨r, n⟩ ⟨hn, hleft⟩
    rw [wp_onFirst]
    refine wp_mono (hc r hleft.left) (fun _ t ht => ?_) fun t ht => ?_
    · exact ⟨hn, ht, hleft.newest⟩
    · exact Undecided.reached (s := (t, n)) hn ht
  have hdelivered : Triple (Reached D) (fun s => Undecided s.2 ∧ Delivered D s)
      (saveCheckpoint L) fun _ s => Undecided s.2 ∧ Delivered D s := by
    refine (hkeep hL.stopped).bind fun _ => ?_
    rintro s hs
    refine Triple.ite (fun _ => Triple.pure _ fun _ ht => ht) (fun _ => ?_) s hs
    refine (hkeep (hL.quiesced _)).bind fun _ => Triple.ite (fun _ => Triple.pure _ ?_) fun _ => ?_
    · exact fun _ ht => ht
    refine (hkeep hL.saved).bind fun _ => Triple.ite (fun _ => Triple.pure _ ?_) fun _ => ?_
    · exact fun _ ht => ht
    · exact (hkeep hL.faulted).bind fun _ => Triple.pure _ fun _ ht => ht
  intro s hs
  by_cases hp : p
  · refine wp_mono (hdelivered s ⟨hs.undecided, hs.delivered hp⟩) (fun _ t ht => ?_) fun _ ht => ht
    exact ⟨ht.1, .inr ht.2.left, fun _ => ht.2, fun h => absurd hp h⟩
  · exact wp_mono (hopen s ⟨hs.before hp, hs.undecided⟩) (fun _ t ht => ht.left hp) fun _ ht => ht

omit hL in
/-- **An attempt** that completes is the last thing that was done. -/
theorem triple_attempt {e : GateNote} (he : e.tries = true) {c : Cmd ρ AttemptEnd}
    (hc : Triple D.always D.before c D.Attempted) :
    Triple (Reached D) (Open D) (do
      noteGate e
      let finish ← onFirst c
      setNav fun n => { n with attemptRunning := finish.running }
      return finish.result) fun result => Left D (result = .complete) (result ≠ .complete) := by
  rintro ⟨r, n⟩ ⟨hr, hn⟩
  change wp (onFirst c >>= _) _ _ (r, { n with gate := e :: n.gate })
  rw [wp_bind, wp_onFirst]
  refine wp_mono (hc r hr) (fun finish t ht => ?_) fun t ht => ?_
  · refine ⟨hn, ?_, fun hdone => ⟨ht.after hdone, he⟩, ht.before⟩
    exact (em (finish.result = .complete)).elim (fun h => .inr (ht.after h)) fun h =>
      .inl (ht.before h)
  · exact Undecided.reached (s := (t, { n with gate := e :: n.gate })) hn ht

/-- One attempt delivers if it completes and leaves the run as it was if it does not. -/
theorem triple_payloadTry (wasClose : Bool) :
    Triple (Reached D) (Open D) (payloadTry L wasClose) fun result =>
      Left D (result = some .complete) (result ≠ some .complete) := by
  have hsome {c : Cmd (ρ × Nav) PayloadResult} (hc : Triple (Reached D) (Open D) c
      fun result => Left D (result = .complete) (result ≠ .complete)) :
      Triple (Reached D) (Open D) (do let result ← c; return some result)
        fun result => Left D (result = some .complete) (result ≠ some .complete) :=
    Triple.bind hc fun result => Triple.pure _ fun s hs =>
      hs.less Option.some.inj fun h hdone => h (congrArg some hdone)
  refine Triple.ite (fun _ => hsome ?_) fun _ => (proceeds_closeGate L hL).andThen fun _ => ?_
  · exact fun s hs => triple_attempt rfl (hL.retry _) s hs
  refine Triple.ite (fun _ => hsome ?_) fun _ => ?_
  · exact fun s hs => triple_attempt rfl (hL.attempt _) s hs
  · exact Triple.pure _ fun s hs => hs.left nofun

/-- Of the attempts the last one decides, as the ones before it have delivered nothing. -/
theorem triple_payloadAttempts (k : ℕ) (wasClose : Bool) :
    Triple (Reached D) (Open D) (payloadAttempts L k wasClose) (Judged D) := by
  have hstop : Triple (Reached D) (Open D) (pure .fatal : Cmd (ρ × Nav) PayloadResult)
      (Judged D) := Triple.pure _ fun _ hs => hs.left nofun
  induction k generalizing wasClose with
  | zero =>
    refine (proceeds_layer (hL.faultRaise _ (by decide))).andThen fun _ s hs => ?_
    exact hstop (L.reportPrintf s.1, s.2) ⟨hL.reportPrintf s.1 hs.before, hs.undecided⟩
  | succ k ih =>
    refine (proceeds_runCanContinue L hL).andThen fun _ => Triple.ite (fun _ => hstop) fun _ => ?_
    refine (proceeds_saveCheckpoint L hL).andThen fun _ => Triple.ite (fun _ => hstop) fun _ => ?_
    -- an attempt that is not fatal is saved; then the check returns, or tries again
    have hafter (result : PayloadResult) : Triple (Reached D)
        (Left D (some result = some .complete) (some result ≠ some .complete)) (do
        if !(← saveCheckpoint L) then
          return .fatal
        if result = .complete ∨ (result = .notClose ∧ wasClose = false) then
          return result
        if k = 0 then
          payloadAttempts L k true
        else
          reportPrintf L
          if ← onFirst (L.pauseMs 200) then
            payloadAttempts L k true
          else
            return .fatal) (Judged D) := by
      refine (triple_saveCheckpoint L hL _).bind fun ok => Triple.ite (fun _ => left_fatal) ?_
      intro _
      refine Triple.ite (fun _ => Triple.pure _ ?_) fun hgo => ?_
      · exact fun s hs => hs.less (congrArg some) fun h hdone => h.1 (Option.some.inj hdone)
      have hopen : result ≠ .complete := fun hdone => hgo (.inl hdone)
      refine Triple.before (P := Open D) ?_ (Triple.ite (fun _ => ih true) fun _ => ?_)
      · exact fun s hs => ⟨hs.before fun h => hopen (Option.some.inj h), hs.undecided⟩
      rintro s hs
      have hpause : Triple (Reached D) (Open D) (do
          if ← onFirst (L.pauseMs 200) then
            payloadAttempts L k true
          else
            return .fatal) (Judged D) :=
        (proceeds_layer (hL.pauseMs 200)).andThen fun _ =>
          Triple.ite (fun _ => ih true) fun _ => hstop
      exact hpause (L.reportPrintf s.1, s.2) ⟨hL.reportPrintf s.1 hs.before, hs.undecided⟩
    apply (triple_payloadTry L hL wasClose).bind
    rintro (_ | _ | _ | _ | _)
    · exact Triple.pure _ fun s hs => hs.less nofun fun _ => nofun
    · exact hafter .notClose
    · exact hafter .retry
    · exact hafter .complete
    · exact left_fatal

/-- **A payload check** may decide the run. -/
theorem concludes_checkPayload (place : Place) : Concludes D id (checkPayload L place) := by
  refine Proceeds.andThen ?_ fun _ =>
    (triple_payloadAttempts L hL maxPayloadAttempts false).bind fun result s hs => ?_
  · exact proceeds_set fun _ hn => hn
  by_cases hresult : result = .complete ∨ result = .fatal
  · refine .inr ⟨hresult, hs.either, ⟨_, _, _, _, rfl, hs.undecided⟩, fun hdone => ?_⟩
    exact ⟨(hs.delivered hdone).left, (hs.delivered hdone).newest⟩
  · refine .inl ⟨fun hdone => hresult (.inl hdone), hs.before (not_or.mp hresult), ?_⟩
    intro e he
    rcases List.mem_cons.mp he with rfl | he
    · exact decide_eq_false hresult
    · exact hs.undecided e he

/-- Waiting for the Wi-Fi concludes with the first check that decides. -/
theorem concludes_waitForWifi (place : Place) (k : ℕ) :
    Concludes D outcome (waitForWifi L place k) := by
  induction k with
  | zero => exact Concludes.report hL (Concludes.pure _ nofun)
  | succ k ih =>
    refine Concludes.look fun n => (proceeds_tells (hL.sample _)).andThen ?_
    rintro (_ | sample)
    · exact Concludes.pure _ nofun
    refine (proceeds_saveCheckpoint L hL).unless nofun ?_
    refine Triple.ite (fun _ => Concludes.pure _ nofun) fun _ => Concludes.report hL ?_
    refine (concludes_checkPayload L hL place).bind fun result => ?_
    refine Triple.ite (fun _ => concludes_return _ rfl) fun hresult => ?_
    have hnext : Concludes D outcome (do
        if !(← onFirst (L.pauseMs 500)) then
          return .error .fatal
        waitForWifi L place k) := (proceeds_layer (hL.pauseMs 500)).unless nofun ih
    exact Triple.before (fun s hs => hs.elim And.right fun h => absurd h.1 hresult) hnext

/-- Measuring a pair concludes with the checks on the way. -/
theorem concludes_measurePair (place : Place) : Concludes D outcome (measurePair L place) := by
  apply (concludes_waitForWifi L hL place _).bind
  rintro (result | first)
  · exact concludes_return _ rfl
  refine Concludes.go ((concludes_waitForWifi L hL place _).bind ?_)
  rintro (result | second)
  · exact concludes_return _ rfl
  · exact concludes_return _ rfl

end Checks

/-! ## Blocks -/

section Blocks

variable {D : Delivery ρ} (L : Layer ρ) (hL : L.Delivers D)
include hL

/-- Reserving travel goes on. -/
theorem proceeds_reserveTranslation (required : UInt32) :
    Proceeds D (reserveTranslation L required) := by
  refine Concludes.look fun n => Triple.ite (fun _ => ?_) fun _ => ?_
  · exact proceeds_runCanContinue L hL
  · exact (proceeds_layer (passes_stopFor hL.toBears (by decide))).andThen fun _ =>
      Concludes.report hL (Concludes.pure _ nofun)

/-- A charged block concludes with the check that follows it. -/
theorem concludes_chargeBlock (place : Place) (duration : UInt32) (block : MotionLayer.Block) :
    Concludes D id (chargeBlock L place duration block) := by
  refine (proceeds_note rfl).andThen fun _ => Proceeds.andThen ?_ fun _ => ?_
  · exact proceeds_set fun _ hn => hn
  refine Triple.ite (fun _ => Concludes.pure _ nofun) fun _ => ?_
  refine Triple.ite (fun _ => Concludes.pure _ nofun) fun _ => ?_
  refine (proceeds_runCanContinue L hL).unless nofun (Concludes.look fun n => ?_)
  refine Triple.ite (fun _ => ?_) fun _ => concludes_checkPayload L hL place
  exact concludes_fault hL (by decide) _ nofun

/-- **A block** ends with a check, or the run ends. -/
theorem concludes_translateBlock (place : Place) (forwards : Bool) (duration : UInt32)
    (heading : Float32) (position reserved : UInt32) (acquireMoving : Bool) :
    Concludes D Prod.fst
      (translateBlock L place forwards duration heading position reserved acquireMoving) := by
  refine Concludes.look fun n => (proceeds_note rfl).andThen fun _ => ?_
  refine Proceeds.andThen (proceeds_set ?_) fun _ => ?_
  · exact fun _ hn => hn
  refine (proceeds_reserveTranslation L hL _).unless nofun ?_
  refine (proceeds_saveCheckpoint L hL).unless nofun ?_
  refine (proceeds_layer (hL.setPosition _ _ _)).andThen fun _ => ?_
  apply (proceeds_tells (hL.driveBlock _ _ _ _ _)).andThen
  rintro (_ | block)
  · exact Concludes.pure _ nofun
  · exact (concludes_chargeBlock L hL place duration block).bind fun _ => concludes_return _ rfl

/-- A return concludes with the first check that decides. -/
theorem concludes_returnAlongLine (position target : UInt32) (heading : Float32) :
    Concludes D id (returnAlongLine L position target heading) := by
  have hblock (remaining : UInt32) : Concludes D (Sum.elim (fun _ => .notClose) id)
      (returnBlock L target heading remaining) := by
    refine Triple.ite (fun _ => Concludes.pure _ nofun) fun _ => ?_
    apply (concludes_translateBlock L hL _ _ _ _ _ _ _).bind
    rintro ⟨result, actual⟩
    exact concludes_goOn (concludes_return _ rfl) (Concludes.pure _ nofun)
  refine Concludes.report hL ((Concludes.loop hblock _).bind fun result => ?_)
  refine Triple.ite (fun hr => ?_) fun _ => concludes_return _ rfl
  subst hr
  refine Concludes.go ((proceeds_layer (hL.setPosition _ _ _)).andThen fun _ => ?_)
  exact Concludes.pure _ nofun

end Blocks

/-! ## Steering on the mat -/

section Steering

variable {D : Delivery ρ} (L : Layer ρ) (hL : L.Delivers D)
include hL

/-- A turn goes on, failed or not. -/
theorem proceeds_turnToHeading (heading : Float32) : Proceeds D (turnToHeading L heading) := by
  have hpass : D.guard.Passes Any (fun _ => True) (turnToHeading L heading) :=
    passes_turnToHeading hL.toBears lasting_any.same heading
  exact proceeds_of_leads (leads_turnToHeading L undecided_roams heading) hpass

/-- **A scan** does not decide the run. -/
theorem concludes_matScan (origin : Float32) :
    Concludes D (Sum.elim id fun _ => .notClose) (matScan L origin) := by
  have hscan := leads_scanSteps L undecided_roams origin 12 []
  apply (proceeds_of_leads hscan (passes_scanSteps hL.toBears origin 12 [])).andThen
  rintro ⟨status, readings⟩
  refine Triple.ite (fun _ => Concludes.pure _ nofun) fun _ => Triple.ite (fun _ => ?_) fun _ => ?_
  · exact (proceeds_note rfl).andThen fun _ => Concludes.report hL (Concludes.pure _ nofun)
  refine Proceeds.andThen ?_ fun _ => Proceeds.andThen ?_ fun _ => ?_
  · exact proceeds_set fun _ hn => hn
  · apply proceeds_set
    intro n hn
    split
    · exact hn
    · exact hn
  refine (proceeds_note rfl).andThen fun _ => Triple.ite (fun _ => ?_) fun _ => ?_
  · exact Concludes.report hL (Concludes.pure _ nofun)
  · exact Concludes.pure _ nofun

/-- Waiting on the mat concludes with the first check that decides. -/
theorem concludes_matWaitOnArrival (k : ℕ) : Concludes D id (matWaitOnArrival L k) := by
  induction k with
  | zero => exact concludes_fault hL (by decide) _ nofun
  | succ k ih =>
    refine Concludes.report hL ((proceeds_layer (hL.pauseMs _)).unless nofun ?_)
    refine (concludes_checkPayload L hL .steering).orEnds (fun _ => rfl) fun result => ?_
    exact Concludes.look fun s => Triple.ite (fun _ => Concludes.pure _ nofun) fun _ => ih

/-- Waiting for an arrival, if there was one, concludes with the first check that decides. -/
theorem concludes_waitIfArrived : Concludes D id (waitIfArrived L) :=
  Concludes.look fun _ => Triple.ite (fun _ => concludes_matWaitOnArrival L hL _) fun _ =>
    Concludes.pure _ nofun

/-- The blocks towards the mat conclude with the first check that decides. -/
theorem concludes_matSteps (heading : Float32) (k : ℕ) (previous : ℤ) :
    Concludes D id (matSteps L heading k previous) := by
  induction k generalizing previous with
  | zero => exact Concludes.pure _ nofun
  | succ k ih =>
    apply (concludes_translateBlock L hL _ _ _ _ _ _ _).bind
    rintro ⟨result, actual⟩
    refine concludes_goOn (concludes_return _ rfl) (Concludes.look fun s => Concludes.report hL ?_)
    refine (concludes_waitIfArrived L hL).orEnds (fun _ => rfl) fun result => ?_
    exact Triple.ite (fun _ => Concludes.pure _ nofun) fun _ => ih _

/-- A round of the steering concludes with what its blocks do. -/
theorem concludes_matRound :
    Concludes D (Sum.elim (fun _ => .notClose) id) (matRound L) := by
  refine (proceeds_runCanContinue L hL).unless nofun ?_
  refine Proceeds.andThen (proceeds_set ?_) fun _ => ?_
  · exact fun _ hn => hn
  refine (proceeds_layer hL.heading).andThen fun origin => (concludes_matScan L hL origin).bind ?_
  rintro (result | angle)
  · exact concludes_return _ rfl
  refine Concludes.go (Concludes.report hL ((proceeds_turnToHeading L hL _).unless nofun ?_))
  refine (concludes_checkPayload L hL .steering).orEnds (fun _ => rfl) fun result => ?_
  refine (concludes_waitIfArrived L hL).orEnds (fun _ => rfl) fun result => ?_
  apply Concludes.look
  intro s
  refine (concludes_matSteps L hL _ _ _).orEnds (fun _ => rfl) fun result => ?_
  exact Concludes.pure _ nofun

/-- **The steering concludes**: its result is that of the newest check, if that decides. -/
theorem concludes_matApproach : Concludes D id (matApproach L) := by
  refine Concludes.report hL (Concludes.loop (fun _ => ?_) ())
  refine Concludes.look fun n => Triple.ite (fun _ => concludes_matRound L hL) fun _ => ?_
  exact Concludes.report hL (Concludes.pure _ nofun)

end Steering

/-! ## Following a line -/

section Lines

variable {D : Delivery ρ} (L : Layer ρ) (hL : L.Delivers D)
include hL

omit hL in
/-- A note for the line goes on. -/
theorem proceeds_noteLine (e : LineNote) : Proceeds D (noteLine e : Cmd (ρ × Nav) Unit) :=
  proceeds_set fun _ hn => hn

omit hL in
/-- Looking whether the steering is ready goes on. -/
theorem proceeds_matSteeringReady : Proceeds D (matSteeringReady : Cmd (ρ × Nav) Bool) :=
  Concludes.look fun _ => Concludes.pure _ nofun

/-- Computing the length of a block goes on. -/
theorem proceeds_forwardBlockMs : Proceeds D (forwardBlockMs L) := by
  refine Concludes.look fun n => Triple.ite (fun _ => ?_) fun _ => Concludes.pure _ nofun
  refine Proceeds.andThen (proceeds_set ?_) fun _ => Concludes.report hL (Concludes.pure _ nofun)
  exact fun _ hn => hn

/-- Reporting how a pair is judged goes on. -/
theorem proceeds_reportJudged (l : Line) (current : LinePair) :
    Proceeds D (reportJudged L l current) := by
  refine Concludes.reportIf hL (Concludes.reportIf hL ?_)
  cases (l.keepBest current).strengthens current with
  | true => exact fun s hs =>
      stands_of_open nofun ⟨hL.reportPrintf s.1 hs.before, hs.undecided⟩
  | false => exact Concludes.pure _ nofun

/-- The end of a line concludes with the checks of its return. -/
theorem concludes_followEnd (l : Line) :
    Concludes D (Sum.elim (fun _ => .notClose) outcome) (followEnd L l) := by
  refine Triple.ite (fun _ => Concludes.report hL (Concludes.pure _ nofun)) fun _ => ?_
  refine Triple.ite (fun _ => Concludes.pure _ nofun) fun _ => Concludes.report hL ?_
  refine Proceeds.andThen (proceeds_set ?_) fun _ => ?_
  · exact fun _ hn => hn
  refine (proceeds_recordPoint L hL).andThen fun _ => ?_
  exact Triple.ite (fun _ => Concludes.pure _ nofun) fun _ => Concludes.pure _ nofun

/-- The probe of a dip concludes with the checks of its blocks. -/
theorem concludes_probeDip (heading : Float32) (best : UInt32) (reference : LinePair) (k : ℕ)
    (position : UInt32) (current : LinePair) :
    Concludes D outcome (probeDip L heading best reference k position current) := by
  induction k generalizing position current with
  | zero => exact Concludes.report hL (Concludes.pure _ nofun)
  | succ k ih =>
    apply Concludes.report hL
    apply (concludes_translateBlock L hL _ _ _ _ _ _ _).bind
    rintro ⟨result, actual⟩
    refine concludes_goOn (concludes_return _ rfl) ?_
    refine (proceeds_layer (hL.setPosition _ _ _)).andThen fun _ => ?_
    apply (concludes_measurePair L hL .followWifi).bind
    rintro (result | current)
    · exact concludes_return _ rfl
    refine Concludes.go (Concludes.report hL ?_)
    refine (proceeds_saveCheckpoint L hL).unless nofun ?_
    refine (proceeds_noteLine _).andThen fun _ => ?_
    exact Triple.ite (fun _ => Concludes.pure _ nofun) fun _ => ih _ _

/-- The probe with the second measurement before it concludes with the checks of both. -/
theorem concludes_recheckAndProbeDip (heading : Float32) (best : UInt32) (reference : LinePair)
    (position : UInt32) :
    Concludes D outcome (recheckAndProbeDip L heading best reference position) := by
  refine (proceeds_layer hL.stop).andThen fun _ => Concludes.report hL ?_
  refine (concludes_checkPayload L hL .dip).orEnds (fun _ => rfl) fun result => ?_
  apply (concludes_measurePair L hL .followWifi).bind
  rintro (result | current)
  · exact concludes_return _ rfl
  refine Concludes.go (Concludes.report hL ?_)
  refine (proceeds_saveCheckpoint L hL).unless nofun ?_
  refine (proceeds_noteLine _).andThen fun _ => ?_
  exact Triple.ite (fun _ => Concludes.pure _ nofun) fun _ => concludes_probeDip L hL _ _ _ _ _ _

/-- A block of a line concludes with the checks around it. -/
theorem concludes_followBlock (l : Line) (step : UInt32) :
    Concludes D (Sum.elim (fun _ => .notClose) outcome) (followBlock L l step) := by
  refine (proceeds_layer (hL.setReference _)).andThen fun _ => ?_
  apply (concludes_translateBlock L hL _ _ _ _ _ _ _).bind
  rintro ⟨result, actual⟩
  refine concludes_goOn (concludes_return _ rfl) (proceeds_matSteeringReady.andThen fun _ => ?_)
  refine Triple.ite (fun _ => Concludes.report hL (Concludes.pure _ nofun)) fun _ => ?_
  refine (proceeds_layer (hL.setPosition _ _ _)).andThen fun _ => ?_
  apply (concludes_measurePair L hL .followWifi).bind
  rintro (result | current)
  · exact concludes_return _ rfl
  refine Concludes.go ((proceeds_recordPoint L hL).unless nofun ?_)
  exact (proceeds_noteLine _).andThen fun _ => Concludes.report hL (Concludes.pure _ nofun)

/-- A declining line concludes with its return to the best point. -/
theorem concludes_endDecline (l : Line) : Concludes D outcome (endDecline L l) := by
  refine (proceeds_noteLine _).andThen fun _ => Concludes.report hL ?_
  refine (concludes_returnAlongLine L hL _ _ _).orEnds (fun _ => rfl) fun result => ?_
  apply (concludes_measurePair L hL .followWifi).bind
  rintro (result | returned)
  · exact concludes_return _ rfl
  · exact Concludes.go (Concludes.report hL (Concludes.pure _ nofun))

/-- A decline concludes with the probe or with the return. -/
theorem concludes_followDecline (l : Line) (step : UInt32) (current : LinePair) :
    Concludes D (Sum.elim (fun _ => .notClose) outcome) (followDecline L l step current) := by
  refine Triple.ite (fun _ => Concludes.reportIf hL (Concludes.pure _ nofun)) fun _ => ?_
  apply Concludes.reportIf hL
  refine Concludes.report hL (Triple.ite (fun _ => Concludes.pure _ nofun) ?_)
  intro _
  apply (concludes_recheckAndProbeDip L hL _ _ _ _).bind
  rintro (result | ⟨recovered, position, current⟩)
  · exact concludes_return _ rfl
  refine Triple.ite (fun _ => ?_) fun _ => ?_
  · exact Concludes.go (Concludes.report hL (Concludes.pure _ nofun))
  exact Concludes.go ((concludes_endDecline L hL _).bind fun _ => concludes_return _ rfl)

/-- A round of a line concludes with its block, its decline or its end. -/
theorem concludes_followRound (l : Line) :
    Concludes D (Sum.elim (fun _ => .notClose) outcome) (followRound L l) := by
  refine (proceeds_noteLine _).andThen fun _ => ?_
  refine (proceeds_runCanContinue L hL).unless nofun ?_
  refine (proceeds_forwardBlockMs L hL).andThen fun step => ?_
  apply (concludes_followBlock L hL l step).bind
  rintro (⟨l, current⟩ | result)
  · refine Concludes.go ((concludes_followDecline L hL l step current).bind ?_)
    rintro (⟨l, current⟩ | result)
    · refine Concludes.go ((proceeds_noteLine _).andThen fun _ => ?_)
      exact (proceeds_reportJudged L hL l current).andThen fun _ => concludes_followEnd L hL _
    · exact concludes_return _ rfl
  · exact concludes_return _ rfl

/-- **A line.** -/
theorem concludes_followDirection (heading : Float32) (trialMs : UInt32) :
    Concludes D outcome (followDirection L heading trialMs) := by
  refine Proceeds.andThen (proceeds_set ?_) fun _ => ?_
  · exact fun _ hn => hn
  refine (proceeds_turnToHeading L hL heading).unless nofun ?_
  refine (proceeds_layer (hL.setPosition _ _ _)).andThen fun _ => ?_
  apply (concludes_measurePair L hL .followWifi).bind
  rintro (result | best)
  · exact concludes_return _ rfl
  refine Concludes.go ((proceeds_recordPoint L hL).unless nofun ?_)
  refine (proceeds_noteLine _).andThen fun _ => Concludes.report hL ?_
  exact Concludes.loop (concludes_followRound L hL) _

end Lines

/-! ## The approach -/

section Approach

variable {D : Delivery ρ} (L : Layer ρ) (hL : L.Delivers D)
include hL

/-- A trial direction concludes with the return to where it started. -/
theorem concludes_endTrial (heading : Float32) (followed : FollowResult) :
    Concludes D outcome (endTrial L heading followed) := by
  apply Concludes.report hL
  refine (concludes_returnAlongLine L hL _ _ _).orEnds (fun _ => rfl) fun result => ?_
  apply (concludes_measurePair L hL .followWifi).bind
  rintro (result | returned)
  · exact concludes_return _ rfl
  · exact Concludes.go (Concludes.report hL (Concludes.pure _ nofun))

/-- The trial directions conclude with the first check that decides. -/
theorem concludes_checkDirections (origin : Float32) (offsets : List Float32)
    (followed : FollowResult) :
    Concludes D outcome (checkDirections L origin offsets followed) := by
  induction offsets generalizing followed with
  | nil => exact Concludes.pure _ nofun
  | cons offset offsets ih =>
    apply (concludes_followDirection L hL _ _).bind
    rintro (result | followed)
    · exact concludes_return _ rfl
    refine Concludes.go (Triple.ite (fun _ => Concludes.pure _ nofun) fun _ => ?_)
    refine Triple.ite (fun _ => ?_) fun _ => ih followed
    apply (concludes_endTrial L hL _ followed).bind
    rintro (result | followed)
    · exact concludes_return _ rfl
    · exact (ih followed).go

/-- The line straight ahead concludes with the first check that decides. -/
theorem concludes_followAhead : Concludes D outcome (followAhead L) :=
  (proceeds_layer hL.heading).andThen fun _ => concludes_followDirection L hL _ _

/-- The steering ends the approach when its check has decided the run. -/
theorem concludes_approachMat :
    Concludes D (Sum.elim (fun _ => .notClose) verdict) (approachMat L) := by
  refine (concludes_matApproach L hL).bind fun result => ?_
  refine concludes_goOn (concludes_verdict rfl) (Concludes.report hL ?_)
  apply (concludes_followAhead L hL).bind
  rintro (result | followed)
  · exact concludes_verdict rfl
  · exact concludes_return _ rfl

/-- A line and its trials end the approach when a check has decided the run. -/
theorem concludes_approachSearch (followed : FollowResult) :
    Concludes D (Sum.elim (fun _ => .notClose) verdict) (approachSearch L followed) := by
  apply Concludes.reportIf hL
  refine Concludes.report hL ((concludes_checkDirections L hL _ _ _).bind ?_)
  rintro (result | ⟨followed, found⟩)
  · exact concludes_verdict rfl
  refine Concludes.go (Triple.ite (fun _ => Concludes.pure _ nofun) fun _ => ?_)
  exact concludes_fault hL (by decide) _ nofun

/-- A round of the search concludes with the steering or with the line. -/
theorem concludes_approachRound (followed : FollowResult) :
    Concludes D (Sum.elim (fun _ => .notClose) verdict) (approachRound L followed) := by
  refine (proceeds_runCanContinue L hL).unless nofun ?_
  cases followed.ending with
  | mat => exact concludes_approachMat L hL
  | decline => exact concludes_approachSearch L hL followed
  | noGain => exact concludes_fault hL (by decide) _ nofun

/-- The first line of the approach concludes like any other. -/
theorem concludes_approachStart : Concludes D outcome (approachStart L) :=
  proceeds_matSteeringReady.andThen fun _ =>
    Triple.ite (fun _ => Concludes.pure _ nofun) fun _ => concludes_followAhead L hL

/-- **The approach** returns what the check that decided the run has found. -/
theorem concludes_approachBeacon : Concludes D verdict (approachBeacon L) := by
  refine (proceeds_layer hL.nowMs).andThen fun now => ?_
  refine (proceeds_layer hL.samplerInit).andThen fun _ => ?_
  refine Proceeds.andThen (proceeds_set ?_) fun _ => ?_
  · exact fun _ _ e he => nomatch he
  refine (concludes_checkPayload L hL .start).bind fun result => ?_
  refine concludes_goOn (concludes_verdict rfl) ?_
  apply (concludes_waitForWifi L hL .start _).bind
  rintro (result | sample)
  · exact concludes_verdict rfl
  refine Concludes.go (Proceeds.andThen (proceeds_set ?_) fun _ => ?_)
  · exact fun _ hn => hn
  refine (proceeds_layer hL.learnDirection).unless nofun (Concludes.report hL ?_)
  apply (concludes_approachStart L hL).bind
  rintro (result | followed)
  · exact concludes_verdict rfl
  · exact Concludes.go (Concludes.loop (concludes_approachRound L hL) followed)

end Approach

/-- Nothing is asked of the headers. -/
def anyDelivery : Delivery ρ where
  always _ := True
  before _ := True
  after _ := True
  always_of_before _ _ := trivial
  always_of_after _ _ := trivial

/-- A layer of which nothing is asked delivers nothing. -/
theorem delivers_any (L : Layer ρ) : L.Delivers anyDelivery := by
  have hany {α : Type} {c : Cmd ρ α} {Q : α → ρ → Prop} (hQ : ∀ a r, Q a r) :
      Triple (fun _ => True) (fun _ => True) c Q := fun _ _ => wp_of_forall hQ fun _ => trivial
  have hholds {α : Type} {c : Cmd ρ α} : anyDelivery.guard.Holds c := hany fun _ _ => trivial
  have htells {α : Type} {c : Cmd ρ α} {ok : α → Prop} : anyDelivery.guard.Tells c ok :=
    hany fun _ _ => ⟨trivial, fun _ => trivial⟩
  have hattempt {c : Cmd ρ AttemptEnd} : Triple (fun _ => True) (fun _ => True) c
      anyDelivery.Attempted := hany fun _ _ => ⟨fun _ => trivial, fun _ => trivial⟩
  exact
    { nowMs := hholds, samplerInit := hholds, canContinue := fun _ => hholds, stop := hholds,
      faultRaise := fun _ _ => hholds, reportPrintf := fun _ _ => trivial,
      reportCheckpoint := hholds, turnToHeading := fun _ => hholds, learnDirection := hholds,
      heading := hholds, pauseMs := fun _ => hholds, setPosition := fun _ _ _ => hholds,
      setReference := fun _ => hholds, readFresh := hholds, quiesce := fun _ => htells,
      sample := fun _ => htells, driveBlock := fun _ _ _ _ _ => htells, profileFull := hholds,
      profileLine := fun _ _ => trivial, attempt := fun _ => hattempt, retry := fun _ => hattempt,
      stopped := hholds, quiesced := fun _ => hholds, saved := hholds, faulted := hholds }

/-- **A check that decides the run is the last thing that is done in it**, however the run goes and
wherever it is cut off: no event follows a check that ended with `PAYLOAD_COMPLETE` or
`PAYLOAD_FATAL`, no turn and no drive is asked for after the attempt of one that completed, and
`approach_beacon` returns true exactly if the last check completed. -/
theorem approachBeacon_concludes (L : Layer ρ) (x : ρ) (colour : ColourSensor) :
    let run := exec (approachBeacon L) (x, Nav.boot colour)
    (∀ e ∈ run.2.2.events.tail, e.decides = false) ∧
    (completed run.2.2.events = true → run.2.2.gate.head?.any GateNote.tries = true) ∧
    ∀ delivered, run.1 = some delivered → delivered = completed run.2.2.events := by
  intro run
  have hrun := concludes_approachBeacon L (delivers_any L) (x, Nav.boot colour) ⟨trivial, nofun⟩
  have hreached : Reached anyDelivery run.2 :=
    always (wp_mono hrun (fun b _ hs => hs.reached) fun _ hs => hs)
  refine ⟨hreached.earlier, fun hdone => (hreached.delivered hdone).newest, ?_⟩
  intro delivered hreturned
  have hstands : Stands anyDelivery (verdict delivered) run.2 := wp_returned hrun hreturned
  rw [hstands.completed_eq]
  cases delivered with
  | false => rfl
  | true => rfl

end Navigation
