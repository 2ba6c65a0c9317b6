/-
# A guard over the approach

A guard says of the state under the headers what is always so (`always`), what lets the run go on
(`good`) and what is left when it must not (`left`).  Only a profile of a line that was found full
leaves less (`worn`), and then something is known of the statics (`full`).  A layer that keeps a
guard (`Layer.Keeps`) is good again after each of its operations, unless the operation reports
that the run has ended.

`G.Passes N ok c`: from a good state, and statics with `N`, the command leads to a state in which
the run may end, and which is good again, with `N`, if the result is `ok`.  Every part of the
approach up to a powered block and a scan of the mat passes, for any `N` that depends only on the
notes, the powered time and the length of the profile; following a line is left to `ProfileTally`.
Where no attempt is made, it is enough that the layer keeps the guard but for these
(`Layer.Bears`).
-/
import GettingThere.CommandTriples
import GettingThere.NavigationSteps

open CrashLogic
open PayloadClient (PayloadResult ap1CloseRssiDbm colourArrivalBleDbm)

/-- What a run keeps in the state under the headers. -/
structure Guard (ρ : Type) where
  /-- wherever the run is cut off -/
  always : ρ → Prop
  /-- the run may go on -/
  good : ρ → Prop
  /-- the run may have to end -/
  left : ρ → Prop
  /-- the profile of a line was found full -/
  worn : ρ → Prop
  full : List Navigation.Event → Prop
  left_of_good : ∀ r, good r → left r
  always_of_left : ∀ r, left r → always r
  full_cons : ∀ e events, full events → full (e :: events)

variable {ρ : Type}

/-- The operation keeps the state good. -/
def Guard.Holds (G : Guard ρ) {α : Type} (c : Cmd ρ α) : Prop :=
  Triple G.always G.good c fun _ => G.good

/-- The operation keeps the state good, or says that it does not. -/
def Guard.Tells (G : Guard ρ) {α : Type} (c : Cmd ρ α) (ok : α → Prop) : Prop :=
  Triple G.always G.good c fun a r => G.left r ∧ (ok a → G.good r)

/-- A call that keeps the guard tells nothing of its result. -/
theorem Guard.Holds.tells {G : Guard ρ} {α : Type} {c : Cmd ρ α} (h : G.Holds c) (ok : α → Prop) :
    G.Tells c ok := Triple.after h fun _ r hr => ⟨G.left_of_good r hr, fun _ => hr⟩

/-- **The layer keeps the guard** outside the payload attempts. -/
structure Layer.Bears (L : Layer ρ) (G : Guard ρ) : Prop where
  nowMs : G.Holds L.nowMs
  samplerInit : G.Holds L.samplerInit
  canContinue : ∀ t, G.Holds (L.runCanContinue t)
  stop : G.Holds L.stop
  faultRaise : ∀ f, f ≠ .profile → G.Holds (L.faultRaise f)
  reportPrintf : ∀ r, G.good r → G.good (L.reportPrintf r)
  reportCheckpoint : G.Holds L.reportCheckpoint
  turnToHeading : ∀ d, G.Holds (L.turnToHeading d)
  learnDirection : G.Holds L.learnDirection
  heading : G.Holds L.heading
  pauseMs : ∀ d, G.Holds (L.pauseMs d)
  setPosition : ∀ d t b, G.Holds (L.setPosition d t b)
  setReference : ∀ s, G.Holds (L.setReference s)
  readFresh : G.Holds L.readFresh
  quiesce : ∀ t, G.Tells (L.quiesce (L.runCanContinue t)) (· = true)
  sample : ∀ t, G.Tells (L.sample (L.runCanContinue t)) (· ≠ none)
  driveBlock : ∀ t forwards duration heading acquire,
    G.Tells (L.driveBlock t forwards duration heading acquire)
      fun b => ∃ block, b = some block ∧ block.quiesced = true
  profileFull : Triple G.always G.good (L.stopFor .profile) fun _ => G.worn
  profileLine : ∀ r, G.worn r → G.worn (L.reportPrintf r)

/-- **The layer keeps the guard.** -/
structure Layer.Keeps (L : Layer ρ) (G : Guard ρ) : Prop extends L.Bears G where
  payloadAttempt : ∀ dbm, G.Tells (L.payloadAttempt dbm) fun e => e.result ≠ .fatal
  payloadRetry : ∀ dbm, G.Tells (L.payloadRetry dbm) fun e => e.result ≠ .fatal

namespace Guard

open Navigation

variable {α β γ : Type} (G : Guard ρ)

/-- What holds wherever the run is cut off. -/
def Safe (s : ρ × Nav) : Prop := G.always s.1 ∨ (G.full s.2.events ∧ G.worn s.1)

/-- What holds where the run may end. -/
def Ended (s : ρ × Nav) : Prop := G.left s.1 ∨ (G.full s.2.events ∧ G.worn s.1)

/-- The run may end, or under `p` it goes on, with `N`. -/
def Upto (N : Nav → Prop) (p : Prop) (s : ρ × Nav) : Prop := G.Ended s ∧ (p → G.good s.1 ∧ N s.2)

/-- The command goes on if its result is `ok`, with `M`. -/
def Goes (N : Nav → Prop) (ok : α → Prop) (M : α → Nav → Prop) (c : Cmd (ρ × Nav) α) : Prop :=
  Triple G.Safe (fun s => G.good s.1 ∧ N s.2) c fun a => G.Upto (M a) (ok a)

/-- **The command passes**: it goes on if its result is `ok`. -/
abbrev Passes (N : Nav → Prop) (ok : α → Prop) (c : Cmd (ρ × Nav) α) : Prop :=
  G.Goes N ok (fun _ => N) c

/-- What most of the approach leaves alone of the statics. -/
structure Same (n m : Nav) : Prop where
  events : m.events = n.events
  translationMs : m.translationMs = n.translationMs
  profileCount : m.profileCount = n.profileCount

theorem Same.refl (n : Nav) : Same n n := ⟨rfl, rfl, rfl⟩

theorem Same.trans {n m k : Nav} (h : Same n m) (h' : Same m k) : Same n k :=
  ⟨h'.events.trans h.events, h'.translationMs.trans h.translationMs,
    h'.profileCount.trans h.profileCount⟩

/-- The condition depends on nothing else. -/
def Plain (N : Nav → Prop) : Prop := ∀ n m, Same n m → N n → N m

/-- The statics after a payload check, if the run goes on. -/
def Noted (N : Nav → Prop) (place : Place) (r : PayloadResult) (m : Nav) : Prop :=
  ∃ n arrived scans, N n ∧ Same { n with events := .checked place arrived r scans :: n.events } m

/-- The condition is kept when something is noted, too. -/
structure Lasting (N : Nav → Prop) : Prop where
  same : Plain N
  note : ∀ n e, N n → N { n with events := e :: n.events }

variable {G} {N : Nav → Prop} {ok : α → Prop} {ok' : β → Prop} {M : α → Nav → Prop}
  {M' : β → Nav → Prop} {p : Prop} {c : Cmd (ρ × Nav) α} {f : α → Cmd (ρ × Nav) β}

/-- Where the guard is good the run may be cut off. -/
theorem safe_of_good {s : ρ × Nav} (h : G.good s.1) : G.Safe s :=
  .inl (G.always_of_left s.1 (G.left_of_good s.1 h))

/-- Where the guard is good the run may go on. -/
theorem Upto.of_good {s : ρ × Nav} (h : G.good s.1 ∧ N s.2) : G.Upto N p s :=
  ⟨.inl (G.left_of_good s.1 h.1), fun _ => h⟩

/-- A run that goes on under `p` goes on under whatever gives `p`. -/
theorem Upto.less {q : Prop} {s : ρ × Nav} (h : G.Upto N p s) (hq : q → p) : G.Upto N q s :=
  ⟨h.1, fun hs => h.2 (hq hs)⟩

/-- A note, or none, changes nothing where the run may end. -/
theorem Ended.note {r : ρ} {n m : Nav} (h : G.Ended (r, n))
    (hm : m.events = n.events ∨ ∃ e, m.events = e :: n.events) : G.Ended (r, m) := by
  refine h.imp_right fun hlost => ⟨?_, hlost.2⟩
  change G.full m.events
  obtain hm | ⟨e, hm⟩ := hm
  · exact hm ▸ hlost.1
  · exact hm ▸ G.full_cons e n.events hlost.1

/-- The command returns, and the run goes on. -/
theorem Goes.pure (a : α) (hM : ∀ n, N n → M a n) : G.Goes N ok M (pure a) :=
  fun s hs => Upto.of_good ⟨hs.1, hM s.2 hs.2⟩

/-- A result passes by itself. -/
theorem Passes.pure (a : α) : G.Passes N ok (pure a) := Goes.pure a fun _ hn => hn

/-- The command returns when the run has ended. -/
theorem stop_pure (b : β) (hb : ¬ ok' b) :
    Triple G.Safe (G.Upto N p) (Pure.pure b) fun b => G.Upto (M' b) (ok' b) :=
  fun _ hs => ⟨hs.1, fun h => absurd h hb⟩

/-- A result that is not `ok` promises nothing. -/
theorem Goes.stop (b : β) (hb : ¬ ok' b) : G.Goes N ok' M' (Pure.pure b) :=
  fun _ hs => ⟨(Upto.of_good (p := True) hs).1, fun h => absurd h hb⟩

/-- The run goes on. -/
theorem Goes.go (h : G.Goes N ok M c) (hp : p) :
    Triple G.Safe (G.Upto N p) c fun a => G.Upto (M a) (ok a) :=
  Triple.before (fun _ hs => hs.2 hp) h

/-- What goes on may be followed by what goes on from each of its results. -/
theorem Goes.bind (hc : G.Goes N ok M c) (hf : ∀ a, Triple G.Safe (G.Upto (M a) (ok a)) (f a)
    fun b => G.Upto (M' b) (ok' b)) : G.Goes N ok' M' (c >>= f) := Triple.bind hc hf

/-- One way or the other. -/
theorem Goes.ite {q : Prop} [Decidable q] {a b : Cmd (ρ × Nav) α} (ha : q → G.Goes N ok M a)
    (hb : ¬ q → G.Goes N ok M b) : G.Goes N ok M (if q then a else b) := Triple.ite ha hb

/-- Weaker conditions on the result. -/
theorem Goes.less {ok₂ : α → Prop} {M₂ : α → Nav → Prop} (h : G.Goes N ok M c)
    (hok : ∀ a, ok₂ a → ok a) (hM : ∀ a n, ok₂ a → M a n → M₂ a n) : G.Goes N ok₂ M₂ c :=
  Triple.after h fun a s hs => ⟨hs.1, fun ha =>
    ⟨(hs.2 (hok a ha)).1, hM a s.2 ha (hs.2 (hok a ha)).2⟩⟩

/-- A stronger condition before. -/
theorem Goes.strengthen {N' : Nav → Prop} (h : G.Goes N ok M c) (hN : ∀ n, N' n → N n) :
    G.Goes N' ok M c := fun s hs => h s ⟨hs.1, hN s.2 hs.2⟩

/-- A fact about the data, whatever the state. -/
theorem Goes.given {q : Prop} (h : q → G.Goes N ok M c) : G.Goes (fun n => N n ∧ q) ok M c :=
  fun s hs => h hs.2.2 s ⟨hs.1, hs.2.1⟩

/-- The statics are looked at. -/
theorem Goes.look {f : Nav → Cmd (ρ × Nav) β} (hf : ∀ n, N n → G.Goes N ok' M' (f n)) :
    G.Goes N ok' M' (getNav >>= f) := fun s hs => by
  rw [wp_bind]
  exact hf s.2 hs.2 s hs

/-- A command after which the run goes on in any case. -/
theorem Goes.andThen (hc : G.Goes N (fun _ => True) M c) (hf : ∀ a, G.Goes (M a) ok' M' (f a)) :
    G.Goes N ok' M' (c >>= f) := hc.bind fun a => (hf a).go trivial

/-- A question that must be answered with yes. -/
theorem Goes.unless {c : Cmd (ρ × Nav) Bool} {M : Bool → Nav → Prop} {b : β}
    {rest : Cmd (ρ × Nav) β} (hc : G.Goes N (· = true) M c) (hrest : G.Goes (M true) ok' M' rest)
    (hb : ¬ ok' b) :
    G.Goes N ok' M' (c >>= fun yes => if (!yes) = true then Pure.pure b else rest) := by
  apply hc.bind
  rintro (_ | _)
  · exact stop_pure b hb
  · exact hrest.go rfl

/-- A command after which the run goes on, and then a question about its result. -/
theorem Goes.whether {c : Cmd (ρ × Nav) Bool} {a b : Cmd (ρ × Nav) β}
    (hc : G.Passes N (fun _ => True) c) (ha : G.Goes N ok' M' a) (hb : G.Goes N ok' M' b) :
    G.Goes N ok' M' (c >>= fun yes => if yes = true then a else b) :=
  Goes.andThen hc fun yes => by
    cases yes with
    | true => exact ha
    | false => exact hb

/-- The run ends here unless the result is `notClose`. -/
theorem triple_goOn {r : PayloadResult} {b : β} {rest : Cmd (ρ × Nav) β}
    (hb : r ≠ .notClose → ¬ ok' b) (hrest : G.Goes N ok' M' rest) :
    Triple G.Safe (G.Upto N (r = .notClose)) (if r ≠ .notClose then Pure.pure b else rest)
      fun b => G.Upto (M' b) (ok' b) :=
  Triple.ite (fun hr => stop_pure b (hb hr)) fun hr => hrest.go (not_not.mp hr)

/-- What the layer does leaves the statics alone. -/
theorem Tells.passes {c : Cmd ρ α} (h : G.Tells c ok) : G.Passes N ok (onFirst c) := by
  rintro ⟨r, n⟩ ⟨hr, hn⟩
  rw [wp_onFirst]
  exact wp_mono (h r hr) (fun a _ ht => ⟨.inl ht.1, fun ha => ⟨ht.2 ha, hn⟩⟩) fun _ ht => .inl ht

/-- A call that keeps the guard passes, whatever the statics are. -/
theorem Holds.passes {c : Cmd ρ α} (h : G.Holds c) : G.Passes N ok (onFirst c) :=
  (h.tells ok).passes

/-- A change of the statics, with a note or without, where the run may have to end. -/
theorem triple_setNav {N' : Nav → Prop} {g : Nav → Nav}
    (hevents : ∀ n, (g n).events = n.events ∨ ∃ e, (g n).events = e :: n.events)
    (hg : ∀ n, N n → N' (g n)) : Triple G.Safe (G.Upto N p) (setNav g) fun _ => G.Upto N' p :=
  fun s hs => ⟨hs.1.note (hevents s.2), fun hp => ⟨(hs.2 hp).1, hg s.2 (hs.2 hp).2⟩⟩

/-- A change of the statics, and then something else. -/
theorem Goes.set {N' : Nav → Prop} {g : Nav → Nav} {rest : Cmd (ρ × Nav) β}
    (hg : ∀ n, N n → N' (g n)) (hrest : G.Goes N' ok' M' rest) :
    G.Goes N ok' M' (setNav g >>= fun _ => rest) :=
  fun s hs => hrest (s.1, g s.2) ⟨hs.1, hg s.2 hs.2⟩

/-- A change of other statics, and then something else. -/
theorem Goes.change {g : Nav → Nav} {rest : Cmd (ρ × Nav) β} (hN : Plain N)
    (hg : ∀ n, Same n (g n)) (hrest : G.Goes N ok' M' rest) :
    G.Goes N ok' M' (setNav g >>= fun _ => rest) := Goes.set (fun n => hN n (g n) (hg n)) hrest

/-- A loop, from an invariant of one round. -/
theorem Goes.loop {L : Layer ρ} {I : β → Nav → Prop} {body : β → Cmd (ρ × Nav) (β ⊕ γ)}
    {ok : γ → Prop} {M : γ → Nav → Prop}
    (hbody : ∀ b, G.Goes (I b) (fun r => r.elim (fun _ => True) ok) (fun r => r.elim I M) (body b))
    (b : β) : G.Goes (I b) ok M (repeatRounds L body b) := by
  rintro ⟨r, n⟩ hs
  unfold repeatRounds
  rw [wp_bind]
  refine wp_iterate (I := fun b s => G.good s.1 ∧ I b s.2) ?_ ?_ _ b (r, n) hs
  · intro b s hs
    refine wp_mono (hbody b s hs) ?_ fun _ ht => ht
    rintro (b' | c) t ht
    · exact ht.2 trivial
    · exact ht
  · exact fun _ _ hs => safe_of_good hs.1

end Guard

namespace Navigation

open Guard

/-! ## At a stop -/

/-- An attempt, whose end is noted in the statics. -/
theorem passes_attempt {G : Guard ρ} {N : Nav → Prop} (hN : Plain N) {e : GateNote}
    {c : Cmd ρ AttemptEnd} (hc : G.Tells c fun e => e.result ≠ .fatal) :
    G.Passes N (· ≠ .fatal) (do
      noteGate e
      let finish ← onFirst c
      setNav fun n => { n with attemptRunning := finish.running }
      return finish.result) := by
  refine Goes.change hN (fun _ => ⟨rfl, rfl, rfl⟩) (hc.passes.bind fun finish => ?_)
  rintro s ⟨hended, hgood⟩
  exact ⟨hended.note (.inl rfl), fun hok => ⟨(hgood hok).1, hN s.2 _ ⟨rfl, rfl, rfl⟩ (hgood hok).2⟩⟩

section Stops

variable {G : Guard ρ} {L : Layer ρ} {N : Nav → Prop} {α β : Type} {ok : β → Prop}
  {M : β → Nav → Prop}

section Bears

variable (hL : L.Bears G)
include hL

/-- A line of the report, and then something else. -/
theorem passes_line {rest : Cmd (ρ × Nav) β} (hrest : G.Goes N ok M rest) :
    G.Goes N ok M (reportPrintf L >>= fun _ => rest) :=
  fun s hs => hrest (L.reportPrintf s.1, s.2) ⟨hL.reportPrintf s.1 hs.1, hs.2⟩

/-- A report before a command changes nothing. -/
theorem passes_reportIf (b : Bool) {rest : Cmd (ρ × Nav) β} (hrest : G.Goes N ok M rest) :
    G.Goes N ok M (reportIf L b >>= fun _ => rest) := by
  cases b with
  | true => exact passes_line hL hrest
  | false => exact hrest

/-- A fault ends the run, with a line of the report. -/
theorem passes_fault {f : Fault} (hf : f ≠ .profile) (b : β) :
    G.Passes N ok (do onFirst (L.faultRaise f); reportPrintf L; pure b) :=
  (hL.faultRaise f hf).passes.andThen fun _ => passes_line hL (Passes.pure b)

/-- Stopping for a fault keeps the guard, unless a profile was found full. -/
theorem passes_stopFor {f : Fault} (hf : f ≠ .profile) : G.Holds (L.stopFor f) :=
  Triple.bind hL.stop fun _ => hL.faultRaise f hf

/-- The tests of STOP and of the report pass. -/
theorem passes_runCanContinue {ok : Bool → Prop} : G.Passes N ok (runCanContinue L) :=
  Goes.look fun n _ => (hL.canContinue n.runStartedMs).passes

/-- A checkpoint passes; a failed one ends the run. -/
theorem passes_saveCheckpoint : G.Passes N (· = true) (saveCheckpoint L) := by
  refine hL.stop.passes.andThen fun _ => Goes.look fun n _ => Goes.ite (fun _ => Passes.pure _) ?_
  intro _
  refine (hL.quiesce n.runStartedMs).passes.unless ?_ (by decide)
  refine hL.reportCheckpoint.passes.whether (Passes.pure _) ?_
  exact (hL.faultRaise _ (by decide)).passes.andThen fun _ => Passes.pure _

/-- Reading the colour passes, by induction on the readings that are left. -/
theorem passes_readZones {ok : Option (List Zone) → Prop} (n : ℕ) (zones : List Zone) :
    G.Passes N ok (readZones L n zones) := by
  induction n generalizing zones with
  | zero => exact Passes.pure _
  | succ n ih =>
    apply hL.readFresh.passes.andThen
    rintro (_ | reading)
    · exact Passes.pure _
    · exact ih _

variable (hN : Plain N)
include hN

/-- The colour check passes. -/
theorem passes_colourArrivalCheck {ok : Bool → Prop} : G.Passes N ok (colourArrivalCheck L) := by
  refine Goes.look fun n _ => Goes.ite (fun _ => Passes.pure _) fun _ => ?_
  refine Goes.change hN (fun _ => ⟨rfl, rfl, rfl⟩) ?_
  apply (passes_readZones hL 3 []).andThen
  rintro (_ | zones)
  · exact Goes.change hN (fun _ => ⟨rfl, rfl, rfl⟩) (passes_line hL (Passes.pure _))
  · refine Goes.change hN (fun _ => ⟨rfl, rfl, rfl⟩) (Goes.look fun n _ => ?_)
    exact Goes.change hN (fun _ => ⟨rfl, rfl, rfl⟩) (passes_line hL (Passes.pure _))

/-- The Wi-Fi gate passes. -/
theorem passes_closeGate {ok : Bool → Prop} : G.Passes N ok (closeGate L) := by
  refine (passes_colourArrivalCheck hL hN).andThen fun onMat => ?_
  refine Goes.change hN (fun _ => ⟨rfl, rfl, rfl⟩) (Goes.look fun n _ => Goes.ite (fun _ => ?_) ?_)
  · exact passes_line hL (Passes.pure _)
  · intro _
    refine Goes.change hN (fun n => ?_) (passes_reportIf hL onMat (Passes.pure _))
    split <;> exact ⟨rfl, rfl, rfl⟩

end Bears

variable (hL : L.Keeps G)
include hL

section Attempts

variable (hN : Plain N)
include hN

/-- An attempt passes unless it was fatal. -/
theorem passes_payloadTry (wasClose : Bool) :
    G.Passes N (· ≠ some .fatal) (payloadTry L wasClose) := by
  have hsome {c : Cmd (ρ × Nav) PayloadResult} (hc : G.Passes N (· ≠ .fatal) c) :
      G.Passes N (· ≠ some .fatal) (do let result ← c; return some result) := by
    refine hc.bind fun result s hs => ⟨hs.1, fun h => hs.2 fun hfatal => h (congrArg some hfatal)⟩
  refine Goes.ite (fun _ => hsome (Goes.look fun n _ => passes_attempt hN (hL.payloadRetry _))) ?_
  intro _
  refine (passes_closeGate hL.toBears hN).whether ?_ (Passes.pure _)
  exact hsome (Goes.look fun n _ => passes_attempt hN (hL.payloadAttempt _))

/-- Several attempts pass unless the last one was fatal. -/
theorem passes_payloadAttempts (k : ℕ) (wasClose : Bool) :
    G.Passes N (· ≠ .fatal) (payloadAttempts L k wasClose) := by
  induction k generalizing wasClose with
  | zero => exact passes_fault hL.toBears (by decide) _
  | succ k ih =>
    refine (passes_runCanContinue hL.toBears).unless ?_ (by simp)
    refine (passes_saveCheckpoint hL.toBears).unless ?_ (by simp)
    -- after an attempt that is not fatal: return, or try again close to the beacon
    have hafter (r : PayloadResult) : G.Passes N (· ≠ .fatal) (do
        if !(← saveCheckpoint L) then
          return .fatal
        if r = .complete ∨ (r = .notClose ∧ wasClose = false) then
          return r
        if k = 0 then
          payloadAttempts L k true
        else
          reportPrintf L
          if ← onFirst (L.pauseMs 200) then
            payloadAttempts L k true
          else
            return .fatal) := by
      refine (passes_saveCheckpoint hL.toBears).unless ?_ (by simp)
      refine Goes.ite (fun _ => Passes.pure _) fun _ => Goes.ite (fun _ => ih true) fun _ => ?_
      exact passes_line hL.toBears ((hL.pauseMs 200).passes.whether (ih true) (Passes.pure _))
    apply (passes_payloadTry hL hN wasClose).bind
    rintro (_ | _ | _ | _ | _)
    · exact (Passes.pure _).go nofun
    · exact (hafter .notClose).go (by simp)
    · exact (hafter .retry).go (by simp)
    · exact (hafter .complete).go (by simp)
    · exact stop_pure _ (by simp)

end Attempts

/-- **A payload check** notes its result. -/
theorem goes_checkPayload (place : Place) :
    G.Goes N (· ≠ .fatal) (fun r => Noted N place r) (checkPayload L place) := by
  -- the attempts leave the statics as they are
  let Near (m : Nav) : Prop := ∃ n, N n ∧ Same n m
  have hnear : Plain Near := fun m k hk ⟨n, hn, hm⟩ => ⟨n, hn, hm.trans hk⟩
  have hattempts : G.Passes Near (· ≠ .fatal) (do
      setNav fun n => { n with colourArrived := false }
      payloadAttempts L maxPayloadAttempts false) :=
    Goes.change hnear (fun _ => ⟨rfl, rfl, rfl⟩) (passes_payloadAttempts hL hnear _ _)
  have hnote (r : PayloadResult) : Triple G.Safe (G.Upto Near (r ≠ .fatal)) (do
      let n ← getNav
      note (.checked place n.colourArrived r n.matScansUsed)
      return r) fun r => G.Upto (Noted N place r) (r ≠ .fatal) := by
    rintro s ⟨hended, hgo⟩
    refine ⟨hended.note (.inr ⟨_, rfl⟩), fun hr => ⟨(hgo hr).1, ?_⟩⟩
    obtain ⟨n, hn, hm⟩ := (hgo hr).2
    exact ⟨n, _, _, hn, congrArg (List.cons _) hm.events, hm.translationMs, hm.profileCount⟩
  have hrun := Triple.bind hattempts hnote
  refine Triple.before (P := fun s => G.good s.1 ∧ Near s.2) ?_ ?_
  · exact fun s hs => ⟨hs.1, s.2, hs.2, Same.refl s.2⟩
  · unfold checkPayload
    simpa only [bind_assoc] using hrun

/-- A check keeps what notes do not change. -/
theorem passes_checkPayload (hN : Lasting N) (place : Place) :
    G.Passes N (· ≠ .fatal) (checkPayload L place) := by
  refine (goes_checkPayload hL place).after fun r s hs => ⟨hs.1, fun hr => ⟨(hs.2 hr).1, ?_⟩⟩
  obtain ⟨n, arrived, scans, hn, hm⟩ := (hs.2 hr).2
  exact hN.same _ s.2 hm (hN.note n _ hn)

/-- A check that ends the run unless it says `notClose`. -/
theorem passes_check (hN : Lasting N) (place : Place) :
    G.Passes N (· = .notClose) (checkPayload L place) :=
  (passes_checkPayload hL hN place).less (fun _ h => by simp [h]) fun _ _ _ h => h

/-- **A sample**, or the end of the run. -/
theorem passes_waitForWifi (hN : Lasting N) (place : Place) (k : ℕ) :
    G.Passes N (fun r => ∃ sample, r = .ok sample) (waitForWifi L place k) := by
  induction k with
  | zero => exact passes_line hL.toBears (Passes.pure _)
  | succ k ih =>
    apply Goes.look
    intro n _
    apply (hL.sample n.runStartedMs).passes.bind
    rintro (_ | sample)
    · exact stop_pure _ nofun
    refine ((passes_saveCheckpoint hL.toBears).unless ?_ (by simp)).go (by simp)
    refine Goes.ite (fun _ => Passes.pure _) fun _ => passes_line hL.toBears ?_
    refine (passes_checkPayload hL hN place).bind fun result => ?_
    by_cases hr : result = .complete ∨ result = .fatal
    · rw [if_pos hr]
      exact stop_pure _ nofun
    rw [if_neg hr]
    exact ((hL.pauseMs 500).passes.unless ih (by simp)).go fun hfatal => hr (.inr hfatal)

/-- Measuring a pair passes if both samples were found. -/
theorem passes_measurePair (hN : Lasting N) (place : Place) :
    G.Passes N (fun r => ∃ pair, r = .ok pair) (measurePair L place) := by
  apply (passes_waitForWifi hL hN place _).bind
  rintro (result | first)
  · exact stop_pure _ nofun
  refine (Goes.bind (passes_waitForWifi hL hN place _) ?_).go ⟨first, rfl⟩
  rintro (result | second)
  · exact stop_pure _ nofun
  · exact (Passes.pure _).go ⟨second, rfl⟩

end Stops

end Navigation
