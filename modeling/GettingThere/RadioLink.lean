/-
# The radio below the client

BTstack and its controller as the client sees them, and the whole that the two make up.
`Radio` is what they hold of the client's requests: whether a scan is enabled, the scan
commands without an answer, a connection that is being opened or is open, and the
notification listener.

* `sends` are the packets the radio may deliver, and `after` what it holds behind one: every
  scan command is answered once and in order, reports come between an acknowledged start and
  the acknowledgement of the stop, an accepted `gap_connect` ends in one connection complete,
  and a link in one disconnection complete.  Status and delay are free, and so are all other
  packets.
* `hear` is what it takes from a call of the client.
* `airStep` moves the client of `PayloadAttempt` and the radio together, and `Prompt` says that
  the run loop has run the callbacks of one attempt before the next one begins.
-/
import GettingThere.PayloadAttempt

namespace PayloadClient

open Transition

/-! ## Requests and answers -/

/-- The commands behind `gap_start_scan` and `gap_stop_scan`. -/
inductive ScanCommand
  | start
  | stop
  deriving DecidableEq, Repr

/-- What BTstack and the controller hold. `overlap` notes that `gap_connect` was called while
a scan was enabled or a scan command had no answer. -/
structure Radio where
  scanning : Bool
  unanswered : List ScanCommand
  connecting : Bool
  link : Option ConHandle
  listener : Bool
  overlap : Bool
  deriving DecidableEq, Repr

/-- The radio at rest. -/
def Radio.rest : Radio := ⟨false, [], false, none, false, false⟩

/-- No scan is enabled or about to be, no connection is open or being opened, and no listener
is registered. -/
def Radio.Quiet (k : Radio) : Prop :=
  k.scanning = false ∧ k.unanswered = [] ∧ k.connecting = false ∧ k.link = none ∧
    k.listener = false

instance (k : Radio) : Decidable k.Quiet := by
  unfold Radio.Quiet
  infer_instance

/-- The packets the radio may deliver now. -/
def Radio.sends (k : Radio) : Event → Bool
  | .commandComplete true _ => k.unanswered ≠ []
  | .advertisingReport _ => k.scanning
  | .connectionComplete _ _ => k.connecting
  | .disconnectionComplete handle => k.link = some handle
  | _ => true

/-- The radio once it has delivered a packet. A scan command that fails changes nothing. -/
def Radio.after (k : Radio) : Event → Radio
  | .commandComplete true status =>
    match k.unanswered with
    | [] => k
    | command :: rest =>
      { k with
        unanswered := rest
        scanning := if status = 0 then command = .start else k.scanning }
  | .connectionComplete status handle =>
    { k with connecting := false, link := if status = 0 then some handle else k.link }
  | .disconnectionComplete _ => { k with link := none }
  | _ => k

/-- No packet is a call. -/
@[simp] theorem Radio.after_overlap (k : Radio) (event : Event) :
    (k.after event).overlap = k.overlap := by
  unfold Radio.after
  split
  · split <;> rfl
  all_goals rfl

/-- What the radio takes from a call; `env` says whether BTstack accepts a connection. -/
def Radio.hear (env : Env) (k : Radio) : Call → Radio
  | .startScan => { k with unanswered := k.unanswered ++ [.start] }
  | .stopScan => { k with unanswered := k.unanswered ++ [.stop] }
  | .connect _ _ =>
    { k with
      connecting := k.connecting || env.connect = 0
      overlap := k.overlap || k.scanning || k.unanswered ≠ [] }
  | .listen => { k with listener := true }
  | .stopListening => { k with listener := false }
  | _ => k

/-- The radio behind some calls, in order. -/
def Radio.obey (env : Env) (k : Radio) (calls : List Call) : Radio := calls.foldl (Radio.hear env) k

/-- The calls made between two states of a log. -/
def newCalls (c d : Client) : List Call := d.calls.drop c.calls.length

/-! ## Client and radio together -/

/-- The client with the radio below it. -/
structure Air where
  sys : Sys
  radio : Radio
  deriving DecidableEq

/-- Everything at rest. -/
def Air.boot : Air := ⟨.boot, .rest⟩

variable (robotFile : Bytes)

/-- One move of the whole. -/
def airStep (s : Air) : Action → Option Air
  | .main world => (mainStep world s.sys).map fun t => { s with sys := t }
  | .callback env =>
    (runCallback env s.sys).map fun t =>
      ⟨t, s.radio.obey env (newCalls s.sys.client t.client)⟩
  | .packet event env =>
    if s.radio.sends event then
      let c := handle robotFile env event s.sys.client
      some ⟨{ s.sys with client := c },
        (s.radio.after event).obey env (newCalls s.sys.client c)⟩
    else none

/-- A new attempt begins with an empty run loop: the callbacks of earlier ones have run. -/
def Prompt (s : Air) (action : Action) : Prop := s.sys.Prompt action

instance (s : Air) (action : Action) : Decidable (Prompt s action) := by
  unfold Prompt
  infer_instance

/-- `run_attempt` has cleaned up: unless it returned `PAYLOAD_FATAL`, the radio is quiet and
the client idle; and `gap_connect` was never called during a scan. -/
def Air.CleanedUp (s : Air) : Prop :=
  s.radio.overlap = false ∧
    (s.sys.main.pc = .returned → s.sys.main.returned ≠ .fatal →
      s.radio.Quiet ∧ s.sys.client.bleState = .idle)

instance (s : Air) : Decidable s.CleanedUp := by
  unfold Air.CleanedUp
  infer_instance

end PayloadClient
