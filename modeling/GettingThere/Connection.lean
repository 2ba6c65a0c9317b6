/-
# One connection between the robot and a beacon

The callbacks of `payload_client.c` and the handlers of `beacon_server.c` over one link.
BTstack carries out what either side asks for:

* a write goes to the beacon's `att_write_callback`; the answer to it becomes a query
  completion for the client;
* a can-send-now request becomes a can-send-now event, and the notification sent there
  goes to the client;
* a disconnect request of the client ends the link, and each side is told.

What is on its way (`Traffic`) is handed over in order, and nothing fixes in which order
the completion of a write and the notification it caused reach the client.
-/
import GettingThere.BeaconServer
import GettingThere.PayloadClient
import GettingThere.Transition

namespace Connection

open TransferProtocol PayloadClient

/-- What BTstack holds of the link: write requests for the beacon, answered writes whose
completion the client has not had, can-send-now events owed to the beacon, notifications
for the client, and which sides an ended link still has to be reported to. -/
structure Traffic where
  writes : List Bytes
  completions : ℕ
  canSends : ℕ
  notifications : List Bytes
  endsClient : Bool
  endsBeacon : Bool
  deriving DecidableEq, Repr

/-- The two parties and the link between them. -/
structure Link where
  client : Client
  beacon : BeaconServer.Beacon
  traffic : Traffic
  deriving DecidableEq

/-- What can happen next. The clock of the client's `set_state` is `now`. -/
inductive Action
  | deliverWrite
  | canSendNow
  | deliverNotification (now : UInt32)
  | deliverCompletion (now : UInt32)
  | endClient (now : UInt32)
  | endBeacon
  deriving DecidableEq, Repr

/-- Each side's name for the connection, and the client's for the transfer characteristic. -/
structure Names where
  robotCon : ConHandle
  beaconCon : ConHandle
  valueHandle : UInt16
  deriving DecidableEq, Repr

variable (names : Names) (robotFile : Bytes) (cfg : BeaconServer.Config)

/-- A callback at time `now` in which BTstack takes every request. -/
def granted (now : UInt32) : Env := ⟨now, 0, 0, 0, 0, false, false, false⟩

/-- The values written to the transfer characteristic among the client's calls. -/
def written (calls : List Call) : List Bytes :=
  calls.filterMap fun
    | .write handle valueHandle value =>
      if handle = some names.robotCon ∧ valueHandle = names.valueHandle then some value else none
    | _ => none

/-- The client asked for the end of the connection. -/
def hungUp (calls : List Call) : Bool := .disconnect names.robotCon ∈ calls

/-- The client has run a callback: BTstack takes over what it asked for. -/
def Link.clientRan (client : Client) (x : Link) : Link :=
  let asked := client.calls.drop x.client.calls.length
  let ended := hungUp names asked
  { x with
    client := client
    traffic := { x.traffic with
      writes := x.traffic.writes ++ written names asked
      endsClient := x.traffic.endsClient || ended
      endsBeacon := x.traffic.endsBeacon || ended } }

/-- How often a handler asked for a can-send-now event. -/
def requested (effects : List BeaconServer.Effect) : ℕ :=
  effects.count (.requestCanSendNow names.beaconCon)

/-- The values a handler notified. -/
def notified (effects : List BeaconServer.Effect) : List Bytes :=
  effects.filterMap fun
    | .notify con value => if con = some names.beaconCon then some value else none
    | _ => none

/-- The beacon has run a handler: BTstack takes over what it asked for. -/
def Link.beaconRan (r : BeaconServer.Beacon × List BeaconServer.Effect) (x : Link) : Link :=
  { x with
    beacon := r.1
    traffic := { x.traffic with
      canSends := x.traffic.canSends + requested names r.2
      notifications := x.traffic.notifications ++ notified names r.2 } }

/-- A write request reaches the beacon, whose answer makes its completion due. -/
def deliverWrite (x : Link) : Option Link :=
  match x.traffic.writes with
  | [] => none
  | value :: rest =>
    some (Link.beaconRan names
      (BeaconServer.handle cfg x.beacon (.attWrite names.beaconCon .value value))
      { x with traffic := { x.traffic with
        writes := rest, completions := x.traffic.completions + 1 } })

/-- The beacon gets a can-send-now event it asked for. -/
def canSendNow (x : Link) : Option Link :=
  match x.traffic.canSends with
  | 0 => none
  | n + 1 =>
    some (Link.beaconRan names (BeaconServer.handle cfg x.beacon .canSendNow)
      { x with traffic := { x.traffic with canSends := n } })

/-- The oldest notification reaches the client. -/
def deliverNotification (now : UInt32) (x : Link) : Option Link :=
  match x.traffic.notifications with
  | [] => none
  | value :: rest =>
    some (Link.clientRan names
      (handle robotFile (granted now) (.notification names.robotCon names.valueHandle value) x.client)
      { x with traffic := { x.traffic with notifications := rest } })

/-- The completion of an answered write reaches the client. -/
def deliverCompletion (now : UInt32) (x : Link) : Option Link :=
  match x.traffic.completions with
  | 0 => none
  | n + 1 =>
    some (Link.clientRan names
      (handle robotFile (granted now) (.queryComplete names.robotCon 0) x.client)
      { x with traffic := { x.traffic with completions := n } })

/-- The client is told that the link has ended. -/
def endClient (now : UInt32) (x : Link) : Option Link :=
  if x.traffic.endsClient then
    some (Link.clientRan names
      (handle robotFile (granted now) (.disconnectionComplete names.robotCon) x.client)
      { x with traffic := { x.traffic with endsClient := false } })
  else none

/-- The beacon is told that the link has ended. -/
def endBeacon (x : Link) : Option Link :=
  if x.traffic.endsBeacon then
    some (Link.beaconRan names (BeaconServer.handle cfg x.beacon .disconnectionComplete)
      { x with traffic := { x.traffic with endsBeacon := false } })
  else none

/-- One move of the link. -/
def step (x : Link) : Action → Option Link
  | .deliverWrite => deliverWrite names cfg x
  | .canSendNow => canSendNow names cfg x
  | .deliverNotification now => deliverNotification names robotFile now x
  | .deliverCompletion now => deliverCompletion names robotFile now x
  | .endClient now => endClient names robotFile now x
  | .endBeacon => endBeacon names cfg x

/-! ## The completed write to the client configuration -/

/-- Nothing is on its way but the completion of the configuration write. -/
def Traffic.subscribed : Traffic := ⟨[], 1, 0, [], false, false⟩

/-- A beacon that has handled the end of an earlier connection, is connected again and has
had its client configuration written. -/
def subscribed (b : BeaconServer.Beacon) : BeaconServer.Beacon :=
  let b := (BeaconServer.handle cfg b .disconnectionComplete).1
  let b := (BeaconServer.handle cfg b (.leConnectionComplete names.beaconCon)).1
  (BeaconServer.handle cfg b (.attWrite names.beaconCon .clientConfiguration [1, 0])).1

/-- A client that has run `start_attempt_callback` and then the handlers of any packets. -/
def attempted (env : Env) (packets : List (PayloadClient.Event × Env)) (c : Client) : Client :=
  packets.foldl (fun c packet => handle robotFile packet.2 packet.1 c) (startAttemptCallback env c)

/-- The client has found the transfer characteristic of the connection and waits for the
completion of its configuration write; no abort is requested. -/
structure Subscribing (c : Client) : Prop where
  state : c.bleState = .enableNotifications
  handle : c.connectionHandle = some names.robotCon
  value : c.valueHandle = names.valueHandle
  abort : c.abortRequested = false

/-- The exchange is over: the client's attempt has ended and the beacon is free again. -/
def Link.Final (x : Link) : Prop :=
  x.client.bleState = .idle ∧ x.beacon.connectionHandle = none

end Connection
