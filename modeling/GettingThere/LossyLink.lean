/-
# A link that loses and repeats

The robot and a beacon over one connection once more, now with BTstack's part left open.  Writes
reach the beacon in order, but they may be late, or never come; the beacon's notifications may be
lost, delayed, repeated and reordered.  A notification that was sent is therefore never used up:
`sent` only grows, and any of its values may arrive at any time.

Every other packet may reach the client at any time, with whatever status; GP21 or a timeout may
abort the attempt; and the beacon may lose the link before the client does.
-/
import GettingThere.Connection

namespace LossyLink

open TransferProtocol PayloadClient
open Connection (Names written notified)

/-- The two parties, and what is between them. -/
structure Link where
  client : Client
  beacon : BeaconServer.Beacon
  /-- what the client has written and the beacon has not had -/
  writes : List Bytes
  /-- what the beacon has notified on this connection -/
  sent : List Bytes
  /-- the beacon has not been told of the end of the link -/
  up : Bool

/-- What can happen next. -/
inductive Action
  | deliverWrite
  | canSendNow
  /-- a notification of this connection reaches the client, for the first time or again -/
  | notify (value : Bytes) (env : Env)
  /-- any other packet -/
  | packet (event : PayloadClient.Event) (env : Env)
  /-- the main thread sets `F_ABORT_REQUESTED` -/
  | requestAbort
  | abort (env : Env)
  /-- the beacon is told that the link has ended -/
  | endBeacon

variable (names : Names) (robotFile : Bytes) (cfg : BeaconServer.Config)

/-- The client has run a callback: BTstack takes over what it wrote, unless it refused. -/
def Link.clientRan (env : Env) (client : Client) (x : Link) : Link :=
  { x with
    client := client
    writes := x.writes ++
      if env.write = 0 then written names (client.calls.drop x.client.calls.length) else [] }

/-- The beacon has run a handler. -/
def Link.beaconRan (r : BeaconServer.Beacon × List BeaconServer.Effect) (x : Link) : Link :=
  { x with beacon := r.1, sent := x.sent ++ notified names r.2 }

/-- The oldest write reaches the beacon. -/
def deliverWrite (x : Link) : Option Link :=
  match x.writes with
  | [] => none
  | value :: rest =>
    if x.up then
      some (Link.beaconRan names
        (BeaconServer.handle cfg x.beacon (.attWrite names.beaconCon .value value))
        { x with writes := rest })
    else none

/-- A value of the transfer characteristic. -/
def fromBeacon : PayloadClient.Event → Bool
  | .notification handle valueHandle _ => handle = names.robotCon ∧ valueHandle = names.valueHandle
  | _ => false

/-- One move of the link. -/
def step (x : Link) : Action → Option Link
  | .deliverWrite => deliverWrite names cfg x
  | .canSendNow =>
    if x.up then some (Link.beaconRan names (BeaconServer.handle cfg x.beacon .canSendNow) x)
    else none
  | .notify value env =>
    if value ∈ x.sent then
      some (Link.clientRan names env
        (handle robotFile env (.notification names.robotCon names.valueHandle value) x.client) x)
    else none
  | .packet event env =>
    if fromBeacon names event then none
    else some (Link.clientRan names env (handle robotFile env event x.client) x)
  | .requestAbort => some { x with client := { x.client with abortRequested := true } }
  | .abort env => some (Link.clientRan names env (abortAttemptCallback env x.client) x)
  | .endBeacon =>
    if x.up then
      some { x with
        beacon := (BeaconServer.handle cfg x.beacon .disconnectionComplete).1, up := false }
    else none

/-- The link when the configuration write is about to complete. -/
def opened (client : Client) (b : BeaconServer.Beacon) : Link where
  client := client
  beacon := Connection.subscribed names cfg b
  writes := []
  sent := []
  up := true

end LossyLink
